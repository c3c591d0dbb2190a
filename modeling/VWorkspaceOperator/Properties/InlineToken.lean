import VWorkspaceOperator.Properties.TokenExchange

/-!
# Inline tokens that were exchanged

A registration token may stand in the spec of a `Cluster`.  The exchange takes it out again: but
the spec is written after the credentials, and when that fails the token is taken for exchanged all
the same and never looked at again.  So no exchanged token stands in a spec as long as an exchange
of an inline token that the control plane takes is followed by both writes.
-/

namespace VWorkspace.Registration

open Kit Prog ClusterM

variable {r : ClusterReconciler} {env : ClusterEnv} {w : ClusterWorld}
variable {token name : String} {cluster : ClusterResource} {source : Option TokenSource}

/-- No exchanged token stands in a spec, where it is used from there. -/
structure Unspent (w : ClusterWorld) : Prop where
  inline : ∀ name cluster, w.clusters.get name = some cluster →
    cluster.spec.registrationTokenSecretRef = none →
      trimSpace cluster.spec.registrationToken ∉ w.controlPlane.spent
  blank : "" ∉ w.controlPlane.spent

/-- Nothing keeps an exchange from taking the token out of the spec: the credentials and the spec
can be written, and an answer to it is complete. -/
structure Scrubs (r : ClusterReconciler) (env : ClusterEnv) (cluster : ClusterResource)
    (token : String) (w : ClusterWorld) : Prop where
  persists : Persists r env .registration (controllerReference cluster) w
  update : env.fault .updateSpec = none
  answer : ∀ baseURL clusterID answer, env.register baseURL token clusterID = .ok answer →
    trimSpace answer.clusterID ≠ "" ∧ trimSpace answer.token ≠ ""

/-- A token that may be presented stands in no other spec, and is taken out of its own; and others
put no exchanged token into a spec. -/
def Scrubbing (r : ClusterReconciler) (w : ClusterWorld) : ClusterStep → Prop
  | .reconcile env name => ∀ cluster token source, w.clusters.get name = some cluster →
      ((r.resolveRegistrationToken cluster).run env w).result = .ok (token, source) → token ≠ "" →
        (∀ other cluster', other ≠ name → w.clusters.get other = some cluster' →
          cluster'.spec.registrationTokenSecretRef = none →
            trimSpace cluster'.spec.registrationToken ≠ token) ∧
        (source = some .inline → Scrubs r env cluster token w)
  | .others change => Unspent w → Unspent (change w)

/-- A `Cluster` without a reference to a Secret, whose status has the fingerprint of its inline
token, an exchanged one, has no inline token. -/
def Scrubbed (r : ClusterReconciler) (name : String) (w : ClusterWorld) : Prop :=
  ∀ cluster, w.clusters.get name = some cluster →
    cluster.spec.registrationTokenSecretRef = none →
    cluster.status.observedToken =
      r.tokenFingerprint (trimSpace cluster.spec.registrationToken) →
    trimSpace cluster.spec.registrationToken ∈ w.controlPlane.spent →
    cluster.spec.registrationToken = ""

namespace Unspent

theorem congr (h : Unspent w) {w' : ClusterWorld} (hclusters : w'.clusters = w.clusters)
    (hspent : w'.controlPlane.spent = w.controlPlane.spent) : Unspent w' := by
  refine ⟨fun name cluster hget href => ?_, ?_⟩
  · rw [hspent]
    exact h.inline name cluster (hclusters ▸ hget) href
  · rw [hspent]
    exact h.blank

theorem put (h : Unspent w) {new : ClusterResource}
    (hnew : new.spec.registrationTokenSecretRef = none →
      trimSpace new.spec.registrationToken ∉ w.controlPlane.spent) :
    Unspent { w with clusters := w.clusters.put new } := by
  refine ⟨fun name cluster hget href => ?_, h.blank⟩
  obtain ⟨rfl, -⟩ | hget := Store.of_get_put hget
  · exact hnew href
  · exact h.inline name cluster hget href

theorem erase (h : Unspent w) (name : String) :
    Unspent { w with clusters := w.clusters.erase name } := by
  refine ⟨fun name' cluster hget href => ?_, h.blank⟩
  by_cases hname : name' = name
  · rw [hname, Store.get_erase_self] at hget
    exact absurd hget (by simp)
  · rw [Store.get_erase_of_ne hname] at hget
    exact h.inline name' cluster hget href

theorem exchanged (h : Unspent w) (given : String) (hne : token ≠ "")
    (hinline : ∀ name cluster, w.clusters.get name = some cluster →
      cluster.spec.registrationTokenSecretRef = none →
        trimSpace cluster.spec.registrationToken ≠ token) : Unspent (w.exchanged token given) := by
  refine ⟨fun name cluster hget href => ?_, ?_⟩
  · exact List.not_mem_cons_of_ne_of_not_mem (hinline name cluster hget href)
      (h.inline name cluster hget href)
  · exact List.not_mem_cons_of_ne_of_not_mem hne.symm h.blank

end Unspent

def noGhost (_ : ClusterEvent) (_ : Unit) : Unit := ()

theorem books_unspent : Books noGhost fun _ w => Unspent w where
  tended {t w stored new} hget htended h := h.put fun href => by
    rw [htended.spec] at href ⊢
    exact h.inline _ stored hget href
  erased name h := h.erase name
  memory _ h := h.congr rfl rfl
  heartbeat _ _ := rfl
  warned _ _ _ _ := rfl

theorem of_resolveRegistrationToken (hne : token ≠ "")
    (h : ((r.resolveRegistrationToken cluster).run env w).result = .ok (token, source)) :
    (source = some .secret ∧ cluster.spec.registrationTokenSecretRef ≠ none) ∨
      (source = some .inline ∧ token = trimSpace cluster.spec.registrationToken) := by
  unfold ClusterReconciler.resolveRegistrationToken at h
  split at h
  · next ref href =>
    refine .inl ⟨?_, by simp [href]⟩
    split at h
    · exact absurd h (by simp)
    · obtain ⟨found, -, hrest⟩ := exists_of_result_bind h
      split at hrest
      · exact absurd hrest (by simp)
      · simp only at hrest
        split at hrest
        · exact absurd hrest (by simp)
        · exact (Prod.mk.inj (Except.ok.inj hrest)).2.symm
  · split at h
    · obtain ⟨htoken, hsource⟩ := Prod.mk.inj (Except.ok.inj h)
      exact .inr ⟨hsource.symm, htoken.symm⟩
    · exact absurd (Prod.mk.inj (Except.ok.inj h)).1.symm hne

theorem follows_registerCluster_secret {P : ClusterWorld → Prop} (hne : token ≠ "")
    (href : cluster.spec.registrationTokenSecretRef ≠ none)
    (hinline : ∀ w, P w → ∀ name cluster, w.clusters.get name = some cluster →
      cluster.spec.registrationTokenSecretRef = none →
        trimSpace cluster.spec.registrationToken ≠ token) :
    Follows noGhost env (With (fun _ w => Unspent w) P) (r.registerCluster cluster token source)
      (fun _ _ w => Unspent w) fun _ w => Unspent w := by
  have hexchanged : ∀ w given, Unspent w → P w → Unspent (w.exchanged token given) :=
    fun w given h hP => h.exchanged given hne (hinline w hP)
  refine follows_registerCluster (M := fun _ _ w => Unspent w) (N := fun _ w => Unspent w)
    books_unspent cluster token source (fun _ _ h => h.1) ?_ (fun resp => ?_) fun resp => ?_
  · exact follows_register _ _ _ (fun _ _ h => h.1) fun _ w answer h _ _ =>
      ⟨fun _ _ => hexchanged w _ h.1 h.2, fun _ _ => hexchanged w _ h.1 h.2⟩
  · exact follows_persistCredentials _ _ _ (fun _ _ h => h) fun _ w secret h _ _ _ _ => h.congr rfl rfl
  · split
    · refine follows_updateCluster _ _ (fun _ _ h => h) (fun _ w stored h _ => ?_)
        fun _ w stored h _ _ => h.erase _
      refine h.put fun hnone => absurd ?_ href
      rw [spec_updated, registrationTokenSecretRef_afterExchange] at hnone
      exact hnone
    · exact .pure fun _ _ h => h

/-- Between an exchange of an inline token and the write that takes it out of the spec: the token
stands in its own spec only. -/
structure Held (name : String) (cluster : ClusterResource) (w : ClusterWorld) : Prop where
  current : w.clusters.get name = some cluster
  others : ∀ other cluster', other ≠ name → w.clusters.get other = some cluster' →
    cluster'.spec.registrationTokenSecretRef = none →
      trimSpace cluster'.spec.registrationToken ∉ w.controlPlane.spent
  blank : "" ∉ w.controlPlane.spent

theorem Held.congr (h : Held name cluster w) {w' : ClusterWorld}
    (hclusters : w'.clusters = w.clusters) (hspent : w'.controlPlane.spent = w.controlPlane.spent) :
    Held name cluster w' := by
  refine ⟨hclusters ▸ h.current, fun other cluster' hne hget href => ?_, hspent ▸ h.blank⟩
  rw [hspent]
  exact h.others other cluster' hne (hclusters ▸ hget) href

theorem Held.put {new : ClusterResource} (h : Held name cluster w)
    (hname : new.metadata.name = name) (htoken : new.spec.registrationToken = "") :
    Unspent { w with clusters := w.clusters.put new } := by
  refine ⟨fun other cluster' hget href => ?_, h.blank⟩
  obtain ⟨rfl, -⟩ | hget' := Store.of_get_put hget
  · rw [htoken]
    exact h.blank
  · by_cases hother : other = name
    · have hself : (w.clusters.put new).get name = some new := by
        rw [← hname]
        exact Store.get_put_self w.clusters new
      rw [hother] at hget
      obtain rfl : new = cluster' := Option.some.inj (hself.symm.trans hget)
      rw [htoken]
      exact h.blank
    · exact h.others other cluster' hother hget' href

theorem follows_registerCluster_inline (hname : cluster.metadata.name = name) (hne : token ≠ "")
    (htoken : token = trimSpace cluster.spec.registrationToken) {P : ClusterWorld → Prop}
    (hcurrent : ∀ w, P w → w.clusters.get name = some cluster)
    (hothers : ∀ w, P w → ∀ other cluster', other ≠ name → w.clusters.get other = some cluster' →
      cluster'.spec.registrationTokenSecretRef = none →
        trimSpace cluster'.spec.registrationToken ≠ token)
    (hscrubs : ∀ w, P w → Scrubs r env cluster token w) :
    Follows noGhost env (With (fun _ w => Unspent w) P)
      (r.registerCluster cluster token (some .inline)) (fun _ _ w => Unspent w)
      fun _ w => Unspent w := by
  have hspec : specChanged (some .inline) cluster = true := by
    have hnonempty : cluster.spec.registrationToken ≠ "" := by
      intro h
      rw [h] at htoken
      exact hne (htoken.trans (by decide))
    simp [specChanged, hnonempty]
  have hheld : ∀ w given, Unspent w → P w → Held name cluster (w.exchanged token given) :=
    fun w given h hP => ⟨hcurrent w hP, fun other cluster' hother hget href =>
      List.not_mem_cons_of_ne_of_not_mem (hothers w hP other cluster' hother hget href)
        (h.inline other cluster' hget href),
      List.not_mem_cons_of_ne_of_not_mem hne.symm h.blank⟩
  let M (resp : RegisterResponse) (_ : Unit) (w : ClusterWorld) : Prop :=
    Held name cluster w ∧ Persists r env .registration (controllerReference cluster) w ∧
      env.fault .updateSpec = none ∧
      Whole ⟨controlPlaneEndpoint cluster, resp.clusterID, resp.token⟩
  refine follows_registerCluster (M := M) (N := fun _ w => Held name cluster w ∧
      env.fault .updateSpec = none)
    books_unspent cluster token _ (fun _ _ h => h.1) ?_ (fun resp => ?_) fun resp => ?_
  · -- an answer that is complete leaves the token held
    refine follows_register _ _ _ (fun _ _ h => h.1) fun _ w answer h hurl hanswer => ?_
    obtain ⟨hclusterID, hgiven⟩ := (hscrubs w h.2).answer _ _ answer hanswer
    have hcheck : checkRegistration answer =
        .ok ⟨trimSpace answer.clusterID, trimSpace answer.token⟩ := by
      simp [checkRegistration, hclusterID, hgiven]
    refine ⟨fun resp hresp => ?_, fun err herr => absurd (hcheck.symm.trans herr) (by simp)⟩
    obtain rfl := Except.ok.inj (hcheck.symm.trans hresp)
    have hpersists := (hscrubs w h.2).persists
    refine ⟨hheld w _ h.1 h.2, ⟨hpersists.ns, hpersists.read, hpersists.create, hpersists.update,
      hpersists.ownable⟩, (hscrubs w h.2).update, ⟨hurl, ?_, ?_⟩⟩
    · rw [trimSpace_trimSpace]
      exact hclusterID
    · rw [trimSpace_trimSpace]
      exact hgiven
  · refine .of_ok (follows_persistCredentials _ _ _ (fun _ _ _ => trivial)
      fun _ w secret h _ _ _ _ => ⟨h.1.congr rfl rfl, h.2.2.1⟩) fun _ w h => ?_
    obtain ⟨a, ha, -⟩ := returns_persistCredentials h.2.1 h.2.2.2
    exact ⟨a, ha⟩
  · rw [if_pos hspec]
    have hchanged : (afterExchange (some .inline) resp.clusterID cluster).metadata.name = name := by
      rw [name_afterExchange, hname]
    refine .of_ok (follows_updateCluster _ _ (fun _ _ _ => trivial) (fun _ w stored h _ => ?_)
      fun _ w stored h _ hnil => ?_) fun _ w h => ?_
    · refine h.1.put ?_ ?_
      · rw [metadata_updated, hchanged]
      · rw [spec_updated, registrationToken_afterExchange]
    · refine ⟨fun other cluster' hget href => ?_, h.1.blank⟩
      by_cases hother : other = (afterExchange (some .inline) resp.clusterID cluster).metadata.name
      · rw [hother, Store.get_erase_self] at hget
        exact absurd hget (by simp)
      · rw [Store.get_erase_of_ne hother] at hget
        exact h.1.others other cluster' (hchanged ▸ hother) hget href
    · have hget : w.clusters.get (afterExchange (some .inline) resp.clusterID
          cluster).metadata.name = some cluster := hchanged ▸ h.1.current
      have hfinalizers : (afterExchange (some .inline) resp.clusterID cluster).metadata.finalizers =
          cluster.metadata.finalizers := finalizers_afterExchange _ _ _
      have hreturns : Returns env w (updateCluster .updateSpec (afterExchange (some .inline)
          resp.clusterID cluster)) fun _ _ => True := returns_updateCluster h.2 hget hfinalizers
      obtain ⟨a, ha, -⟩ := hreturns
      exact ⟨a, ha⟩

theorem follows_rotateCredentials_unspent :
    Follows noGhost env (With (fun _ w => Unspent w) fun w => w.clusters.get name = some cluster)
      (r.rotateCredentials cluster)
      (fun answer _ w => Unspent w ∧ answer.1.metadata.name = cluster.metadata.name)
      fun _ w => Unspent w := by
  refine follows_rotateCredentials
    (M := fun _ _ => With (fun _ w => Unspent w) fun w => w.clusters.get name = some cluster)
    (N := With (fun _ w => Unspent w) fun w => w.clusters.get name = some cluster)
    books_unspent cluster (fun _ _ h => h.1) (fun creds client _ => ?_) (fun creds token => ?_) ?_
  · refine follows_rotate client (fun _ _ _ h _ => h.1.1) fun _ w answer h _ => ?_
    exact ⟨fun _ _ => ⟨h.1.1.congr rfl rfl, h.1.2⟩, fun _ _ => h.1.1.congr rfl rfl⟩
  · exact follows_persistCredentials _ _ _ (fun _ _ h => h.1)
      fun _ w secret h _ _ _ _ => ⟨h.1.congr rfl rfl, h.2⟩
  · exact follows_updateCluster _ _ (fun _ _ h => h.1)
      (fun _ w stored h _ => h.1.put (h.1.inline name cluster h.2)) fun _ w stored h _ _ => h.1.erase _

theorem Presents.scrubbing {w₀ : ClusterWorld}
    (hpresents : Presents env r w₀ name cluster token source w)
    (h : Scrubbing r w₀ (.reconcile env name)) :
    (∀ w, Opened w₀ name cluster w → ∀ other cluster', other ≠ name →
      w.clusters.get other = some cluster' → cluster'.spec.registrationTokenSecretRef = none →
        trimSpace cluster'.spec.registrationToken ≠ token) ∧
    (source = some .inline → ∀ w, Opened w₀ name cluster w → Scrubs r env cluster token w) := by
  obtain ⟨cluster₀, hget, htended, -⟩ := hpresents.start
  have hresolved := hpresents.resolved
  rw [resolveRegistrationToken_congr htended.spec,
    result_resolveRegistrationToken_congr hpresents.secrets] at hresolved
  obtain ⟨hother, hscrubs⟩ := h cluster₀ token source hget hresolved hpresents.token_ne
  refine ⟨fun w' hw' other cluster' hne hget' => ?_, fun hsource w' hw' => ?_⟩
  · exact hother other cluster' hne ((hw'.others other hne).symm.trans hget')
  · obtain ⟨⟨hns, hread, hcreate, hupdate, hownable⟩, hspec, hanswer⟩ := hscrubs hsource
    have howner : controllerReference cluster = controllerReference cluster₀ := by
      rw [controllerReference, htended.metadata]
      rfl
    refine ⟨⟨hns, hread, hcreate, hupdate, ?_⟩, hspec, hanswer⟩
    rw [hw'.secrets, howner]
    exact hownable

theorem Scrubbing.unspent {a : ClusterStep} (h : Scrubbing r w a) (hw : Unspent w) :
    Unspent (r.step w a) := by
  cases a with
  | others change => exact h hw
  | reconcile env name =>
    have hreconcile : Follows noGhost env (With (fun _ w => Unspent w) (· = w)) (r.reconcile name)
        (fun _ _ w => Unspent w) (fun _ w => Unspent w) := by
      refine follows_reconcile books_unspent books_unspent (fun _ _ => id)
        (fun cluster token source => ?_) fun cluster hname _ => ?_
      · intro t w' hw'
        have hpresents := hw'.2
        obtain ⟨hother, hscrubs⟩ := hpresents.scrubbing h
        obtain ⟨rfl, href⟩ | ⟨rfl, htoken⟩ :=
          of_resolveRegistrationToken hpresents.token_ne hpresents.resolved
        · refine follows_registerCluster_secret hpresents.token_ne href (fun w'' hw'' => ?_) t w' hw'
          intro other cluster' hget hnone
          by_cases heq : other = name
          · rw [heq, hw''.current] at hget
            exact absurd (Option.some.inj hget ▸ hnone) href
          · exact hother w'' hw''.toOpened other cluster' heq hget hnone
        · exact follows_registerCluster_inline hpresents.name hpresents.token_ne htoken
            (fun w'' hw'' => hw''.current) (fun w'' hw'' => hother w'' hw''.toOpened)
            (fun w'' hw'' => hscrubs rfl w'' hw''.toOpened) t w' hw'
      · exact follows_rotateCredentials_unspent.post (fun _ _ _ h => ⟨h.1, h.2.trans hname⟩)
    exact hreconcile.state (t := ()) ⟨hw, rfl⟩

theorem unspent_of_scrubbing {steps : List ClusterStep} (hw : Unspent w)
    (h : Along r.step (Scrubbing r) w steps) : Unspent (exec r.step w steps) :=
  exec_of_along h (fun _ _ ha hs => ha.unspent hs) hw

theorem inline_token_scrubbed {steps : List ClusterStep} (hw : Unspent w)
    (h : Along r.step (Scrubbing r) w steps) (name : String) :
    Scrubbed r name (exec r.step w steps) := by
  rintro cluster hget href - hspent
  exact absurd hspent ((unspent_of_scrubbing hw h).inline name cluster hget href)

theorem sample_inline_token_scrubbed :
    let w := exec sampleController.step (unregistered sampleCluster)
      [.reconcile sampleAnswers "main"]
    w.controlPlane.spent = ["reg-1"] ∧
      (w.clusters.get "main").map (·.spec.registrationToken) = some "" ∧
      (w.clusters.get "main").map (·.status.observedToken) =
        some (sampleController.tokenFingerprint "reg-1") ∧
      Scrubbed sampleController "main" w := by
  refine ⟨by decide +kernel, by decide +kernel, by decide +kernel, ?_⟩
  have hunspent : Unspent (unregistered sampleCluster) := ⟨fun _ _ _ _ => by simp [unregistered],
    by simp [unregistered]⟩
  have halong : Along sampleController.step (Scrubbing sampleController) (unregistered sampleCluster)
      [.reconcile sampleAnswers "main"] := by
    refine ⟨fun cluster token source hget _ _ => ⟨fun other cluster' hother hget' => ?_,
      fun _ => ⟨⟨by decide, rfl, rfl, rfl, fun secret hsecret => ?_⟩, rfl,
        fun _ _ answer hanswer => ?_⟩⟩, trivial⟩
    · obtain ⟨-, hkey⟩ | hnone := Store.of_get_put hget'
      · exact absurd hkey.symm hother
      · exact absurd hnone (by simp [Store.get])
    · have hnone : (unregistered sampleCluster).secrets.get sampleController.persistPlace = none := by
        decide +kernel
      exact absurd (hsecret.symm.trans hnone) (by simp)
    · obtain rfl := Except.ok.inj hanswer
      decide
  exact inline_token_scrubbed hunspent halong "main"

theorem inline_token_stays :
    let w := exec sampleController.step (unregistered sampleCluster)
      [.reconcile specConflict "main"]
    ((sampleController.reconcile "main").run specConflict
        (unregistered sampleCluster)).result.toOption = some { requeueAfter := 60 } ∧
      w.controlPlane.spent = ["reg-1"] ∧
      (w.clusters.get "main").map (fun cluster => (cluster.spec.registrationTokenSecretRef,
        cluster.spec.registrationToken, cluster.status.observedToken)) =
          some (none, "reg-1", sampleController.tokenFingerprint "reg-1") := by
  decide +kernel

end VWorkspace.Registration
