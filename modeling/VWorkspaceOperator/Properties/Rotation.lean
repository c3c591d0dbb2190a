import Mathlib.Algebra.GroupWithZero.Nat
import VWorkspaceOperator.Properties.StaysConnected

/-!
# Rotations of the credentials

A rotation has three effects that are not one: the control plane gives out a new token and takes no
other from then on, the token is written to the Secret, and the flag that asked for the rotation is
cleared.  Where the second fails the operator is left with a token that is not accepted any more;
where the third fails the flag asks for another rotation.  Without such failures a flag that is set
once leads to one call at most, and the token in the Secret is the one that is accepted.
-/

namespace VWorkspace.Registration

open Kit Prog ClusterM

variable {r : ClusterReconciler} {env : ClusterEnv} {w w₀ : ClusterWorld} {name : String}
variable {cluster : ClusterResource}

def Matched (r : ClusterReconciler) (w : ClusterWorld) : Prop :=
  ∀ secret, w.secrets.get r.credentialsPlace = some secret →
    secret.credentials.entry "token" = w.controlPlane.accepted

def flag (w : ClusterWorld) (name : String) : ℕ :=
  ((w.clusters.get name).map fun cluster => cluster.spec.rotateCredentials.toNat).getD 0

def settings (name : String) (w : ClusterWorld) : ClusterStep → ℕ
  | .reconcile _ _ => 0
  | .others change => flag (change w) name - flag w name

def isRotation : ClusterEvent → Bool
  | .rotateCalled _ => true
  | _ => false

/-- How often a step rotates the credentials for this `Cluster`. -/
def rotations (r : ClusterReconciler) (name : String) (w : ClusterWorld) : ClusterStep → ℕ
  | .reconcile env name' =>
      if name' = name then (r.emitted w (.reconcile env name')).countP isRotation else 0
  | .others _ => 0

/-- A token that the control plane accepts in this reconcile. -/
def Good (env : ClusterEnv) (w : ClusterWorld) (token : String) : Prop :=
  token = w.controlPlane.accepted ∨ ∃ baseURL registrationToken clusterID answer,
    env.register baseURL registrationToken clusterID = .ok answer ∧ token = trimSpace answer.token

/-- The credentials and the flag can be written, and the control plane gives a new token for one
that it accepts. -/
structure Undisturbed (r : ClusterReconciler) (env : ClusterEnv) (name : String)
    (w : ClusterWorld) : Prop where
  read : ∀ s, env.fault (.getSecret s) = none
  create : ∀ s, env.fault (.createSecret s) = none
  update : ∀ s, env.fault (.updateSecret s) = none
  clear : env.fault .clearRotateFlag = none
  ownable : ∀ cluster secret, w.clusters.get name = some cluster →
    w.secrets.get r.persistPlace = some secret → Ownable (controllerReference cluster) secret
  registers : ∀ baseURL token clusterID answer, env.register baseURL token clusterID = .ok answer →
    trimSpace answer.clusterID ≠ "" ∧ trimSpace answer.token ≠ ""
  rotates : ∀ client, Good env w client.token →
    ∃ answer, env.rotate client = .ok answer ∧ trimSpace answer ≠ ""

def Careful (r : ClusterReconciler) (w : ClusterWorld) : ClusterStep → Prop
  | .reconcile env name => Undisturbed r env name w
  | .others change => Matched r w → Matched r (change w)

theorem flag_le_one (w : ClusterWorld) (name : String) : flag w name ≤ 1 := by
  rw [flag]
  cases w.clusters.get name with
  | none => decide
  | some cluster => exact cluster.spec.rotateCredentials.toNat_le

theorem flag_of_get (h : w.clusters.get name = some cluster) :
    flag w name = cluster.spec.rotateCredentials.toNat := by
  rw [flag, h]
  rfl

theorem flag_put_self (new : ClusterResource) :
    flag { w with clusters := w.clusters.put new } new.metadata.name =
      new.spec.rotateCredentials.toNat :=
  flag_of_get (Store.get_put_self w.clusters new)

theorem flag_put_of_ne {new : ClusterResource} (h : name ≠ new.metadata.name) :
    flag { w with clusters := w.clusters.put new } name = flag w name := by
  have hget : (w.clusters.put new).get name = w.clusters.get name := Store.get_put_of_ne h
  rw [flag, flag, hget]

theorem flag_erase_self (name : String) :
    flag { w with clusters := w.clusters.erase name } name = 0 := by
  rw [flag, Store.get_erase_self]
  rfl

theorem flag_erase_of_ne {name' : String} (h : name ≠ name') :
    flag { w with clusters := w.clusters.erase name' } name = flag w name := by
  rw [flag, Store.get_erase_of_ne h]
  rfl

theorem flag_erase_le (name' : String) :
    flag { w with clusters := w.clusters.erase name' } name ≤ flag w name := by
  by_cases h : name = name'
  · rw [h, flag_erase_self]
    exact Nat.zero_le _
  · rw [flag_erase_of_ne h]

/-- The calls so far use up the flag, but for a call that is not done with; and the Secret may be
written for the `Cluster`. -/
structure Counted (r : ClusterReconciler) (env : ClusterEnv) (name : String) (w₀ : ClusterWorld)
    (open_ calls : ℕ) (w : ClusterWorld) : Prop where
  own : calls + flag w name ≤ flag w₀ name + open_
  others : ∀ other, other ≠ name → flag w other ≤ flag w₀ other
  owner : ∀ cluster, w.clusters.get name = some cluster → ∃ cluster₀,
    w₀.clusters.get name = some cluster₀ ∧ controllerReference cluster = controllerReference cluster₀
  ownable : ∀ cluster₀ secret, w₀.clusters.get name = some cluster₀ →
    w.secrets.get r.persistPlace = some secret → Ownable (controllerReference cluster₀) secret
  known : calls = 0 → Good env w₀ w.controlPlane.accepted

namespace Counted

variable {d k : ℕ}

theorem congr (h : Counted r env name w₀ d k w) {w' : ClusterWorld}
    (hclusters : w'.clusters = w.clusters) (hsecrets : w'.secrets = w.secrets)
    (haccepted : w'.controlPlane.accepted = w.controlPlane.accepted) :
    Counted r env name w₀ d k w' := by
  have hflag : ∀ n, flag w' n = flag w n := fun n => by rw [flag, flag, hclusters]
  refine ⟨?_, fun other hother => ?_, hclusters ▸ h.owner, hsecrets ▸ h.ownable, haccepted ▸ h.known⟩
  · rw [hflag]
    exact h.own
  · rw [hflag]
    exact h.others other hother

theorem put (h : Counted r env name w₀ d k w) {stored new : ClusterResource}
    (hget : w.clusters.get new.metadata.name = some stored)
    (hflag : new.spec.rotateCredentials.toNat ≤ stored.spec.rotateCredentials.toNat)
    (howner : controllerReference new = controllerReference stored) :
    Counted r env name w₀ d k { w with clusters := w.clusters.put new } := by
  have hle : ∀ n, flag { w with clusters := w.clusters.put new } n ≤ flag w n := by
    intro n
    by_cases hn : n = new.metadata.name
    · rw [hn, flag_put_self, flag_of_get hget]
      exact hflag
    · rw [flag_put_of_ne hn]
  refine ⟨?_, fun other hother => (hle other).trans (h.others other hother), ?_, h.ownable, h.known⟩
  · have hown := h.own
    have := hle name
    omega
  · intro cluster hcluster
    obtain ⟨rfl, hname⟩ | hcluster := Store.of_get_put hcluster
    · obtain ⟨cluster₀, hget₀, href⟩ := h.owner stored (hname ▸ hget)
      exact ⟨cluster₀, hget₀, howner.trans href⟩
    · exact h.owner cluster hcluster

theorem erase (h : Counted r env name w₀ d k w) (name' : String) :
    Counted r env name w₀ d k { w with clusters := w.clusters.erase name' } := by
  refine ⟨?_, fun other hother => (flag_erase_le name').trans (h.others other hother), ?_, h.ownable,
    h.known⟩
  · have hown := h.own
    have : flag { w with clusters := w.clusters.erase name' } name ≤ flag w name :=
      flag_erase_le name'
    omega
  · intro cluster hcluster
    by_cases hname : name = name'
    · rw [hname, Store.get_erase_self] at hcluster
      exact absurd hcluster (by simp)
    · rw [Store.get_erase_of_ne hname] at hcluster
      exact h.owner cluster hcluster

theorem cleared (h : Counted r env name w₀ 1 k w) (hflag : flag w name = 1) {w' : ClusterWorld}
    (hown : flag w' name = 0) (hothers : ∀ other, other ≠ name → flag w' other = flag w other)
    (howner : ∀ cluster, w'.clusters.get name = some cluster → ∃ stored,
      w.clusters.get name = some stored ∧ controllerReference cluster = controllerReference stored)
    (hsecrets : w'.secrets = w.secrets) (hcontrolPlane : w'.controlPlane = w.controlPlane) :
    Counted r env name w₀ 0 k w' := by
  refine ⟨?_, fun other hother => ?_, fun cluster hget => ?_, hsecrets ▸ h.ownable,
    hcontrolPlane ▸ h.known⟩
  · have hbudget := h.own
    omega
  · rw [hothers other hother]
    exact h.others other hother
  · obtain ⟨stored, hstored, href⟩ := howner cluster hget
    obtain ⟨cluster₀, hget₀, href₀⟩ := h.owner stored hstored
    exact ⟨cluster₀, hget₀, href.trans href₀⟩

end Counted

/-- The count, and the agreement of the Secret with the control plane. -/
def Safe (r : ClusterReconciler) (env : ClusterEnv) (name : String) (w₀ : ClusterWorld) (calls : ℕ)
    (w : ClusterWorld) : Prop := Counted r env name w₀ 0 calls w ∧ Matched r w

def countRotation (e : ClusterEvent) (calls : ℕ) : ℕ := if isRotation e then calls + 1 else calls

theorem replay_countRotation (trace : List ClusterEvent) (calls : ℕ) :
    replay countRotation trace calls = calls + trace.countP isRotation := by
  induction trace generalizing calls with
  | nil => rfl
  | cons e trace ih =>
    rw [replay_cons, ih, countRotation, List.countP_cons]
    split <;> omega

theorem books_safe : Books countRotation (Safe r env name w₀) where
  tended {t w stored new} hget htended h := by
    refine ⟨h.1.put hget (by rw [htended.spec]) ?_, h.2⟩
    rw [controllerReference, htended.metadata]
    rfl
  erased name' h := ⟨h.1.erase name', h.2⟩
  memory _ h := ⟨h.1.congr rfl rfl rfl, h.2⟩
  heartbeat _ _ := rfl
  warned _ _ _ _ := rfl

/-- Between a call that gives out a token and the write of the token. -/
structure Given (r : ClusterReconciler) (env : ClusterEnv) (w₀ : ClusterWorld) (d : ℕ)
    (cluster : ClusterResource) (creds : Agent.Credentials) (calls : ℕ) (w : ClusterWorld) :
    Prop where
  counted : Counted r env cluster.metadata.name w₀ d calls w
  current : w.clusters.get cluster.metadata.name = some cluster
  accepted : trimSpace creds.token = w.controlPlane.accepted
  whole : Whole creds

structure Kept (r : ClusterReconciler) (env : ClusterEnv) (w₀ : ClusterWorld) (d : ℕ)
    (cluster : ClusterResource) (calls : ℕ) (w : ClusterWorld) : Prop where
  counted : Counted r env cluster.metadata.name w₀ d calls w
  current : w.clusters.get cluster.metadata.name = some cluster
  matched : Matched r w

theorem follows_persistGiven {d : ℕ} {creds : Agent.Credentials}
    (hplace : r.persistPlace = r.credentialsPlace) (s : PersistSite)
    (hsafe : Undisturbed r env cluster.metadata.name w₀) {F : ℕ → ClusterWorld → Prop} :
    Follows countRotation env (Given r env w₀ d cluster creds)
      (persistCredentials s r.namespaceOf r.credentialsSecretName creds cluster)
      (fun _ => Kept r env w₀ d cluster) F := by
  refine .of_ok (follows_persistCredentials s creds cluster (fun _ _ _ => trivial)
    fun calls w secret h _ hholds hkey howned => ?_) fun calls w h => ?_
  · refine ⟨⟨h.counted.own, h.counted.others, h.counted.owner, ?_, h.counted.known⟩, h.current, ?_⟩
    · intro cluster₀ secret' hget₀ hget
      obtain ⟨rfl, -⟩ | hget := Store.of_get_put hget
      · obtain ⟨cluster₁, hget₁, href⟩ := h.counted.owner cluster h.current
        obtain rfl : cluster₁ = cluster₀ := Option.some.inj (hget₁.symm.trans hget₀)
        exact href ▸ howned
      · exact h.counted.ownable cluster₀ secret' hget₀ hget
    · intro secret' hget
      have hself : (w.secrets.put secret).get r.credentialsPlace = some secret := by
        rw [← hplace, ← hkey]
        exact Store.get_put_self w.secrets secret
      obtain rfl : secret = secret' := Option.some.inj (hself.symm.trans hget)
      rw [Agent.CredentialsSecret.entry, Secret.credentials, hholds.token, Option.getD_some,
        trimSpace_trimSpace]
      exact h.accepted
  · obtain ⟨cluster₀, hget₀, href⟩ := h.counted.owner cluster h.current
    have hpersists : Persists r env s (controllerReference cluster) w :=
      ⟨trimSpace_namespaceOf_ne hplace, hsafe.read s, hsafe.create s, hsafe.update s, fun secret hget =>
        href ▸ h.counted.ownable cluster₀ secret hget₀ hget⟩
    obtain ⟨a, ha, -⟩ := returns_persistCredentials hpersists h.whole
    exact ⟨a, ha⟩

theorem follows_registerCluster_safe {token : String} {source : Option TokenSource}
    {P : ClusterWorld → Prop} (hplace : r.persistPlace = r.credentialsPlace)
    (hsafe : Undisturbed r env cluster.metadata.name w₀)
    (hcurrent : ∀ w, P w → w.clusters.get cluster.metadata.name = some cluster) :
    Follows countRotation env (With (Safe r env cluster.metadata.name w₀) P)
      (r.registerCluster cluster token source)
      (fun _ => Safe r env cluster.metadata.name w₀) (Safe r env cluster.metadata.name w₀) := by
  refine follows_registerCluster (N := Kept r env w₀ 0 cluster)
    (M := fun resp => Given r env w₀ 0 cluster
      ⟨controlPlaneEndpoint cluster, resp.clusterID, resp.token⟩)
    books_safe cluster token source (fun _ _ h => h.1) ?_ (fun resp => ?_) fun resp => ?_
  · refine follows_register _ _ _ (fun _ _ h => h.1) fun calls w answer h hurl hanswer => ?_
    obtain ⟨hclusterID, hgiven⟩ := hsafe.registers _ _ _ answer hanswer
    have hcheck : checkRegistration answer =
        .ok ⟨trimSpace answer.clusterID, trimSpace answer.token⟩ := by
      simp [checkRegistration, hclusterID, hgiven]
    refine ⟨fun resp hresp => ?_, fun err herr => absurd (hcheck.symm.trans herr) (by simp)⟩
    obtain rfl := Except.ok.inj (hcheck.symm.trans hresp)
    have hcounted := h.1.1
    refine ⟨⟨hcounted.own, hcounted.others, hcounted.owner, hcounted.ownable, fun _ => ?_⟩,
      hcurrent w h.2, trimSpace_trimSpace _, ⟨hurl, ?_, ?_⟩⟩
    · exact .inr ⟨_, _, _, answer, hanswer, rfl⟩
    · rw [trimSpace_trimSpace]
      exact hclusterID
    · rw [trimSpace_trimSpace]
      exact hgiven
  · exact follows_persistGiven hplace .registration hsafe
  · split
    · refine follows_updateCluster _ _ (fun _ _ h => ⟨h.counted, h.matched⟩)
        (fun calls w stored h hget => ?_) fun calls w stored h _ _ => ⟨h.counted.erase _, h.matched⟩
      obtain rfl : stored = cluster := by
        rw [name_afterExchange] at hget
        exact Option.some.inj (hget.symm.trans h.current)
      have hupdated : w.clusters.get (updated (afterExchange source resp.clusterID stored)
          stored).metadata.name = some stored := hget
      refine ⟨h.counted.put hupdated ?_ ?_, h.matched⟩
      · rw [spec_updated, rotateCredentials_afterExchange]
      · rw [controllerReference, controllerReference, metadata_updated, name_afterExchange,
          uid_afterExchange]
    · exact .pure fun _ _ h => ⟨h.counted, h.matched⟩

theorem follows_rotateCredentials_safe (hplace : r.persistPlace = r.credentialsPlace)
    (hclient : r.agentClient = none) (hsafe : Undisturbed r env cluster.metadata.name w₀)
    (hflag : cluster.spec.rotateCredentials = true) :
    Follows countRotation env (With (Safe r env cluster.metadata.name w₀)
        fun w => w.clusters.get cluster.metadata.name = some cluster)
      (r.rotateCredentials cluster)
      (fun answer calls w => Safe r env cluster.metadata.name w₀ calls w ∧
        answer.1.metadata.name = cluster.metadata.name)
      (Safe r env cluster.metadata.name w₀) := by
  refine follows_rotateCredentials (N := Kept r env w₀ 1 cluster)
    (M := fun creds token => Given r env w₀ 1 cluster ⟨creds.baseURL, creds.clusterID, token⟩)
    books_safe cluster (fun _ _ h => h.1) (fun creds client hmade => ?_) (fun creds token => ?_) ?_
  · -- the client has the token that is accepted, so the call does not fail
    have hgood : ∀ calls w, With (Safe r env cluster.metadata.name w₀)
        (fun w => w.clusters.get cluster.metadata.name = some cluster) calls w →
        ((r.loadStoredCredentials .rotation).run env w).result = .ok creds →
        calls = 0 ∧ flag w₀ cluster.metadata.name = 1 ∧ Whole creds ∧
          ∃ answer, env.rotate client = .ok answer ∧ trimSpace answer ≠ "" := by
      rintro calls w ⟨⟨hcounted, hmatched⟩, hcurrent⟩ hload
      have hone : flag w cluster.metadata.name = 1 := by
        rw [flag_of_get hcurrent, hflag]
        rfl
      have hown := hcounted.own
      have hle := flag_le_one w₀ cluster.metadata.name
      obtain rfl : calls = 0 := by omega
      obtain ⟨secret, hget, hcreds⟩ := of_loadStoredCredentials hload
      obtain ⟨hwhole, htoken⟩ := of_credentialsFromSecret hcreds
      have hclient' : client.token = creds.token := by
        rw [ClusterReconciler.rotateClient, hclient, Agent.newHTTPClient_of_secret hcreds] at hmade
        exact (Except.ok.inj hmade) ▸ rfl
      refine ⟨rfl, by omega, hwhole, hsafe.rotates client ?_⟩
      rw [hclient', htoken, hmatched secret hget]
      exact hcounted.known rfl
    refine follows_rotate client (fun calls w err h herr => ?_) fun calls w answer h hanswer => ?_
    · obtain ⟨-, -, -, answer, hanswer, -⟩ := hgood calls w h.1 h.2
      exact absurd (hanswer.symm.trans herr) (by simp)
    · obtain ⟨rfl, hflag₀, hwhole, answer', hanswer', hne⟩ := hgood calls w h.1 h.2
      obtain rfl : answer' = answer := Except.ok.inj (hanswer'.symm.trans hanswer)
      have hcheck : checkRotation answer' = .ok (trimSpace answer') := if_neg hne
      refine ⟨fun token htoken => ?_, fun err herr => absurd (hcheck.symm.trans herr) (by simp)⟩
      obtain rfl := Except.ok.inj (hcheck.symm.trans htoken)
      obtain ⟨⟨hcounted, -⟩, hcurrent⟩ := h.1
      have hle := flag_le_one w cluster.metadata.name
      refine ⟨⟨?_, hcounted.others, hcounted.owner, hcounted.ownable, fun hzero => ?_⟩, hcurrent,
        trimSpace_trimSpace _, ⟨hwhole.baseURL, hwhole.clusterID, ?_⟩⟩
      · change 0 + 1 + flag w cluster.metadata.name ≤ _
        omega
      · exact absurd hzero (by simp [countRotation, isRotation])
      · rw [trimSpace_trimSpace]
        exact hne
  · exact follows_persistGiven hplace .rotation hsafe
  · have hget : ∀ calls w, Kept r env w₀ 1 cluster calls w →
        w.clusters.get (ClusterReconciler.afterRotation cluster).metadata.name = some cluster :=
      fun _ _ h => h.current
    have hone : ∀ calls w, Kept r env w₀ 1 cluster calls w → flag w cluster.metadata.name = 1 := by
      intro calls w h
      rw [flag_of_get h.current, hflag]
      rfl
    refine .of_ok (follows_updateCluster _ _ (fun _ _ _ => trivial) (fun calls w stored h hstored => ?_)
      fun calls w stored h hstored _ => ?_) fun calls w h => ?_
    · obtain rfl : stored = cluster := Option.some.inj (hstored.symm.trans (hget calls w h))
      refine ⟨h.counted.cleared (hone calls w h) ?_ (fun other hother => ?_) (fun c hc => ?_) rfl rfl,
        h.matched⟩
      · exact flag_put_self (updated (ClusterReconciler.afterRotation stored) stored)
      · exact flag_put_of_ne hother
      · obtain ⟨rfl, -⟩ | hc := Store.of_get_put hc
        · exact ⟨stored, h.current, rfl⟩
        · exact ⟨c, hc, rfl⟩
    · refine ⟨h.counted.cleared (hone calls w h) ?_ (fun other hother => ?_) (fun c hc => ?_) rfl rfl,
        h.matched⟩
      · exact flag_erase_self _
      · exact flag_erase_of_ne hother
      · exact absurd ((Store.get_erase_self w.clusters _).symm.trans hc) (by simp)
    · obtain ⟨a, ha, -⟩ := returns_updateCluster hsafe.clear (hget calls w h) rfl
      exact ⟨a, ha⟩

theorem rotation_step (hplace : r.persistPlace = r.credentialsPlace)
    (hclient : r.agentClient = none) {a : ClusterStep} (h : Careful r w a) (hw : Matched r w) :
    Matched r (r.step w a) ∧ ∀ name,
      rotations r name w a + flag (r.step w a) name ≤ flag w name + settings name w a := by
  cases a with
  | others change =>
    refine ⟨h hw, fun name => ?_⟩
    simp only [rotations, settings, ClusterReconciler.step]
    omega
  | reconcile env name =>
    have hstart : Safe r env name w 0 w :=
      ⟨⟨by omega, fun _ _ => le_rfl, fun cluster hget => ⟨cluster, hget, rfl⟩, h.ownable,
        fun _ => .inl rfl⟩, hw⟩
    have hfollows : Follows countRotation env (With (Safe r env name w) (· = w))
        (r.reconcile name) (fun _ => Safe r env name w) (Safe r env name w) := by
      refine follows_reconcile books_safe books_safe (fun _ _ => id)
        (fun cluster token source calls w' hw' => ?_) fun cluster hname hflag => ?_
      · obtain rfl := hw'.2.name
        exact follows_registerCluster_safe hplace h (fun _ h => h.current) calls w' hw'
      · subst hname
        exact follows_rotateCredentials_safe hplace hclient h hflag
    have hend := hfollows.state (t := 0) ⟨hstart, rfl⟩
    rw [replay_countRotation, Nat.zero_add] at hend
    refine ⟨hend.2, fun other => ?_⟩
    by_cases hother : name = other
    · subst hother
      simp only [rotations, if_true, settings]
      exact hend.1.own
    · simp only [rotations, if_neg hother, settings]
      have hle := hend.1.others other (Ne.symm hother)
      exact (Nat.zero_add _).trans_le hle

theorem rotations_le_settings (hplace : r.persistPlace = r.credentialsPlace)
    (hclient : r.agentClient = none) {steps : List ClusterStep} (hw : Matched r w)
    (h : Along r.step (Careful r) w steps) :
    Matched r (exec r.step w steps) ∧ ∀ name,
      (gathered r.step (fun w a => [rotations r name w a]) w steps).sum +
          flag (exec r.step w steps) name ≤
        flag w name + (gathered r.step (fun w a => [settings name w a]) w steps).sum := by
  induction steps generalizing w with
  | nil => exact ⟨hw, fun name => by simp⟩
  | cons a steps ih =>
    obtain ⟨ha, hrest⟩ := along_cons.mp h
    obtain ⟨hmatched, hstep⟩ := rotation_step hplace hclient ha hw
    obtain ⟨hend, hsum⟩ := ih hmatched hrest
    refine ⟨hend, fun name => ?_⟩
    have hone := hstep name
    have hmany := hsum name
    simp only [gathered_cons, List.singleton_append, List.sum_cons, exec_cons]
    omega

/-- A `Cluster` that is registered, and whether a rotation is asked for. -/
def registered (rotateCredentials : Bool) : ClusterWorld where
  clusters := Store.empty.put { sampleCluster with
    spec := { sampleCluster.spec with registrationToken := "", rotateCredentials } }
  secrets := Store.empty.put agentCredentials
  controlPlane := { accepted := "bearer-1" }

def rotationAnswers (token : String) : ClusterEnv where
  now := 200
  rotate := fun _ => .ok token

theorem matched_registered (b : Bool) : Matched sampleController (registered b) := by
  intro secret hget
  have hstored : (registered b).secrets.get sampleController.credentialsPlace =
      some agentCredentials := by cases b <;> decide +kernel
  obtain rfl := Option.some.inj (hstored.symm.trans hget)
  have htoken : agentCredentials.credentials.entry "token" = "bearer-1" := by decide +kernel
  exact htoken

theorem sample_rotations_le_settings :
    let steps : List ClusterStep :=
      [.others fun _ => registered true, .reconcile (rotationAnswers "bearer-2") "main"]
    Matched sampleController (exec sampleController.step (registered false) steps) ∧
      (gathered sampleController.step (fun w a => [rotations sampleController "main" w a])
          (registered false) steps).sum +
        flag (exec sampleController.step (registered false) steps) "main" ≤
      flag (registered false) "main" + (gathered sampleController.step
        (fun w a => [settings "main" w a]) (registered false) steps).sum := by
  have halong : Along sampleController.step (Careful sampleController) (registered false)
      [.others fun _ => registered true, .reconcile (rotationAnswers "bearer-2") "main"] := by
    refine ⟨fun _ => matched_registered true, ⟨fun _ => rfl, fun _ => rfl, fun _ => rfl, rfl, ?_, ?_,
      fun _ _ => ⟨"bearer-2", rfl, by decide⟩⟩, trivial⟩
    · intro cluster secret _ hsecret
      have hstored : (registered true).secrets.get sampleController.persistPlace =
          some agentCredentials := by decide +kernel
      obtain rfl := Option.some.inj (hstored.symm.trans hsecret)
      exact ⟨_, rfl⟩
    · exact fun _ _ _ answer hanswer => absurd hanswer (by simp [rotationAnswers])
  have hall := rotations_le_settings (by decide) rfl (matched_registered false) halong
  exact ⟨hall.1, hall.2 "main"⟩

def lostToken : ClusterEnv :=
  { rotationAnswers "bearer-2" with fault := fun
      | .updateSecret .rotation => some "etcdserver: request timed out"
      | _ => none }

def stuckFlag : ClusterEnv :=
  { rotationAnswers "bearer-2" with fault := fun
      | .clearRotateFlag => some "the object has been modified"
      | _ => none }

theorem rotation_goes_wrong :
    (exec sampleController.step (registered true)
        [.reconcile lostToken "main"]).controlPlane.accepted = "bearer-2" ∧
    ((exec sampleController.step (registered true)
        [.reconcile lostToken "main"]).secrets.get sampleController.credentialsPlace).map
      (fun secret => secret.credentials.entry "token") = some "bearer-1" ∧
    (gathered sampleController.step sampleController.emitted (registered true)
        [.reconcile stuckFlag "main", .reconcile (rotationAnswers "bearer-3") "main"]).countP
      isRotation = 2 := by
  decide +kernel

end VWorkspace.Registration
