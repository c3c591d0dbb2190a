import VWorkspaceOperator.Registration.Runs

/-!
# How often a registration token is exchanged

A registration token is good for one exchange.  After an exchange, three things keep the operator
from presenting the token again: the fingerprint in the status, the credentials in their Secret,
and that no one asks to register again.  They are not written together, and a Secret that cannot
be read is taken for one that is not there; so a token is presented once if nobody asks for
another exchange and, while the fingerprint is missing, the Secret can be read.
-/

namespace VWorkspace.Registration

open Kit Prog ClusterM

variable {r : ClusterReconciler} {env : ClusterEnv} {w : ClusterWorld} {token : String}

def Intact (r : ClusterReconciler) (w : ClusterWorld) : ClusterStep → Prop
  | .reconcile _ _ => True
  | .others change => Complete r w → Complete r (change w)

/-- A `Cluster` that is reconciled and says to present this token does not ask for another
exchange; and its status has the fingerprint of the token, or the Secret can be read. -/
def Guarded (r : ClusterReconciler) (token : String) (w : ClusterWorld) : ClusterStep → Prop
  | .reconcile env name => ∀ cluster source, w.clusters.get name = some cluster →
      ((r.resolveRegistrationToken cluster).run env w).result = .ok (token, source) →
        reRegisterRequested cluster = false ∧
          (r.tokenFingerprint token = cluster.status.observedToken ∨
            env.fault (.loadCredentials .guard) = none)
  | .others _ => True

section secrets

variable {τ : Type} {apply : ClusterEvent → τ → τ} {I J : τ → ClusterWorld → Prop}

/-- The invariant depends on the Secrets alone, and the ghost on the tokens that are presented and
the credentials that are written. -/
structure OfSecrets (apply : ClusterEvent → τ → τ) (I : τ → ClusterWorld → Prop) : Prop where
  congr : ∀ {t w w'}, I t w → w'.secrets = w.secrets → I t w'
  heartbeat : ∀ client t, apply (.heartbeatSent client) t = t
  warned : ∀ name reason message t, apply (.warned name reason message) t = t
  rotate : ∀ client t, apply (.rotateCalled client) t = t

theorem OfSecrets.books (h : OfSecrets apply I) : Books apply I where
  tended _ _ hw := h.congr hw rfl
  erased _ hw := h.congr hw rfl
  memory _ hw := h.congr hw rfl
  heartbeat := h.heartbeat
  warned := h.warned

theorem OfSecrets.updateCluster (h : OfSecrets apply I) (s : ClusterSite)
    (cluster : ClusterResource) :
    Follows apply env I (ClusterM.updateCluster s cluster) (fun _ => I) I :=
  follows_updateCluster s cluster (fun _ _ => id) (fun _ _ _ hw _ => h.congr hw rfl)
    fun _ _ _ hw _ _ => h.congr hw rfl

theorem OfSecrets.follows (hI : OfSecrets apply I) (hJ : OfSecrets apply J)
    (hJI : ∀ t w, J t w → I t w) {w₀ : ClusterWorld} {name : String}
    (hpresented : ∀ cluster token source t w,
      With J (Presents env r w₀ name cluster token source) t w → I (apply (.registerCalled token) t) w)
    (hpersisted : ∀ creds secret t w, I t w → Whole creds → Holds creds secret →
      secret.metadata.key = r.persistPlace →
        I (apply (.persisted creds) t) { w with secrets := w.secrets.put secret }) :
    Follows apply env (With J (· = w₀)) (r.reconcile name) (fun _ => I) I := by
  have hpersist : ∀ s creds owner, Follows apply env I
      (persistCredentials s r.namespaceOf r.credentialsSecretName creds owner) (fun _ => I) I :=
    fun s creds owner => follows_persistCredentials s creds owner (fun _ _ => id)
      fun t w secret hw hwhole hholds hkey _ => hpersisted creds secret t w hw hwhole hholds hkey
  refine follows_reconcile hI.books hJ.books hJI (fun cluster token source => ?_) fun cluster hname _ => ?_
  · refine follows_registerCluster (M := fun _ => I) hI.books cluster token source
      (fun t w h => hJI t w h.1) ?_ (fun resp => hpersist _ _ _) fun resp => ?_
    · have hpresent := hpresented cluster token source
      have hexchanged : ∀ t w given, With J (Presents env r w₀ name cluster token source) t w →
          I (apply (.registerCalled token) t) (w.exchanged token given) :=
        fun t w _ h => hI.congr (hpresent t w h) rfl
      exact follows_register _ _ _ hpresent fun t w answer h _ _ =>
        ⟨fun _ _ => hexchanged t w _ h, fun _ _ => hexchanged t w _ h⟩
    · split
      · exact hI.updateCluster _ _
      · exact .pure fun _ _ => id
  · refine (follows_rotateCredentials (M := fun _ _ => I) hI.books cluster (fun _ _ h => h.1)
      (fun creds client _ => ?_) (fun _ _ => hpersist _ _ _) (hI.updateCluster _ _)).post (fun _ _ _ h => ⟨h.1, h.2.trans hname⟩)
    refine follows_rotate client (fun t w _ h _ => ?_) fun t w token h _ => ?_
    · rw [hI.rotate]
      exact h.1.1
    · rw [hI.rotate]
      exact ⟨fun _ _ => hI.congr h.1.1 rfl, fun _ _ => hI.congr h.1.1 rfl⟩

end secrets

theorem Complete.put {creds : Agent.Credentials} {secret : Secret} (h : Complete r w)
    (hwhole : Whole creds) (hholds : Holds creds secret) :
    Complete r { w with secrets := w.secrets.put secret } := by
  by_cases hplace : r.credentialsPlace = secret.metadata.key
  · refine ⟨secret, _, ?_, hholds.credentials hwhole⟩
    rw [hplace]
    exact Store.get_put_self w.secrets secret
  · obtain ⟨stored, creds, hget, hcreds⟩ := h
    refine ⟨stored, creds, ?_, hcreds⟩
    rw [← hget]
    exact Store.get_put_of_ne hplace

theorem complete_of_holds {creds : Agent.Credentials} {secret : Secret} (hwhole : Whole creds)
    (hholds : Holds creds secret) (hkey : secret.metadata.key = r.persistPlace)
    (hplace : r.persistPlace = r.credentialsPlace) :
    Complete r { w with secrets := w.secrets.put secret } := by
  refine ⟨secret, _, ?_, hholds.credentials hwhole⟩
  rw [← hplace, ← hkey]
  exact Store.get_put_self w.secrets secret

theorem Complete.congr {w' : ClusterWorld} (h : w'.secrets = w.secrets) (hw : Complete r w) :
    Complete r w' := by
  obtain ⟨secret, creds, hget, hcreds⟩ := hw
  exact ⟨secret, creds, h ▸ hget, hcreds⟩

/-- How often the token was presented, and whether credentials were written. -/
def tally (token : String) : ClusterEvent → ℕ × Bool → ℕ × Bool
  | .registerCalled u, (n, kept) => (if u = token then n + 1 else n, kept)
  | .persisted _, (n, _) => (n, true)
  | _, t => t

theorem replay_tally (token : String) (trace : List ClusterEvent) (n : ℕ) (kept : Bool) :
    replay (tally token) trace (n, kept) =
      (n + trace.count (.registerCalled token), kept || trace.any fun e => e matches .persisted _) := by
  induction trace generalizing n kept with
  | nil => simp
  | cons e trace ih =>
    rw [replay_cons]
    cases e with
    | registerCalled u =>
      by_cases h : u = token
      · subst h
        simp [tally, ih]
        omega
      · simp [tally, ih, h]
    | persisted creds => simp [tally, ih]
    | rotateCalled client => simp [tally, ih]
    | heartbeatSent client => simp [tally, ih]
    | warned name reason message => simp [tally, ih]

theorem tally_reconcile (hplace : r.persistPlace = r.credentialsPlace) (token : String)
    (env : ClusterEnv) (name : String) (w : ClusterWorld) :
    (r.emitted w (.reconcile env name)).count (.registerCalled token) ≤ 1 ∧
      ((∃ creds, .persisted creds ∈ r.emitted w (.reconcile env name)) →
        Complete r (r.step w (.reconcile env name))) := by
  let I (t : ℕ × Bool) (w : ClusterWorld) : Prop := t.1 ≤ 1 ∧ (t.2 = true → Complete r w)
  have hI : OfSecrets (tally token) I :=
    ⟨fun ht h => ⟨ht.1, fun hkept => (ht.2 hkept).congr h⟩, fun _ _ => rfl, fun _ _ _ _ => rfl,
      fun _ _ => rfl⟩
  have hJ : OfSecrets (tally token) fun t _ => t = (0, false) :=
    ⟨fun ht _ => ht, fun _ _ => rfl, fun _ _ _ _ => rfl, fun _ _ => rfl⟩
  have hfollows : Follows (tally token) env (With (fun t _ => t = (0, false)) (· = w))
      (r.reconcile name) (fun _ => I) I := by
    refine hI.follows hJ (fun t w ht => ?_) (fun cluster u source t w h => ?_)
      fun creds secret t w ht hwhole hholds hkey => ?_
    · subst ht
      exact ⟨by decide, fun h => absurd h (by decide)⟩
    · obtain ⟨rfl, -⟩ := h
      refine ⟨?_, fun h => absurd h (by simp [tally])⟩
      rw [tally]
      split <;> decide
    · exact ⟨ht.1, fun _ => complete_of_holds hwhole hholds hkey hplace⟩
  have hend := hfollows.state (t := (0, false)) ⟨rfl, rfl⟩
  rw [replay_tally, Nat.zero_add] at hend
  refine ⟨hend.1, ?_⟩
  rintro ⟨creds, hmem⟩
  refine hend.2 ?_
  rw [Bool.false_or, List.any_eq_true]
  exact ⟨_, hmem, rfl⟩

theorem Guarded.not_presents {w₀ : ClusterWorld} {name : String} {cluster : ClusterResource}
    {source : Option TokenSource} (h : Guarded r token w₀ (.reconcile env name))
    (hcomplete : Complete r w) (hpresents : Presents env r w₀ name cluster token source w) :
    False := by
  obtain ⟨cluster₀, hget, htended, hstatus⟩ := hpresents.start
  have hresolved := hpresents.resolved
  rw [resolveRegistrationToken_congr htended.spec,
    result_resolveRegistrationToken_congr hpresents.secrets] at hresolved
  obtain ⟨hunforced₀, hguard⟩ := h cluster₀ source hget hresolved
  have hunforced : reRegisterRequested cluster = false := by
    rw [← hunforced₀, reRegisterRequested, htended.metadata]
    rfl
  obtain hforced | hunobserved := hpresents.unobserved
  · exact absurd (hforced.symm.trans hunforced) (by decide)
  · obtain hforced | ⟨err, herror⟩ := hpresents.unguarded
    · exact absurd (hforced.symm.trans hunforced) (by decide)
    · obtain hobserved | hfault := hguard
      · exact hunobserved (hstatus ▸ hobserved)
      · obtain ⟨creds, hok⟩ := result_loadStoredCredentials hcomplete hfault
        exact absurd (hok.symm.trans herror) (by simp)

theorem Guarded.step {a : ClusterStep} (hguarded : Guarded r token w a) (hintact : Intact r w a)
    (hcomplete : Complete r w) :
    (r.emitted w a).count (.registerCalled token) = 0 ∧ Complete r (r.step w a) := by
  cases a with
  | others change => exact ⟨rfl, hintact hcomplete⟩
  | reconcile env name =>
    let I (t : ℕ × Bool) (w : ClusterWorld) : Prop := t.1 = 0 ∧ Complete r w
    have hI : OfSecrets (tally token) I :=
      ⟨fun ht h => ⟨ht.1, ht.2.congr h⟩, fun _ _ => rfl, fun _ _ _ _ => rfl, fun _ _ => rfl⟩
    have hfollows : Follows (tally token) env (With I (· = w)) (r.reconcile name)
        (fun _ => I) I := by
      refine hI.follows hI (fun _ _ => id) (fun cluster u source t w h => ?_)
        fun creds secret t w ht hwhole hholds _ => ⟨ht.1, ht.2.put hwhole hholds⟩
      obtain ⟨⟨hzero, hcomplete⟩, hpresents⟩ := h
      have hne : u ≠ token := by
        rintro rfl
        exact hguarded.not_presents hcomplete hpresents
      exact ⟨by rw [tally, if_neg hne]; exact hzero, hcomplete⟩
    have hend := hfollows.state (t := (0, false)) ⟨⟨rfl, hcomplete⟩, rfl⟩
    rw [replay_tally, Nat.zero_add] at hend
    exact hend

theorem count_gathered_of_guarded {steps : List ClusterStep} (hcomplete : Complete r w)
    (h : Along r.step (fun w a => Intact r w a ∧ Guarded r token w a) w steps) :
    (gathered r.step r.emitted w steps).count (.registerCalled token) = 0 := by
  induction steps generalizing w with
  | nil => rfl
  | cons a steps ih =>
    obtain ⟨⟨hintact, hguarded⟩, hrest⟩ := along_cons.mp h
    obtain ⟨hzero, hcomplete'⟩ := hguarded.step hintact hcomplete
    rw [gathered_cons, List.count_append, hzero, ih hcomplete' hrest]

theorem token_presented_once {name : String} {after : List ClusterStep} {creds : Agent.Credentials}
    (hplace : r.persistPlace = r.credentialsPlace)
    (hexchanged : .registerCalled token ∈ r.emitted w (.reconcile env name))
    (hpersisted : .persisted creds ∈ r.emitted w (.reconcile env name))
    (hafter : Along r.step (fun w a => Intact r w a ∧ Guarded r token w a)
      (r.step w (.reconcile env name)) after) :
    (gathered r.step r.emitted w (.reconcile env name :: after)).count
      (.registerCalled token) = 1 := by
  obtain ⟨hle, hcomplete⟩ := tally_reconcile hplace token env name w
  have hone : (r.emitted w (.reconcile env name)).count (.registerCalled token) = 1 :=
    le_antisymm hle (List.count_pos_iff.mpr hexchanged)
  rw [gathered_cons, List.count_append, hone,
    count_gathered_of_guarded (hcomplete ⟨creds, hpersisted⟩) hafter]

def sampleController : ClusterReconciler where
  operatorNamespace := "vworkspace-system"
  sha256 := fun bytes => Vector.replicate 32 (UInt8.ofNat bytes.length)

def sampleCluster : ClusterResource where
  metadata := { ns := "", name := "main", uid := "u-main" }
  spec := { controlPlaneEndpoint := "https://workspace.example.org", registrationToken := "reg-1" }

def sampleAnswers : ClusterEnv where
  now := 100
  register := fun _ _ _ => .ok ⟨"c-1", "bearer-1"⟩

def secretCluster : ClusterResource :=
  { sampleCluster with spec := { sampleCluster.spec with
      registrationToken := "", registrationTokenSecretRef := some { name := "bootstrap" } } }

def bootstrapSecret : Secret where
  metadata := { ns := "vworkspace-system", name := "bootstrap" }
  data := [("registrationToken", "reg-1")]

def unregistered (cluster : ClusterResource) : ClusterWorld where
  clusters := Store.empty.put cluster
  secrets := Store.empty.put bootstrapSecret

theorem sample_token_presented_once :
    (gathered sampleController.step sampleController.emitted (unregistered secretCluster)
      [.reconcile sampleAnswers "main", .reconcile sampleAnswers "main"]).count
        (.registerCalled "reg-1") = 1 := by
  have hpersisted : .persisted ⟨"https://workspace.example.org", "c-1", "bearer-1"⟩ ∈
      sampleController.emitted (unregistered secretCluster) (.reconcile sampleAnswers "main") := by
    decide +kernel
  refine token_presented_once (by decide) (by decide +kernel) hpersisted ⟨⟨trivial, ?_⟩, trivial⟩
  intro cluster source hget _
  have hunforced : ((sampleController.step (unregistered secretCluster)
      (.reconcile sampleAnswers "main")).clusters.get "main").all
        (fun cluster => !reRegisterRequested cluster) = true := by decide +kernel
  rw [hget, Option.all_some] at hunforced
  exact ⟨by simpa using hunforced, .inr rfl⟩

def forcedCluster : ClusterResource :=
  { secretCluster with metadata := { secretCluster.metadata with
      annotations := setField clusterReRegisterAnnotation "true" [] } }

def specConflict : ClusterEnv :=
  { sampleAnswers with fault := fun
      | .updateSpec => some "the object has been modified"
      | _ => none }

def statusOutage : ClusterEnv :=
  { sampleAnswers with fault := fun
      | .retriedStatus _ _ => some "etcdserver: request timed out"
      | _ => none }

def secretOutage : ClusterEnv where
  now := 130
  fault := fun
    | .loadCredentials _ => some "etcdserver: request timed out"
    | _ => none

theorem token_presented_again :
    (gathered sampleController.step sampleController.emitted (unregistered forcedCluster)
        [.reconcile specConflict "main", .reconcile sampleAnswers "main"]).filter
          (fun e => !e matches .heartbeatSent _) =
      [.registerCalled "reg-1", .persisted ⟨"https://workspace.example.org", "c-1", "bearer-1"⟩,
        .registerCalled "reg-1", .persisted ⟨"https://workspace.example.org", "c-1", "bearer-1"⟩] ∧
    (gathered sampleController.step sampleController.emitted (unregistered secretCluster)
        [.reconcile statusOutage "main", .reconcile secretOutage "main"]) =
      [.registerCalled "reg-1", .persisted ⟨"https://workspace.example.org", "c-1", "bearer-1"⟩,
        .registerCalled "reg-1"] := by
  decide +kernel

end VWorkspace.Registration
