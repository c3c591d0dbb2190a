import VWorkspaceOperator.Properties.TokenExchange

/-!
# A registered cluster stays connected

Once there are credentials, nothing about the registration token keeps a `Cluster` from being
connected: a token that cannot be resolved is passed over, one that was observed is not looked at,
and any other is taken for exchanged.  A reconcile then goes on to the heartbeat.
-/

namespace VWorkspace.Registration

open Kit Prog ClusterM

variable {r : ClusterReconciler} {env : ClusterEnv} {w : ClusterWorld} {name : String}
  {cluster stored : ClusterResource}
variable {s : ClusterSite} {failed : String} {f : ClusterStatus → ClusterStatus}

/-- The calls succeed: credentials can be read, and a `Cluster` can be read and written, but for
conflicts when a token is adopted, which end within the attempts there are. -/
structure Smooth (env : ClusterEnv) : Prop where
  read : env.fault .getCluster = none
  finalizer : env.fault .addFinalizer = none
  credentials : ∀ s, env.fault (.loadCredentials s) = none
  fresh : ∀ i, env.fault (.reloadForStatus .adopted i) = none
  adopted : ∃ i < 5, env.fault (.retriedStatus .adopted i) = none ∧
    ∀ j < i, (env.fault (.retriedStatus .adopted j)).isSome = true ∧
      env.conflict (.retriedStatus .adopted j) = true
  reload : env.fault (.reload .adoption) = none
  status : env.fault .updateHeartbeat = none

structure Online (st : ClusterStatus) : Prop where
  phase : st.phase = .connected
  connected : conditionIs "Connected" .true "RoundTripOK"
    "Recent round-trip to the control plane succeeded" st.conditions = true
  authenticated : conditionIs "Authenticated" .true "CredentialAccepted" "Bearer token accepted"
    st.conditions = true
  disconnected : conditionIs "Disconnected" .false "Connected" "Connection is alive"
    st.conditions = true

theorem returns_getExisting {Q : ClusterResource → ClusterWorld → Prop} (h : env.fault s = none)
    (hget : w.clusters.get name = some cluster) (hQ : Q cluster w) :
    Returns env w (getExisting s name) Q := by
  refine .seq (returns_read h ?_)
  rw [hget]
  exact .pure hQ

theorem returns_updateStatus {Q : Unit → ClusterWorld → Prop} (h : env.fault s = none)
    (hget : w.clusters.get cluster.metadata.name = some stored)
    (hQ : Q () { w with clusters := w.clusters.put { stored with status := cluster.status } }) :
    Returns env w (updateStatus s cluster) Q := by
  refine .seq (returns_call h (.seq (.get ?_)))
  rw [hget]
  exact .modify hQ

theorem returns_ensureFinalizer (h : env.fault .addFinalizer = none)
    (hlive : cluster.metadata.deletionTimestamp = none)
    (hget : w.clusters.get cluster.metadata.name = some cluster) :
    Returns env w (ClusterReconciler.ensureFinalizer cluster) fun cluster' w' =>
      Opened w cluster.metadata.name cluster' w' := by
  unfold ClusterReconciler.ensureFinalizer
  split
  · exact .pure (.read hget)
  · refine .mapError (.seq (returns_call h (.seq (.ask (.seq (.get ?_))))))
    simp only [hget, answerUpdate_of_live hlive]
    have htended := tended_updated (rfl : cluster.metadata = _) (rfl : cluster.spec = _)
      (cluster.metadata.finalizers ++ [clusterFinalizer]) cluster.status
    refine .seq (.modify (.pure ⟨⟨cluster, hget, htended, rfl⟩, ?_, fun other hne =>
      Store.get_put_of_ne hne, rfl, rfl⟩))
    exact Store.get_put_self _ (updated _ cluster)

theorem returns_attemptStatus_conflict {s : RetrySite} {i : ℕ}
    {Q : Option GoError → ClusterWorld → Prop}
    (hread : env.fault (.reloadForStatus s i) = none)
    (hfault : (env.fault (.retriedStatus s i)).isSome = true)
    (hconflict : env.conflict (.retriedStatus s i) = true)
    (hget : w.clusters.get name = some cluster) (hQ : ∀ err, Q (some err) w) :
    Returns env w (attemptStatus s failed name f i) Q := by
  obtain ⟨msg, hmsg⟩ := Option.isSome_iff_exists.mp hfault
  have hrun : (updateStatus (.retriedStatus s i) { cluster with status := f cluster.status }).run
      env w = ⟨.error { msg }, w, []⟩ := by
    simp only [updateStatus, run_bind, call, hmsg]
  refine .seq (.mapError (returns_getExisting hread hget (.seq (.attempt_of ?_))))
  rw [hrun]
  refine .seq (.ask ?_)
  rw [if_pos (by simp [hmsg, hconflict])]
  exact .pure (hQ _)

theorem returns_attemptStatus {s : RetrySite} {i : ℕ} {Q : Option GoError → ClusterWorld → Prop}
    (hread : env.fault (.reloadForStatus s i) = none)
    (hwrite : env.fault (.retriedStatus s i) = none) (hget : w.clusters.get name = some cluster)
    (hQ : Q none { w with clusters := w.clusters.put { cluster with status := f cluster.status } }) :
    Returns env w (attemptStatus s failed name f i) Q := by
  obtain rfl : cluster.metadata.name = name := Store.key_of_get hget
  exact .seq (.mapError (returns_getExisting hread hget (.seq (.attempt
    (returns_updateStatus hwrite hget (.pure hQ))))))

theorem returns_retryOnConflict {s : RetrySite} {k : ℕ}
    (hread : ∀ i, env.fault (.reloadForStatus s i) = none)
    (hwrite : env.fault (.retriedStatus s k) = none)
    (hconflict : ∀ j < k, (env.fault (.retriedStatus s j)).isSome = true ∧
      env.conflict (.retriedStatus s j) = true) (hget : w.clusters.get name = some cluster)
    {steps i : ℕ} {err : GoError} (hi : i ≤ k) (hk : k < i + steps) :
    Returns env w (retryOnConflict (attemptStatus s failed name f) steps i err) fun _ w' =>
      w' = { w with clusters := w.clusters.put { cluster with status := f cluster.status } } := by
  induction steps generalizing i err with
  | zero => omega
  | succ steps ih =>
    by_cases heq : i = k
    · subst heq
      exact .seq (returns_attemptStatus (hread i) hwrite hget (.pure rfl))
    · obtain ⟨hfault, hrefused⟩ := hconflict i (by omega)
      exact .seq (returns_attemptStatus_conflict (hread i) hfault hrefused hget fun _ =>
        ih (by omega) (by omega))

/-- The reconcile goes on with a `Cluster` that differs in its status only. -/
def GoesOn (name : String) (cluster : ClusterResource) (w : ClusterWorld)
    (progress : ClusterReconciler.Progress) (w' : ClusterWorld) : Prop :=
  ∃ cluster', progress = .goOn cluster' ∧ w'.clusters.get name = some cluster' ∧
    cluster'.spec = cluster.spec ∧ w'.secrets = w.secrets

theorem returns_now {Q : ℕ → ClusterWorld → Prop} (hQ : Q env.now w) :
    Returns env w ClusterM.now Q := .seq (.ask (.pure hQ))

theorem returns_adopt (henv : Smooth env) (hget : w.clusters.get cluster.metadata.name = some cluster)
    (token : String) :
    Returns env w (r.adopt .adopted .adoption cluster token)
      (GoesOn cluster.metadata.name cluster w) := by
  obtain ⟨k, hk, hwrite, hconflict⟩ := henv.adopted
  refine .seq (.seq (returns_now ((returns_retryOnConflict henv.fresh hwrite hconflict hget
    (Nat.zero_le k) (by omega)).mono ?_)))
  rintro _ _ rfl
  exact .seq (.mapError (returns_getExisting henv.reload (Store.get_put_self w.clusters _)
    (.pure ⟨_, rfl, Store.get_put_self w.clusters _, rfl, rfl⟩)))

theorem returns_useToken (henv : Smooth env) (hcomplete : Complete r w)
    (hunforced : reRegisterRequested cluster = false)
    (hget : w.clusters.get cluster.metadata.name = some cluster) (token : String)
    (source : Option TokenSource) :
    Returns env w (r.useToken cluster token source) (GoesOn cluster.metadata.name cluster w) := by
  unfold ClusterReconciler.useToken
  simp only [hunforced]
  split
  · exact .pure ⟨cluster, rfl, hget, rfl, rfl⟩
  · rw [if_neg (by simp)]
    obtain ⟨creds, hcreds⟩ := result_loadStoredCredentials hcomplete (henv.credentials .guard)
    refine .seq (.attempt_of ?_)
    rw [hcreds, (idle_loadStoredCredentials .guard env w).1]
    exact returns_adopt henv hget token

theorem returns_reconcileRegistration (henv : Smooth env) (hcomplete : Complete r w)
    (hunforced : reRegisterRequested cluster = false)
    (hget : w.clusters.get cluster.metadata.name = some cluster) :
    Returns env w (r.reconcileRegistration cluster) (GoesOn cluster.metadata.name cluster w) := by
  refine .seq (.attempt_of ?_)
  rw [(idle_resolveRegistrationToken cluster env w).1]
  cases ((r.resolveRegistrationToken cluster).run env w).result with
  | ok resolved => exact returns_useToken henv hcomplete hunforced hget resolved.1 resolved.2
  | error err =>
    obtain ⟨creds, hcreds⟩ := result_loadStoredCredentials hcomplete (henv.credentials .fallThrough)
    refine .seq (.attempt_of ?_)
    rw [hcreds, (idle_loadStoredCredentials .fallThrough env w).1]
    exact returns_useToken henv hcomplete hunforced hget "" none

theorem Online.bufferOverflow {st : ClusterStatus} (h : Online st) (now : ℕ)
    (b : Agent.EventBatcher) : Online (bufferOverflowStatus now b st) := by
  have hset : ∀ status reason message,
      Online (st.condition now "BufferOverflow" status reason message) := fun status reason message =>
    ⟨h.phase, (conditionIs_setCondition_of_ne (by decide)).trans h.connected,
      (conditionIs_setCondition_of_ne (by decide)).trans h.authenticated,
      (conditionIs_setCondition_of_ne (by decide)).trans h.disconnected⟩
  unfold bufferOverflowStatus
  split
  · exact hset _ _ _
  · exact hset _ _ _

theorem online_heartbeatStatus (now : ℕ) (st : ClusterStatus) :
    Online (heartbeatStatus now (.ok ()) st) where
  phase := rfl
  connected := (conditionIs_setCondition_of_ne (by decide)).trans
    ((conditionIs_setCondition_of_ne (by decide)).trans conditionIs_setCondition)
  authenticated := conditionIs_setCondition
  disconnected := (conditionIs_setCondition_of_ne (by decide)).trans conditionIs_setCondition

theorem returns_writeStatus {prev : List Condition} {st : ClusterStatus} (h : env.fault s = none)
    (hget : w.clusters.get cluster.metadata.name = some cluster) (hst : Online st) :
    Returns env w (r.writeStatus s failed cluster prev st) fun _ w' =>
      ∃ cluster', w'.clusters.get cluster.metadata.name = some cluster' ∧ Online cluster'.status := by
  refine .bind (P := fun st' w' => Online st' ∧ w' = w) (.seq (returns_now (.seq (.get ?_)))) ?_
  · split
    · exact .pure ⟨hst.bufferOverflow _ _, rfl⟩
    · exact .pure ⟨hst, rfl⟩
  · rintro st' w ⟨hst', rfl⟩
    exact .seq (.mapError (returns_updateStatus h hget (.seq (returns_now (.modify
      ⟨_, Store.get_put_self w.clusters { cluster with status := st' }, hst'⟩)))))

theorem returns_reconcileHeartbeat (henv : Smooth env) {secret : Secret} {creds : Agent.Credentials}
    (hsecret : w.secrets.get r.credentialsPlace = some secret)
    (hcreds : Agent.credentialsFromSecret secret.credentials = .ok creds)
    (hheartbeat : env.heartbeat (r.agentClient.getD (Agent.clientOf creds)) = .ok ())
    (hget : w.clusters.get cluster.metadata.name = some cluster) :
    Returns env w (r.reconcileHeartbeat cluster) fun _ w' =>
      ∃ cluster', w'.clusters.get cluster.metadata.name = some cluster' ∧ Online cluster'.status := by
  refine .seq (returns_now (.bind (P := fun client w' =>
    client = some (r.agentClient.getD (Agent.clientOf creds)) ∧ w' = w) ?_ ?_))
  · unfold ClusterReconciler.heartbeatClient
    split
    · next client hclient => exact .pure ⟨by rw [hclient]; rfl, rfl⟩
    · next hclient =>
      obtain ⟨creds', hload⟩ := result_loadStoredCredentials ⟨secret, creds, hsecret, hcreds⟩
        (henv.credentials .heartbeat)
      obtain ⟨secret', hsecret', hcreds'⟩ := of_loadStoredCredentials hload
      obtain rfl : secret = secret' := Option.some.inj (hsecret.symm.trans hsecret')
      obtain rfl : creds = creds' := Except.ok.inj (hcreds.symm.trans hcreds')
      refine .seq (.attempt_of ?_)
      rw [hload, (idle_loadStoredCredentials .heartbeat env w).1]
      refine .pure ⟨?_, rfl⟩
      rw [hclient, Agent.newHTTPClient_of_secret hcreds]
      rfl
  · rintro _ w ⟨rfl, rfl⟩
    refine .seq (.attempt (.seq (.ask (.seq (.emit (.ofExcept hheartbeat ?_))))))
    exact .bind (returns_writeStatus henv.status hget (online_heartbeatStatus _ _))
      fun _ _ h => .pure h

theorem returns_reconcile (henv : Smooth env) {secret : Secret} {creds : Agent.Credentials}
    (hsecret : w.secrets.get r.credentialsPlace = some secret)
    (hcreds : Agent.credentialsFromSecret secret.credentials = .ok creds)
    (hheartbeat : env.heartbeat (r.agentClient.getD (Agent.clientOf creds)) = .ok ())
    (hget : w.clusters.get name = some cluster)
    (hlive : cluster.metadata.deletionTimestamp = none)
    (hunforced : reRegisterRequested cluster = false)
    (hunrotated : cluster.spec.rotateCredentials = false) :
    Returns env w (r.reconcile name) fun _ w' =>
      ∃ cluster', w'.clusters.get name = some cluster' ∧ Online cluster'.status := by
  obtain rfl : cluster.metadata.name = name := Store.key_of_get hget
  refine .seq (returns_read henv.read ?_)
  rw [hget]
  simp only [hlive, Option.isSome_none, Bool.false_eq_true, if_false]
  refine .bind (returns_ensureFinalizer henv.finalizer hlive hget) ?_
  intro cluster₁ w₁ hopened
  obtain ⟨cluster₀, hget₀, htended, -⟩ := hopened.start
  obtain rfl : cluster = cluster₀ := Option.some.inj (hget.symm.trans hget₀)
  have hunforced₁ : reRegisterRequested cluster₁ = false := by
    rw [← hunforced, reRegisterRequested, htended.metadata]
    rfl
  have hget₁ : w₁.clusters.get cluster₁.metadata.name = some cluster₁ := by
    rw [htended.name]
    exact hopened.current
  have hsecret₁ : w₁.secrets.get r.credentialsPlace = some secret := hopened.secrets ▸ hsecret
  refine .bind (returns_reconcileRegistration henv ⟨secret, creds, hsecret₁, hcreds⟩ hunforced₁
    hget₁) ?_
  rintro _ w₂ ⟨cluster₂, rfl, hget₂, hspec, hsecrets⟩
  have hname₂ : cluster₂.metadata.name = cluster.metadata.name :=
    (Store.key_of_get hget₂).trans htended.name
  have hget₂' : w₂.clusters.get cluster₂.metadata.name = some cluster₂ := by
    rw [hname₂, ← htended.name]
    exact hget₂
  have hunrotated₂ : cluster₂.spec.rotateCredentials = false := by
    rw [hspec, htended.spec, hunrotated]
  simp only [ClusterReconciler.reconcileRotation, hunrotated₂, Bool.false_eq_true, if_false,
    ← hname₂]
  exact .seq (.pure
    (returns_reconcileHeartbeat henv (hsecrets ▸ hsecret₁) hcreds hheartbeat hget₂'))

theorem registered_stays_connected (henv : Smooth env) {secret : Secret} {creds : Agent.Credentials}
    (hsecret : w.secrets.get r.credentialsPlace = some secret)
    (hcreds : Agent.credentialsFromSecret secret.credentials = .ok creds)
    (hheartbeat : env.heartbeat (r.agentClient.getD (Agent.clientOf creds)) = .ok ())
    (hget : w.clusters.get name = some cluster)
    (hunforced : reRegisterRequested cluster = false)
    (hunrotated : cluster.spec.rotateCredentials = false) :
    (∀ token, .registerCalled token ∉ ((r.reconcile name).run env w).trace) ∧
      (cluster.metadata.deletionTimestamp = none →
        ∃ res, ((r.reconcile name).run env w).result = .ok res ∧
          ∃ cluster', ((r.reconcile name).run env w).state.clusters.get name = some cluster' ∧
            Online cluster'.status) := by
  refine ⟨fun token hmem => ?_, fun hlive => ?_⟩
  · have hguarded : Guarded r token w (.reconcile env name) := by
      intro cluster' source hget' _
      obtain rfl : cluster = cluster' := Option.some.inj (hget.symm.trans hget')
      exact ⟨hunforced, .inr (henv.credentials .guard)⟩
    obtain ⟨hzero, -⟩ := hguarded.step trivial ⟨secret, creds, hsecret, hcreds⟩
    exact absurd (List.count_pos_iff.mpr hmem) (by rw [ClusterReconciler.emitted] at hzero; omega)
  · exact returns_reconcile henv hsecret hcreds hheartbeat hget hlive hunforced hunrotated

/-- The token in the Secret is another one than was exchanged, and the adoption meets a conflict. -/
def conflictOnce : ClusterEnv where
  now := 300
  fault := fun
    | .retriedStatus .adopted 0 => some "the object has been modified"
    | _ => none
  conflict := fun _ => true

def agentCredentials : Secret where
  metadata := { ns := "vworkspace-system", name := "vworkspace-agent-credentials" }
  data := [("control-plane-base-url", "https://workspace.example.org"), ("cluster-id", "c-1"),
    ("token", "bearer-1")]

theorem sample_registered_stays_connected :
    ∃ res, ((sampleController.reconcile "main").run conflictOnce
        { clusters := Store.empty.put secretCluster
          secrets := (Store.empty.put bootstrapSecret).put agentCredentials }).result = .ok res ∧
      ∃ cluster, ((sampleController.reconcile "main").run conflictOnce
        { clusters := Store.empty.put secretCluster
          secrets := (Store.empty.put bootstrapSecret).put agentCredentials }).state.clusters.get
            "main" = some cluster ∧ Online cluster.status := by
  have hsmooth : Smooth conflictOnce :=
    ⟨rfl, rfl, fun _ => rfl, fun _ => rfl, ⟨1, by decide, rfl, fun j hj => by
      obtain rfl : j = 0 := by omega
      exact ⟨rfl, rfl⟩⟩, rfl, rfl⟩
  have hsecret : ((Store.empty.put bootstrapSecret).put agentCredentials).get
      sampleController.credentialsPlace = some agentCredentials := by decide +kernel
  have hcreds : Agent.credentialsFromSecret agentCredentials.credentials =
      .ok ⟨"https://workspace.example.org", "c-1", "bearer-1"⟩ := by rfl
  have hget : (Store.empty.put secretCluster).get "main" = some secretCluster := by decide +kernel
  exact (registered_stays_connected hsmooth hsecret hcreds rfl hget (by decide +kernel) rfl).2 rfl

end VWorkspace.Registration
