import VWorkspaceOperator.Registration.Reconcile

/-!
# What a reconcile of a cluster may do

Most of what a reconcile of a `Cluster` writes is bookkeeping: statuses, its finalizer, and what
it reports.  Two parts of it are not: an exchange of a registration token, and a rotation.  So an
invariant that bookkeeping keeps has to be checked for these two only, where it may be used what
the reconcile knows when it comes to them.
-/

namespace VWorkspace.Registration

open Kit Prog ClusterM

variable {w : ClusterWorld}

section idle

variable {r : ClusterReconciler} (s : ClusterSite) (cluster : ClusterResource)

theorem idle_call : Idle (call s) := by
  intro env w
  simp only [call]
  cases env.fault s <;> exact ⟨rfl, rfl⟩

theorem idle_now : Idle ClusterM.now := .bind .ask fun _ => .pure _

theorem idle_read {α : Type} (f : ClusterWorld → α) : Idle (ClusterM.read s f) :=
  .bind (idle_call s) fun _ => .bind .get fun _ => .pure _

theorem idle_getExisting (name : String) : Idle (getExisting s name) := by
  refine .bind (idle_read _ _) fun found => ?_
  split
  · exact .throw _
  · exact .pure _

theorem idle_loadStoredCredentials (s : LoadSite) : Idle (r.loadStoredCredentials s) := by
  refine .bind (Idle.mapError (idle_read _ _)) fun found => ?_
  split
  · exact .throw _
  · exact .ofExcept _

theorem idle_resolveRegistrationToken : Idle (r.resolveRegistrationToken cluster) := by
  unfold ClusterReconciler.resolveRegistrationToken
  split
  · split
    · exact .throw _
    · refine .bind (Idle.mapError (idle_read _ _)) fun found => ?_
      split
      · exact .throw _
      · simp only
        split
        · exact .throw _
        · exact .pure _
  · split
    · exact .pure _
    · exact .pure _

theorem idle_syncBufferOverflowCondition (st : ClusterStatus) :
    Idle (r.syncBufferOverflowCondition st) := by
  refine .bind idle_now fun t => .bind .get fun w => ?_
  split
  · exact .pure _
  · exact .pure _

theorem idle_heartbeatClient : Idle r.heartbeatClient := by
  unfold ClusterReconciler.heartbeatClient
  split
  · exact .pure _
  · refine .bind (Idle.attempt (idle_loadStoredCredentials _)) fun res => ?_
    split
    · exact .pure _
    · exact .pure _

theorem eq_of_read {α : Type} {s : ClusterSite} {f : ClusterWorld → α} {env : ClusterEnv} {a : α}
    (h : ((ClusterM.read s f).run env w).result = .ok a) : a = f w := by
  cases hcall : ((call s).run env w).result with
  | error e =>
    rw [ClusterM.read, run_bind_of_error hcall] at h
    exact absurd h (by simp)
  | ok u =>
    rw [ClusterM.read, run_bind_of_ok hcall, (idle_call s env w).1] at h
    exact (Except.ok.inj h).symm

theorem of_getExisting {s : ClusterSite} {name : String} {env : ClusterEnv}
    {cluster : ClusterResource} (h : ((getExisting s name).run env w).result = .ok cluster) :
    w.clusters.get name = some cluster := by
  obtain ⟨found, hfound, hrest⟩ := exists_of_result_bind h
  rw [(idle_read _ _ env w).1] at hrest
  have hget := eq_of_read hfound
  cases found with
  | none => exact absurd hrest (by simp)
  | some c => rw [← Except.ok.inj hrest, ← hget]

end idle

theorem result_resolveRegistrationToken_congr {r : ClusterReconciler} {env : ClusterEnv}
    {cluster : ClusterResource} {w' : ClusterWorld} (h : w.secrets = w'.secrets) :
    ((r.resolveRegistrationToken cluster).run env w).result =
      ((r.resolveRegistrationToken cluster).run env w').result := by
  have hread : ∀ k (f : GoError → GoError),
      (((ClusterM.read .getTokenSecret fun w => w.secrets.get k).mapError f).run env w).result =
        (((ClusterM.read .getTokenSecret fun w => w.secrets.get k).mapError f).run env w').result := by
    intro k f
    simp only [ClusterM.read, call, run_mapError, run_bind]
    cases env.fault .getTokenSecret with
    | none => simp [h]
    | some msg => rfl
  unfold ClusterReconciler.resolveRegistrationToken
  split
  · split
    · rfl
    · rw [run_bind, run_bind, hread]
      split
      · rw [Outcome.result_after, Outcome.result_after]
        split
        · rfl
        · simp only
          split <;> rfl
      · rfl
  · split <;> rfl

theorem resolveRegistrationToken_congr {r : ClusterReconciler}
    {cluster cluster' : ClusterResource} (h : cluster.spec = cluster'.spec) :
    r.resolveRegistrationToken cluster = r.resolveRegistrationToken cluster' := by
  unfold ClusterReconciler.resolveRegistrationToken
  rw [h]

structure Tended (stored new : ClusterResource) : Prop where
  metadata : new.metadata = { stored.metadata with finalizers := new.metadata.finalizers }
  spec : new.spec = stored.spec
  generation : new.generation = stored.generation

theorem Tended.name {stored new : ClusterResource} (h : Tended stored new) :
    new.metadata.name = stored.metadata.name := by
  rw [h.metadata]

section books

variable {τ : Type} (apply : ClusterEvent → τ → τ) (I : τ → ClusterWorld → Prop)

structure Books : Prop where
  tended : ∀ {t w stored new}, w.clusters.get new.metadata.name = some stored →
    Tended stored new → I t w → I t { w with clusters := w.clusters.put new }
  erased : ∀ {t w} (name : String), I t w → I t { w with clusters := w.clusters.erase name }
  memory : ∀ {t w} (m : OperatorMemory), I t w → I t { w with memory := m }
  heartbeat : ∀ client t, apply (.heartbeatSent client) t = t
  warned : ∀ name reason message t, apply (.warned name reason message) t = t

variable {apply I} (hI : Books apply I) {env : ClusterEnv} {r : ClusterReconciler}
  (s : ClusterSite) (cluster : ClusterResource)

/-- The invariant, with something about the state that does not depend on the ghost. -/
abbrev With (I : τ → ClusterWorld → Prop) (P : ClusterWorld → Prop) (t : τ) (w : ClusterWorld) :
    Prop := I t w ∧ P w

theorem follows_read {α : Type} {P : ClusterWorld → Prop} (f : ClusterWorld → α) :
    Follows apply env (With I P) (ClusterM.read s f) (fun a => With I fun w => P w ∧ a = f w)
      I :=
  (Follows.known (idle_read s f) fun _ _ h => h.1).post fun _ _ _ h =>
    ⟨h.1.1, h.1.2, eq_of_read h.2⟩

theorem follows_now {P F : τ → ClusterWorld → Prop} :
    Follows apply env P ClusterM.now (fun _ => P) F := .bind .ask fun _ => .pure fun _ _ => id

theorem follows_getExisting {P : ClusterWorld → Prop} (name : String) :
    Follows apply env (With I P) (getExisting s name)
      (fun cluster => With I fun w => P w ∧ w.clusters.get name = some cluster) I :=
  (Follows.known (idle_getExisting s name) fun _ _ h => h.1).post fun _ _ _ h =>
    ⟨h.1.1, h.1.2, of_getExisting h.2⟩

theorem follows_updateCluster {P F : τ → ClusterWorld → Prop}
    {Q : ClusterResource → τ → ClusterWorld → Prop} (hF : ∀ t w, P t w → F t w)
    (hput : ∀ t w stored, P t w → w.clusters.get cluster.metadata.name = some stored →
      Q (updated cluster stored) t { w with clusters := w.clusters.put (updated cluster stored) })
    (herase : ∀ t w stored, P t w → w.clusters.get cluster.metadata.name = some stored →
      cluster.metadata.finalizers = [] →
      Q (updated cluster stored) t { w with clusters := w.clusters.erase cluster.metadata.name }) :
    Follows apply env P (updateCluster s cluster) Q F := by
  refine .bind (.of_idle (idle_call _) hF) fun _ => .bind .ask fun env' =>
    .bind (.get (Q := fun w' t w => P t w ∧ w' = w) fun _ _ h => ⟨h, rfl⟩) fun w' => ?_
  split
  · exact .throw fun t w h => hF t w h.1
  · next stored hget =>
    split
    · exact .throw fun t w h => hF t w h.1
    · next hanswer =>
      refine .bind (Q := fun _ => Q (updated cluster stored)) ?_ fun _ => .pure fun _ _ => id
      rintro t w ⟨hw, rfl⟩
      exact ⟨fun _ _ => herase t w' stored hw hget (of_answerUpdate_removed hanswer).2,
        fun _ he => absurd he (by simp)⟩
    · refine .bind (Q := fun _ => Q (updated cluster stored)) ?_ fun _ => .pure fun _ _ => id
      rintro t w ⟨hw, rfl⟩
      exact ⟨fun _ _ => hput t w' stored hw hget, fun _ he => absurd he (by simp [put])⟩

include hI

theorem follows_updateStatus : Follows apply env I (updateStatus s cluster) (fun _ => I) I := by
  refine .bind (.of_idle (idle_call s) fun _ _ => id) fun _ =>
    .bind (.get (Q := fun w' t w => I t w ∧ w' = w) fun _ _ h => ⟨h, rfl⟩) fun w' => ?_
  split
  · exact .throw fun _ _ h => h.1
  · next stored hget =>
    rintro t w ⟨hw, rfl⟩
    have hname : stored.metadata.name = cluster.metadata.name := Store.key_of_get hget
    have htended : Tended stored { stored with status := cluster.status } := ⟨rfl, rfl, rfl⟩
    refine ⟨fun _ _ => ?_, fun _ he => absurd he (by simp [put])⟩
    exact hI.tended (hname ▸ hget) htended hw

theorem follows_retryStatus (s : RetrySite) (failed name : String)
    (f : ClusterStatus → ClusterStatus) :
    Follows apply env I (retryStatus s failed name f) (fun _ => I) I := by
  have hattempt : ∀ i, Follows apply env I (attemptStatus s failed name f i) (fun _ => I) I := by
    intro i
    refine .bind (.mapError (.of_idle (idle_getExisting _ _) fun _ _ => id)) fun fresh => ?_
    refine .bind (follows_updateStatus hI _ _).attempt_both fun res => ?_
    split
    · exact .pure fun _ _ => id
    · refine .bind .ask fun env' => ?_
      split
      · exact .pure fun _ _ => id
      · exact .throw fun _ _ => id
  have hretry : ∀ steps i err, Follows apply env I
      (retryOnConflict (attemptStatus s failed name f) steps i err) (fun _ => I) I := by
    intro steps
    induction steps with
    | zero => exact fun i err => .throw fun _ _ => id
    | succ steps ih =>
      intro i err
      refine .bind (hattempt i) fun res => ?_
      cases res with
      | none => exact .pure fun _ _ => id
      | some err => exact ih (i + 1) err
  exact hretry 5 0 _

theorem follows_reportConditions (prev : List Condition) :
    Follows apply env I (ClusterReconciler.reportConditions cluster prev) (fun _ => I) I := by
  refine .bind (.of_idle idle_now fun _ _ => id) fun t => ?_
  exact fun t w hw => ⟨fun _ _ => hI.memory _ hw, fun _ he => absurd he (by simp)⟩

theorem follows_writeStatus (failed : String) (cluster : ClusterResource) (prev : List Condition)
    (st : ClusterStatus) :
    Follows apply env I (r.writeStatus s failed cluster prev st) (fun _ => I) I := by
  refine .bind (.of_idle (idle_syncBufferOverflowCondition st) fun _ _ => id) fun st => ?_
  exact .bind (.mapError (follows_updateStatus hI _ _)) fun _ => follows_reportConditions hI _ _

theorem follows_reconcileHeartbeat :
    Follows apply env I (r.reconcileHeartbeat cluster) (fun _ => I) I := by
  refine .bind (.of_idle idle_now fun _ _ => id) fun t =>
    .bind (.of_idle idle_heartbeatClient fun _ _ => id) fun client => ?_
  split
  · exact .bind (follows_writeStatus hI _ _ _ _ _) fun _ => .pure fun _ _ => id
  · next client =>
    have hheartbeat : Follows apply env I (heartbeat client) (fun _ => I) I := by
      refine .bind .ask fun env' => .bind (.emit fun t w hw => ?_) fun _ =>
        .of_idle (.ofExcept _) fun _ _ => id
      rw [hI.heartbeat]
      exact hw
    exact .bind hheartbeat.attempt_both fun answer =>
      .bind (follows_writeStatus hI _ _ _ _ _) fun _ => .pure fun _ _ => id

/-- The stored `Cluster` is the one at hand, but for its status. -/
def AtHand (cluster : ClusterResource) (w : ClusterWorld) : Prop :=
  ∃ stored, w.clusters.get cluster.metadata.name = some stored ∧
    stored.metadata = cluster.metadata ∧ stored.spec = cluster.spec

omit hI in
theorem tended_updated {cluster stored : ClusterResource}
    (hmetadata : stored.metadata = cluster.metadata) (hspec : stored.spec = cluster.spec)
    (finalizers : List String) (st : ClusterStatus) : Tended stored (updated { cluster with
      metadata := { cluster.metadata with finalizers }, status := st } stored) := by
  refine ⟨?_, hspec.symm, if_pos hspec.symm⟩
  rw [updated, hmetadata]

theorem follows_finalizeCluster :
    Follows apply env (With I fun w => w.clusters.get cluster.metadata.name = some cluster)
      (ClusterReconciler.finalizeCluster cluster) (fun _ => I) I := by
  have hput : ∀ {w : ClusterWorld} {stored : ClusterResource} {name : String},
      stored.metadata.name = name → (w.clusters.put stored).get name = some stored := by
    rintro w stored _ rfl
    exact Store.get_put_self _ _
  unfold ClusterReconciler.finalizeCluster
  split
  · exact .pure fun _ _ h => h.1
  · -- the phase is written first, and the finalizer goes from what is stored then
    have hremove : ∀ st, Follows apply env (With I (AtHand cluster))
        (updateCluster .removeFinalizer { cluster with
          metadata := { cluster.metadata with
            finalizers := cluster.metadata.finalizers.filter (· ≠ clusterFinalizer) }
          status := st }) (fun _ => I) I := by
      intro st
      refine follows_updateCluster _ _ (fun _ _ h => h.1) ?_ fun t w stored h _ _ => hI.erased _ h.1
      rintro t w stored ⟨hw, stored', hget', hmetadata, hspec⟩ hget
      obtain rfl : stored = stored' := Option.some.inj (hget.symm.trans hget')
      exact hI.tended hget (tended_updated hmetadata hspec _ st) hw
    have hstatus : ∀ st, Follows apply env
        (With I fun w => w.clusters.get cluster.metadata.name = some cluster)
        (updateStatus .updateTerminating { cluster with status := st })
        (fun _ => With I (AtHand cluster)) I := by
      intro st
      refine .bind (.of_idle (idle_call _) fun _ _ h => h.1) fun _ =>
        .bind (.get (Q := fun w' t w => With I
          (fun w => w.clusters.get cluster.metadata.name = some cluster) t w ∧ w' = w)
          fun _ _ h => ⟨h, rfl⟩) fun w' => ?_
      split
      · exact .throw fun _ _ h => h.1.1
      · next stored hget =>
        rintro t w ⟨⟨hw, hcurrent⟩, rfl⟩
        obtain rfl : stored = cluster := Option.some.inj (hget.symm.trans hcurrent)
        have htended : Tended stored { stored with status := st } := ⟨rfl, rfl, rfl⟩
        refine ⟨fun _ _ => ⟨?_, ?_⟩, fun _ he => absurd he (by simp [put])⟩
        · exact hI.tended hcurrent htended hw
        · exact ⟨_, hput rfl, rfl, rfl⟩
    simp only
    split
    · refine .bind (.mapError (hstatus _)) fun _ => ?_
      exact .bind (.mapError (hremove _)) fun _ => .pure fun _ _ => id
    · have hhand : ∀ (t : τ) (w : ClusterWorld),
          With I (fun w => w.clusters.get cluster.metadata.name = some cluster) t w →
            With I (AtHand cluster) t w := fun t w h => ⟨h.1, cluster, h.2, rfl, rfl⟩
      refine .bind (.mapError ((hremove _).pre hhand)) fun _ => ?_
      exact .pure fun _ _ => id

/-- The reconcile has read the `Cluster`, and done nothing but add its finalizer. -/
structure Opened (w₀ : ClusterWorld) (name : String) (cluster : ClusterResource)
    (w : ClusterWorld) : Prop where
  start : ∃ cluster₀, w₀.clusters.get name = some cluster₀ ∧ Tended cluster₀ cluster ∧
    cluster.status = cluster₀.status
  current : w.clusters.get name = some cluster
  others : ∀ other, other ≠ name → w.clusters.get other = w₀.clusters.get other
  secrets : w.secrets = w₀.secrets
  controlPlane : w.controlPlane = w₀.controlPlane

omit hI in
theorem Opened.name {w₀ w : ClusterWorld} {name : String} {cluster : ClusterResource}
    (h : Opened w₀ name cluster w) : cluster.metadata.name = name := Store.key_of_get h.current

variable (r env) in
/-- The reconcile comes to present a token: it was asked to, or does not find the token observed
and cannot load credentials. -/
structure Presents (w₀ : ClusterWorld) (name : String) (cluster : ClusterResource) (token : String)
    (source : Option TokenSource) (w : ClusterWorld) : Prop extends Opened w₀ name cluster w where
  resolved : ((r.resolveRegistrationToken cluster).run env w).result = .ok (token, source)
  token_ne : token ≠ ""
  unobserved : reRegisterRequested cluster = true ∨
    r.tokenFingerprint token ≠ cluster.status.observedToken
  unguarded : reRegisterRequested cluster = true ∨
    ∃ err, ((r.loadStoredCredentials .guard).run env w).result = .error err

omit hI in
theorem Opened.read {name : String} {cluster : ClusterResource}
    (h : w.clusters.get name = some cluster) : Opened w name cluster w :=
  ⟨⟨cluster, h, ⟨rfl, rfl, rfl⟩, rfl⟩, h, fun _ _ => rfl, rfl, rfl⟩

theorem follows_ensureFinalizer {w₀ : ClusterWorld} {name : String} :
    Follows apply env (With I fun w => w = w₀ ∧ w₀.clusters.get name = some cluster)
      (ClusterReconciler.ensureFinalizer cluster) (fun cluster' => With I (Opened w₀ name cluster')) I := by
  unfold ClusterReconciler.ensureFinalizer
  split
  · refine .pure ?_
    rintro t w ⟨hw, rfl, hget⟩
    exact ⟨hw, .read hget⟩
  · refine .mapError (follows_updateCluster _ _ (fun _ _ h => h.1) ?_ ?_)
    · -- what is written is the `Cluster` with the finalizer
      rintro t w stored ⟨hw, rfl, hcluster⟩ hget
      obtain rfl : cluster.metadata.name = name := Store.key_of_get hcluster
      obtain rfl : stored = cluster := Option.some.inj (hget.symm.trans hcluster)
      have htended := tended_updated (rfl : stored.metadata = _) (rfl : stored.spec = _)
        (stored.metadata.finalizers ++ [clusterFinalizer]) stored.status
      refine ⟨hI.tended hcluster htended hw, ⟨stored, hcluster, htended, rfl⟩, ?_, ?_, rfl, rfl⟩
      · exact Store.get_put_self w.clusters (updated _ stored)
      · exact fun other hne => Store.get_put_of_ne hne
    · exact fun _ _ _ _ _ hnil => absurd hnil (by simp)

/-- What goes on goes on with the `Cluster` that is stored. -/
def Goes (I : τ → ClusterWorld → Prop) (name : String) :
    ClusterReconciler.Progress → τ → ClusterWorld → Prop
  | .stop _ => I
  | .goOn cluster => With I fun w => w.clusters.get name = some cluster

theorem follows_adopt {name : String} (s : RetrySite) (again : ReloadSite)
    (cluster : ClusterResource) (hname : cluster.metadata.name = name) (token : String) :
    Follows apply env I (r.adopt s again cluster token) (Goes I name) I := by
  refine .bind (.bind (.of_idle idle_now fun _ _ => id) fun t => follows_retryStatus hI _ _ _ _)
    fun _ => ?_
  refine .bind (.mapError ((follows_getExisting (P := fun _ => True) _ _).pre
    fun _ _ h => ⟨h, trivial⟩)) fun cluster' => ?_
  exact .pure fun t w h => ⟨h.1, hname ▸ h.2.2⟩

theorem follows_registrationFailed {name : String} (prev : List Condition) (err : GoError) :
    Follows apply env I (r.registrationFailed cluster prev err) (Goes I name) I := by
  refine .bind (.of_idle idle_now fun _ _ => id) fun t =>
    .bind (follows_writeStatus hI _ _ _ _ _) fun _ => ?_
  exact .pure fun _ _ => id

omit hI in
theorem name_updateCluster {s : ClusterSite} {cluster written : ClusterResource}
    (h : ((updateCluster s cluster).run env w).result = .ok written) :
    written.metadata.name = cluster.metadata.name := by
  have hupdate : Triple env (fun _ => True) (updateCluster s cluster) (fun _ => True)
      fun written _ => written.metadata.name = cluster.metadata.name := by
    refine .bind .top fun _ => .bind .top fun env' => .bind .top fun w => ?_
    split
    · exact .throw
    · split
      · exact .throw
      · exact .bind .top fun _ => .pure fun _ _ => rfl
      · exact .bind .top fun _ => .pure fun _ _ => rfl
  exact (hupdate w trivial).2 written h

omit hI in
theorem name_registerCluster {cluster : ClusterResource} {token : String}
    {source : Option TokenSource} :
    Triple env (fun _ => True) (r.registerCluster cluster token source) (fun _ => True)
      fun answer _ => answer.1.metadata.name = cluster.metadata.name := by
  have hchanged : ∀ clusterID, (afterExchange source clusterID cluster).metadata.name =
      cluster.metadata.name := fun _ => name_afterExchange _ _ _
  unfold ClusterReconciler.registerCluster
  simp only
  split
  · exact .pure fun _ _ => rfl
  · refine .bind .top fun answer => ?_
    split
    · exact .pure fun _ _ => rfl
    · refine .bind .top fun res => ?_
      split
      · exact .pure fun _ _ => rfl
      · refine .bind .top fun t => ?_
        refine .bind (Q := fun res _ => ∀ written, res = .ok written →
          written.metadata.name = cluster.metadata.name) ?_ fun res => ?_
        · refine .attempt fun w hw => ⟨fun _ _ => trivial, fun written hres => ?_⟩
          split at hres
          · exact (name_updateCluster hres).trans (hchanged _)
          · rw [← Except.ok.inj hres]
        · split
          · exact .pure fun _ _ => hchanged _
          · next written =>
            refine .bind (Q := fun _ _ => written.metadata.name = cluster.metadata.name)
              (.attempt fun w hw => ⟨fun _ _ => trivial, hw written rfl⟩) fun res => ?_
            split
            · exact .pure fun _ hw => hw
            · exact .pure fun _ hw => hw

variable {w₀ : ClusterWorld} {name : String} {J : τ → ClusterWorld → Prop}

theorem follows_exchange (token : String) (source : Option TokenSource)
    (hname : cluster.metadata.name = name) {P : ClusterWorld → Prop}
    (hregister : Follows apply env (With J P) (r.registerCluster cluster token source) (fun _ => I) I) :
    Follows apply env (With J P) (r.exchange cluster token source) (Goes I name) I := by
  have hnamed : Follows apply env (With J P) (r.registerCluster cluster token source)
      (fun answer t w => I t w ∧ answer.1.metadata.name = name) I := by
    intro t w hw
    obtain ⟨hok, herror⟩ := hregister t w hw
    refine ⟨fun answer hanswer => ⟨hok answer hanswer, ?_⟩, herror⟩
    exact ((name_registerCluster w trivial).2 answer hanswer).trans hname
  refine .bind hnamed fun answer => ?_
  obtain ⟨changed, _ | err⟩ := answer
  · have hreload : Follows apply env (fun t w => I t w ∧ changed.metadata.name = name)
        ((getExisting (.reload .registration) changed.metadata.name).mapError
          (·.wrap "reload cluster after registration") >>= fun cluster => pure (.goOn cluster))
        (Goes I name) I := by
      refine .bind (.mapError (follows_getExisting (P := fun _ => changed.metadata.name = name) _ _))
        fun cluster' => ?_
      exact .pure fun t w h => ⟨h.1, h.2.1 ▸ h.2.2⟩
    simp only
    split
    · refine .bind (Q := fun _ t w => I t w ∧ changed.metadata.name = name)
        (.emit fun t w h => ?_) fun _ => hreload
      rw [hI.warned]
      exact h
    · exact hreload
  · have hkeep : ∀ {α : Type} {x : ClusterM α} {Q : α → τ → ClusterWorld → Prop},
        (changed.metadata.name = name → Follows apply env I x Q I) →
        Follows apply env (fun t w => I t w ∧ changed.metadata.name = name) x Q I :=
      fun hx t w h => hx h.2 t w h.1
    simp only
    split
    · exact hkeep fun _ => follows_registrationFailed hI _ _ _
    · refine .bind (.of_idle (Idle.attempt (idle_loadStoredCredentials _)) fun _ _ h => h.1)
        fun res => ?_
      split
      · exact hkeep fun h => follows_adopt hI _ _ changed h token
      · exact hkeep fun _ => follows_registrationFailed hI _ _ _

theorem follows_useToken (hJI : ∀ t w, J t w → I t w) (cluster : ClusterResource) (token : String) (source : Option TokenSource)
    (hname : cluster.metadata.name = name)
    (hresolved : ∀ w, token ≠ "" → Opened w₀ name cluster w →
      ((r.resolveRegistrationToken cluster).run env w).result = .ok (token, source))
    (hregister : Follows apply env (With J (Presents env r w₀ name cluster token source))
      (r.registerCluster cluster token source) (fun _ => I) I) :
    Follows apply env (With J (Opened w₀ name cluster)) (r.useToken cluster token source)
      (Goes I name) I := by
  unfold ClusterReconciler.useToken
  simp only
  split
  · exact .pure fun t w h => ⟨hJI t w h.1, h.2.current⟩
  · next hunused =>
    obtain ⟨hne, hunobserved⟩ := not_or.mp hunused
    split
    · next hforced =>
      refine (follows_exchange hI cluster token source hname hregister).pre ?_
      exact fun t w h => ⟨h.1, h.2, hresolved w hne h.2, hne, .inl hforced, .inl hforced⟩
    · next hunforced =>
      have hdiffers : r.tokenFingerprint token ≠ cluster.status.observedToken := fun heq =>
        hunobserved ⟨heq, by simpa using hunforced⟩
      refine .bind (.known (.attempt (idle_loadStoredCredentials .guard)) fun t w h => hJI t w h.1)
        fun res => ?_
      split
      · exact (follows_adopt hI _ _ cluster hname token).pre fun t w h => hJI t w h.1.1
      · next err =>
        refine (follows_exchange hI cluster token source hname hregister).pre ?_
        exact fun t w h => ⟨h.1.1, h.1.2, hresolved w hne h.1.2, hne, .inr hdiffers,
          .inr ⟨err, Except.ok.inj h.2⟩⟩

theorem follows_reconcileRegistration (hJI : ∀ t w, J t w → I t w) (cluster : ClusterResource)
    (hname : cluster.metadata.name = name)
    (hregister : ∀ token source, Follows apply env
      (With J (Presents env r w₀ name cluster token source))
      (r.registerCluster cluster token source) (fun _ => I) I) :
    Follows apply env (With J (Opened w₀ name cluster)) (r.reconcileRegistration cluster)
      (Goes I name) I := by
  refine .bind (.known (.attempt (idle_resolveRegistrationToken cluster)) fun t w h => hJI t w h.1)
    fun res => ?_
  split
  · next token source =>
    rintro t w ⟨h, hres⟩
    refine follows_useToken hI hJI cluster token source hname (fun w' _ hw' => ?_)
      (hregister token source) t w h
    have hsecrets := hw'.secrets.trans h.2.secrets.symm
    exact (result_resolveRegistrationToken_congr hsecrets).trans (Except.ok.inj hres)
  · refine .bind (.of_idle (Idle.attempt (idle_loadStoredCredentials _)) fun t w h => hJI t w h.1.1)
      fun loaded => ?_
    split
    · refine (follows_useToken hI hJI cluster "" none hname (fun w hne => absurd rfl hne)
        (hregister "" none)).pre (fun _ _ h => h.1)
    · refine .bind (.of_idle idle_now fun t w h => hJI t w h.1.1) fun t => ?_
      refine .bind ((follows_writeStatus hI _ _ _ _ _).pre (fun t w h => hJI t w h.1.1)) fun _ => ?_
      exact .pure fun _ _ => id

theorem follows_reconcileRotation
    (hrotate : cluster.spec.rotateCredentials = true →
      Follows apply env (With I fun w => w.clusters.get name = some cluster)
        (r.rotateCredentials cluster) (fun answer t w => I t w ∧ answer.1.metadata.name = name) I) :
    Follows apply env (With I fun w => w.clusters.get name = some cluster)
      (r.reconcileRotation cluster) (Goes I name) I := by
  unfold ClusterReconciler.reconcileRotation
  split
  · next hflag =>
    refine .bind (hrotate hflag) fun answer => ?_
    obtain ⟨changed, _ | err⟩ := answer
    · refine .bind (.mapError (follows_getExisting (P := fun _ => changed.metadata.name = name) _ _))
        fun cluster' => ?_
      exact .pure fun t w h => ⟨h.1, h.2.1 ▸ h.2.2⟩
    · refine .bind (.of_idle idle_now fun _ _ h => h.1) fun t => ?_
      refine .bind ((follows_writeStatus hI _ _ _ _ _).pre (fun _ _ h => h.1)) fun _ => ?_
      exact .pure fun _ _ => id
  · exact .pure fun _ _ h => h

theorem follows_reconcile (hJ : Books apply J) (hJI : ∀ t w, J t w → I t w)
    (hregister : ∀ cluster token source, Follows apply env
      (With J (Presents env r w₀ name cluster token source))
      (r.registerCluster cluster token source) (fun _ => I) I)
    (hrotate : ∀ cluster, cluster.metadata.name = name → cluster.spec.rotateCredentials = true →
      Follows apply env (With I fun w => w.clusters.get name = some cluster)
        (r.rotateCredentials cluster) (fun answer t w => I t w ∧ answer.1.metadata.name = name) I) :
    Follows apply env (With J (· = w₀)) (r.reconcile name) (fun _ => I) I := by
  refine .bind ((follows_read (I := J) _ _).conseq (fun _ _ => id) (fun _ _ _ => id) hJI)
    fun found => ?_
  cases found with
  | none => exact .pure fun t w h => hJI t w h.1
  | some cluster =>
    have hread : ∀ (t : τ) (w : ClusterWorld),
        With J (fun w => w = w₀ ∧ some cluster = w.clusters.get name) t w →
          cluster.metadata.name = name ∧
            With J (fun w => w = w₀ ∧ w₀.clusters.get name = some cluster) t w := by
      rintro t w ⟨hw, rfl, hget⟩
      exact ⟨Store.key_of_get hget.symm, hw, rfl, hget.symm⟩
    simp only
    split
    · intro t w h
      obtain ⟨hname, hw, rfl, hget⟩ := hread t w h
      exact follows_finalizeCluster hI cluster t w ⟨hJI _ _ hw, hname.symm ▸ hget⟩
    · intro t w h
      obtain ⟨hname, hw⟩ := hread t w h
      refine Follows.bind ((follows_ensureFinalizer hJ cluster).conseq (fun _ _ => id)
        (fun _ _ _ => id) hJI) (fun cluster' => ?_) t w hw
      intro t w h
      have hname' : cluster'.metadata.name = name := h.2.name
      refine Follows.bind (follows_reconcileRegistration hI hJI cluster' hname' (hregister cluster'))
        (fun progress => ?_) t w h
      cases progress with
      | stop res => exact .pure fun _ _ => id
      | goOn cluster'' =>
        intro t w h
        have hname'' : cluster''.metadata.name = name := Store.key_of_get h.2
        refine Follows.bind (follows_reconcileRotation hI cluster'' (hrotate cluster'' hname''))
          (fun progress => ?_) t w h
        cases progress with
        | stop res => exact .pure fun _ _ => id
        | goOn cluster₃ =>
          exact (follows_reconcileHeartbeat hI cluster₃).pre (fun _ _ h => h.1)

variable {P : τ → ClusterWorld → Prop}

theorem follows_registerCluster {M : RegisterResponse → τ → ClusterWorld → Prop}
    {N : τ → ClusterWorld → Prop} (token : String) (source : Option TokenSource)
    (hP : ∀ t w, P t w → I t w)
    (hregister : Follows apply env P
      (register (controlPlaneEndpoint cluster) token cluster.spec.clusterID) M I)
    (hpersist : ∀ resp, Follows apply env (M resp)
      (persistCredentials .registration r.namespaceOf r.credentialsSecretName
        ⟨controlPlaneEndpoint cluster, resp.clusterID, resp.token⟩ cluster) (fun _ => N) I)
    (hupdate : ∀ resp : RegisterResponse, Follows apply env N
      (if specChanged source cluster then
        updateCluster .updateSpec (afterExchange source resp.clusterID cluster)
        else pure cluster) (fun _ => I) I) :
    Follows apply env P (r.registerCluster cluster token source) (fun _ => I) I := by
  unfold ClusterReconciler.registerCluster
  simp only
  split
  · exact .pure hP
  · refine .bind hregister.attempt fun answer => ?_
    cases answer with
    | error err => exact .pure fun _ _ h => h
    | ok resp =>
      refine .bind (hpersist resp).attempt fun res => ?_
      cases res with
      | error err => exact .pure fun _ _ h => h
      | ok _ =>
        refine .bind (Q := fun _ => N) follows_now fun t => ?_
        refine .bind (hupdate resp).attempt fun res => ?_
        cases res with
        | error err => exact .pure fun _ _ h => h
        | ok written =>
          refine .bind (follows_retryStatus hI _ _ _ _).attempt_both fun res => ?_
          cases res with
          | error err => exact .pure fun _ _ h => h
          | ok _ => exact .pure fun _ _ h => h

theorem follows_rotateCredentials {M : Agent.Credentials → String → τ → ClusterWorld → Prop}
    {N : τ → ClusterWorld → Prop} (hP : ∀ t w, P t w → I t w)
    (hrotate : ∀ creds client, r.rotateClient creds = .ok client → Follows apply env
      (fun t w => P t w ∧ ((r.loadStoredCredentials .rotation).run env w).result = .ok creds)
      (rotate client) (M creds) I)
    (hpersist : ∀ creds token, Follows apply env (M creds token)
      (persistCredentials .rotation r.namespaceOf r.credentialsSecretName
        ⟨creds.baseURL, creds.clusterID, token⟩ cluster) (fun _ => N) I)
    (hupdate : Follows apply env N
      (updateCluster .clearRotateFlag (ClusterReconciler.afterRotation cluster)) (fun _ => I) I) :
    Follows apply env P (r.rotateCredentials cluster)
      (fun answer t w => I t w ∧ answer.1.metadata.name = cluster.metadata.name) I := by
  have hwritten : Follows apply env N
      (updateCluster .clearRotateFlag (ClusterReconciler.afterRotation cluster))
      (fun written t w => I t w ∧ written.metadata.name = cluster.metadata.name) I := fun t w hw =>
    ⟨fun written h => ⟨(hupdate t w hw).1 written h, (name_updateCluster h).trans rfl⟩,
      (hupdate t w hw).2⟩
  refine .bind (Follows.known (idle_loadStoredCredentials .rotation) hP).attempt fun res => ?_
  cases res with
  | error err => exact .pure fun _ _ h => ⟨h, rfl⟩
  | ok creds =>
    simp only
    cases hclient : r.rotateClient creds with
    | error err => exact .pure fun t w h => ⟨hP t w h.1, rfl⟩
    | ok client =>
      refine .bind (hrotate creds client hclient).attempt fun answer => ?_
      cases answer with
      | error err => exact .pure fun _ _ h => ⟨h, rfl⟩
      | ok token =>
        refine .bind (hpersist creds token).attempt fun res => ?_
        cases res with
        | error err => exact .pure fun _ _ h => ⟨h, rfl⟩
        | ok _ =>
          refine .bind hwritten.attempt fun res => ?_
          cases res with
          | error err => exact .pure fun _ _ h => ⟨h, rfl⟩
          | ok written =>
            refine .bind follows_now fun t => ?_
            refine .bind (Q := fun _ t w => I t w ∧ written.metadata.name = cluster.metadata.name)
              ?_ fun _ => .pure fun _ _ h => h
            exact fun t w h => ⟨fun _ _ => ⟨hI.memory _ h.1, h.2⟩, fun _ he => absurd he (by simp)⟩

end books

end VWorkspace.Registration
