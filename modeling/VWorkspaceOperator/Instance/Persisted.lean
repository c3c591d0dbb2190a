import VWorkspaceOperator.Instance.Annotations
import VWorkspaceOperator.Instance.Signals

/-!
# The statuses that are persisted

A reconcile of an instance that is not being deleted takes one of four paths: it is blocked,
or it goes on as a placeholder, with Helm, or as a native SeaweedFS workload.  On each of them
it writes the status of the instance at most once.  What it writes is a function of what it
read: the instance, and the downstream object after it was ensured.
-/

namespace VWorkspace

open Kit Prog InstanceM

/-- The ways a reconcile of an instance that is not being deleted can take. -/
inductive ReconcilePath where
  /-- `setBlocked`. -/
  | blocked
  | placeholder
  | helm
  | seaweed
  deriving DecidableEq, Repr

/-- The path a reconcile takes.  That of a native workload depends on the look for a legacy
release. -/
def InstanceController.path (r : InstanceController) (env : InstanceEnv) (c : InstanceCluster)
    (app : ManagedInstance) : ReconcilePath :=
  match validateApplicationInstanceSpec app.toApplicationInstance with
  | .error _ => .blocked
  | .ok () =>
      if app.spec.isPlaceholder then .placeholder
      else if isSeaweedWorkload app.toApplicationInstance then
        match r.seaweedEngine, r.engine with
        | some _, some _ =>
            match ((FluxEngine.releaseExists false app.toApplicationInstance).run env c).result with
            | .ok false => .seaweed
            | _ => .blocked
        | _, _ => .blocked
      else if r.engine.isSome then .helm
      else .blocked

def blockedInstanceStatus (now : ℕ) (reason message : String) (st : ApplicationInstanceStatus) :
    ApplicationInstanceStatus :=
  { st with
    conditions := setCondition now "Ready" .false reason message
      (setCondition now "Blocked" .true reason message st.conditions) }

/-- The cluster after the release of an instance was ensured, or could not be. -/
def FluxEngine.ensured (e : FluxEngine) (app : ManagedInstance) (spec : HelmSpec)
    (env : InstanceEnv) (c : InstanceCluster) : InstanceCluster :=
  ((e.ensureRelease app.toApplicationInstance spec).run env c).state

def SeaweedEngine.ensured (e : SeaweedEngine) (app : ManagedInstance) (env : InstanceEnv)
    (c : InstanceCluster) : InstanceCluster :=
  ((e.ensureSeaweed app.toApplicationInstance).run env c).state

section path

variable {r : InstanceController} {env : InstanceEnv} {c : InstanceCluster} {app : ManagedInstance}

def ManagedInstance.Valid (app : ManagedInstance) : Prop :=
  validateApplicationInstanceSpec app.toApplicationInstance = .ok ()

theorem path_eq_placeholder_iff :
    r.path env c app = .placeholder ↔ app.Valid ∧ app.spec.isPlaceholder = true := by
  unfold InstanceController.path ManagedInstance.Valid
  split
  · next hvalid => simp [hvalid]
  · next hvalid =>
    rw [hvalid]
    split_ifs with hmode hseaweed hengine
    · simp [hmode]
    · split
      · split <;> simp [hmode]
      · simp [hmode]
    · simp [hmode]
    · simp [hmode]

theorem path_eq_helm_iff : r.path env c app = .helm ↔ app.Valid ∧ app.spec.isPlaceholder = false ∧
    isSeaweedWorkload app.toApplicationInstance = false ∧ r.engine.isSome = true := by
  unfold InstanceController.path ManagedInstance.Valid
  split
  · next hvalid => simp [hvalid]
  · next hvalid =>
    rw [hvalid]
    split_ifs with hmode hseaweed hengine
    · simp [hmode]
    · split
      · split <;> simp [hseaweed]
      · simp [hseaweed]
    · simp [hmode, hseaweed, hengine]
    · simp [hengine]

theorem path_eq_seaweed_iff : r.path env c app = .seaweed ↔ app.Valid ∧
    app.spec.isPlaceholder = false ∧ isSeaweedWorkload app.toApplicationInstance = true ∧
      r.seaweedEngine.isSome = true ∧ r.engine.isSome = true ∧
      ((FluxEngine.releaseExists false app.toApplicationInstance).run env c).result =
        .ok false := by
  unfold InstanceController.path ManagedInstance.Valid
  split
  · next hvalid => simp [hvalid]
  · next hvalid =>
    rw [hvalid]
    split_ifs with hmode hseaweed hengine
    · simp [hmode]
    · cases r.seaweedEngine with
      | none => simp
      | some se =>
        cases r.engine with
        | none => simp
        | some e =>
          dsimp only
          split
          · next hnone => simp [hmode, hseaweed, hnone]
          · next hother =>
            simp only [reduceCtorEq, false_iff]
            exact fun h => hother h.2.2.2.2.2
    · simp [hseaweed]
    · simp [hseaweed]

theorem exists_helm_of_valid (hvalid : app.Valid) (hmode : app.spec.isPlaceholder = false)
    (hseaweed : isSeaweedWorkload app.toApplicationInstance = false) :
    ∃ spec, app.spec.helm = some spec := by
  obtain ⟨hmanaged, ⟨hcatalog, -⟩ | ⟨-, chart, hchart⟩⟩ :=
    of_validateApplicationInstanceSpec hvalid (of_decide_eq_false hmode)
  · exact absurd hcatalog (of_decide_eq_false hseaweed)
  · obtain ⟨release, values, hrelease, hvalues, -, -⟩ := of_validateReleaseAndValues hmanaged
    exact ⟨⟨chart, release, values⟩, by
      rw [ApplicationInstanceSpec.helm, hchart, hrelease, hvalues]⟩

end path

inductive Persists (r : InstanceController) (env : InstanceEnv) (c : InstanceCluster)
    (app : ManagedInstance) : ApplicationInstanceStatus → Prop
  | blocked (reason message : String) (hpath : r.path env c app = .blocked) :
      Persists r env c app (blockedInstanceStatus env.now reason message app.status)
  | placeholder (hpath : r.path env c app = .placeholder) :
      Persists r env c app (placeholderStatus env.now app)
  | helmFailed {engine : FluxEngine} {spec : HelmSpec} {err : GoError}
      (hpath : r.path env c app = .helm) (hengine : r.engine = some engine)
      (hspec : app.spec.helm = some spec)
      (hensure : ((engine.ensureRelease app.toApplicationInstance spec).run env c).result =
        .error err) :
      Persists r env c app (ensureFailedStatus env.now err (installingStatus env.now app))
  | helm {engine : FluxEngine} {spec : HelmSpec} {snapshot : Option StatusSnapshot}
      (hpath : r.path env c app = .helm) (hengine : r.engine = some engine)
      (hspec : app.spec.helm = some spec)
      (hsync : ((FluxEngine.syncStatus app.toApplicationInstance spec.release).run env
        (engine.ensured app spec env c)).result = .ok snapshot) :
      Persists r env c app
        (reconciledStatus env.now app.metadata.ns spec snapshot (installingStatus env.now app))
  | seaweedFailed {engine : SeaweedEngine} {err : GoError} (hpath : r.path env c app = .seaweed)
      (hengine : r.seaweedEngine = some engine)
      (hensure : ((engine.ensureSeaweed app.toApplicationInstance).run env c).result = .error err) :
      Persists r env c app
        (seaweedFailedStatus env.now err (ensuringSeaweedStatus env.now app.status))
  | seaweed {engine : SeaweedEngine} {snapshot : Option SeaweedSnapshot}
      (hpath : r.path env c app = .seaweed) (hengine : r.seaweedEngine = some engine)
      (hsync : ((SeaweedEngine.syncStatus app.toApplicationInstance).run env
        (engine.ensured app env c)).result = .ok snapshot) :
      Persists r env c app
        (seaweedReconciledStatus env.now app snapshot (ensuringSeaweedStatus env.now app.status))

def Written (S : ApplicationInstanceStatus → Prop) : InstanceEvent → Prop
  | .statusWritten app => S app.status
  | _ => True

theorem Written.mono {S S' : ApplicationInstanceStatus → Prop} {e : InstanceEvent}
    (h : Written S e) (hS : ∀ st, S st → S' st) : Written S' e := by
  cases e with
  | statusWritten app => exact hS _ h
  | _ => trivial

section triples

variable {α : Type} {env : InstanceEnv} {P : InstanceCluster → Prop} {x : InstanceM α}
  {S : ApplicationInstanceStatus → Prop} {Q : α → InstanceCluster → Prop}

theorem triple_writeStatus_report {s : InstanceSite} {app : ManagedInstance} {f : GoError → GoError}
    {prev : List Condition} (hS : S app.status) (hx : Triple env (fun _ => True) x (Written S) Q) :
    Triple env P (do
      (updateStatus s app).mapError f
      InstanceM.reportConditions app prev
      x) (Written S) Q := by
  refine .bind (Q := fun _ _ => True) (.mapError ?_) fun _ =>
    .bind (Q := fun _ _ => True) (.bind (Q := fun _ _ => True) ?_ fun _ => ?_) fun _ => hx
  · refine .bind (InstanceM.idle_call s).triple fun _ => .bind Idle.get.triple fun c => ?_
    split
    · exact .throw
    · exact .write hS fun _ _ => trivial
  · exact InstanceM.idle_now.triple.conseq (fun _ _ => trivial) (fun _ h => h) fun _ _ _ => trivial
  · exact .write trivial fun _ _ => trivial

theorem InstanceM.Apart.written (hx : Apart x) (c : InstanceCluster) :
    ∀ e ∈ (x.run env c).trace, Written S e := by
  intro e he
  have hobject := (hx env c).2 e he
  cases e with
  | statusWritten app => exact absurd hobject (by simp [InstanceEvent.ofObject])
  | _ => trivial

theorem Annotates.written (hx : Annotates x) : Triple env P x (Written S) fun _ _ => True := by
  refine fun c _ => ⟨fun e he => ?_, fun _ _ => trivial⟩
  obtain ⟨app, rfl⟩ := (hx env c).2 e he
  trivial

theorem InstanceM.Apart.triple_attempt (hx : Apart x) (c : InstanceCluster) :
    Triple env (· = c) x.attempt (Written S) fun res c' =>
      res = (x.run env c).result ∧ c' = (x.run env c).state := by
  refine .attempt fun c' hc' => ?_
  subst hc'
  exact ⟨hx.written c', rfl, rfl⟩

theorem triple_mapError_of_idle {f : GoError → GoError} {E : InstanceEvent → Prop} (hx : Idle x)
    (c : InstanceCluster) :
    Triple env (· = c) (x.mapError f) E fun a c' => (x.run env c).result = .ok a ∧ c' = c := by
  refine .mapError fun c' hc' => ?_
  subst hc'
  rw [(hx env c').1, (hx env c').2]
  exact ⟨by simp, fun a ha => ⟨ha, rfl⟩⟩

theorem triple_clock_bind {E : InstanceEvent → Prop} {f : ℕ → InstanceM α}
    (hf : Triple env P (f env.now) E Q) : Triple env P (InstanceM.now >>= f) E Q := by
  have hrun : ∀ c, (InstanceM.now >>= f).run env c = (f env.now).run env c := fun c => rfl
  intro c hc
  rw [hrun]
  exact hf c hc

end triples

section persists

variable {r : InstanceController} {env : InstanceEnv} {c : InstanceCluster} {app : ManagedInstance}

theorem persists_setBlocked {P : InstanceCluster → Prop} {reason message : String}
    (hpath : r.path env c app = .blocked) :
    Triple env P (setBlocked app reason message) (Written (Persists r env c app)) fun _ _ => True :=
  triple_clock_bind (triple_writeStatus_report
    (show Persists r env c app (blockedInstanceStatus env.now reason message app.status) from
      .blocked reason message hpath) (.pure fun _ _ => trivial))

theorem persists_reconcilePlaceholder {P : InstanceCluster → Prop}
    (hpath : r.path env c app = .placeholder) :
    Triple env P (reconcilePlaceholder app) (Written (Persists r env c app)) fun _ _ => True :=
  triple_clock_bind (triple_writeStatus_report
    (show Persists r env c app (placeholderStatus env.now app) from .placeholder hpath)
      (.pure fun _ _ => trivial))

theorem persists_reconcileHelm (hvalid : app.Valid) (hmode : app.spec.isPlaceholder = false)
    (hseaweed : isSeaweedWorkload app.toApplicationInstance = false) :
    Triple env (· = c) (reconcileHelm r.engine app) (Written (Persists r env c app))
      fun _ _ => True := by
  unfold reconcileHelm
  split
  · next hengine =>
    refine persists_setBlocked ?_
    rw [InstanceController.path, show validateApplicationInstanceSpec _ = _ from hvalid]
    simp [hmode, hseaweed, hengine]
  · exact .throw
  · next engine spec hengine hspec =>
    have hpath : r.path env c app = .helm :=
      path_eq_helm_iff.mpr ⟨hvalid, hmode, hseaweed, by simp [hengine]⟩
    refine triple_clock_bind
      (.bind ((engine.apart_ensureRelease _ spec).triple_attempt c) fun res => ?_)
    refine .of_fact fun hres => ?_
    cases res with
    | error err =>
      have hpersists : Persists r env c app
          (ensureFailedStatus env.now err (installingStatus env.now app)) :=
        .helmFailed hpath hengine hspec hres.symm
      exact triple_writeStatus_report hpersists .throw
    | ok u =>
      refine .bind (triple_mapError_of_idle (FluxEngine.idle_syncStatus _ _)
        (engine.ensured app spec env c)) fun snapshot => .of_fact fun hsync => ?_
      exact triple_writeStatus_report
        (show Persists r env c app (reconciledStatus env.now app.metadata.ns spec snapshot
          (installingStatus env.now app)) from .helm hpath hengine hspec hsync)
        (.pure fun _ _ => trivial)

theorem persists_reconcileSeaweed (hvalid : app.Valid) (hmode : app.spec.isPlaceholder = false)
    (hseaweed : isSeaweedWorkload app.toApplicationInstance = true) :
    Triple env (· = c) (r.reconcileSeaweed app) (Written (Persists r env c app))
      fun _ _ => True := by
  have hblocked : ∀ reason message, r.path env c app ≠ .seaweed → Triple env (· = c)
      (setBlocked app reason message) (Written (Persists r env c app)) fun _ _ => True := by
    intro reason message hne
    refine persists_setBlocked ?_
    cases hpath : r.path env c app with
    | blocked => rfl
    | placeholder => rw [path_eq_placeholder_iff, hmode] at hpath; exact absurd hpath.2 (by simp)
    | helm => rw [path_eq_helm_iff, hseaweed] at hpath; exact absurd hpath.2.2.1 (by simp)
    | seaweed => exact absurd hpath hne
  unfold InstanceController.reconcileSeaweed
  split
  · next hengine =>
    refine hblocked _ _ fun hpath => ?_
    rw [path_eq_seaweed_iff, hengine] at hpath
    exact absurd hpath.2.2.2.1 (by simp)
  · next hengine =>
    refine hblocked _ _ fun hpath => ?_
    rw [path_eq_seaweed_iff, hengine] at hpath
    exact absurd hpath.2.2.2.2.1 (by simp)
  · next engine _ hengine hflux =>
    refine .bind ((Apart.of_idle (idle_releaseExists _ _)).triple_attempt c) fun res => ?_
    rw [(idle_releaseExists _ _ env c).1]
    refine .of_fact fun hres => ?_
    split
    · refine hblocked _ _ fun hpath => ?_
      exact absurd (hres.trans (path_eq_seaweed_iff.mp hpath).2.2.2.2.2) (by simp)
    · refine hblocked _ _ fun hpath => ?_
      exact absurd (hres.trans (path_eq_seaweed_iff.mp hpath).2.2.2.2.2) (by simp)
    · have hpath : r.path env c app = .seaweed :=
        path_eq_seaweed_iff.mpr
          ⟨hvalid, hmode, hseaweed, by simp [hengine], by simp [hflux], hres.symm⟩
      refine triple_clock_bind
        (.bind ((engine.apart_ensureSeaweed _).triple_attempt c) fun res => ?_)
      refine .of_fact fun hres => ?_
      cases res with
      | error err =>
        exact triple_writeStatus_report
          (show Persists r env c app (seaweedFailedStatus env.now err
            (ensuringSeaweedStatus env.now app.status)) from
            .seaweedFailed hpath hengine hres.symm) (.pure fun _ _ => trivial)
      | ok u =>
        refine .bind (triple_mapError_of_idle (SeaweedEngine.idle_syncStatus _)
          (engine.ensured app env c)) fun snapshot => .of_fact fun hsync => ?_
        refine triple_writeStatus_report
          (show Persists r env c app (seaweedReconciledStatus env.now app snapshot
            (ensuringSeaweedStatus env.now app.status)) from .seaweed hpath hengine hsync) ?_
        split
        · exact .pure fun _ _ => trivial
        · exact (r.annotates_reconcileSeaweedManagedStorage _).written

theorem persists_proceed (hdeletion : app.metadata.deletionTimestamp = none) :
    Triple env (· = c) (r.reconciler.proceed app) (Written (Persists r env c app))
      fun _ _ => True := by
  unfold ApplicationInstanceReconciler.proceed
  rw [hdeletion, Option.isSome_none, if_neg (by simp)]
  split
  · next e hinvalid => exact persists_setBlocked (by simp [InstanceController.path, hinvalid])
  · next hvalid =>
    split_ifs with hmode hseaweed
    · exact persists_reconcilePlaceholder (path_eq_placeholder_iff.mpr ⟨hvalid, hmode⟩)
    · exact persists_reconcileSeaweed hvalid (by simpa using hmode) hseaweed
    · exact persists_reconcileHelm hvalid (by simpa using hmode) (by simpa using hseaweed)

theorem persists_of_reconcile {k : ObjectKey} {written : ManagedInstance}
    (happ : c.instances.get k = some app) (hdeletion : app.metadata.deletionTimestamp = none)
    (h : .statusWritten written ∈ ((r.reconcile k).run env c).trace) :
    applicationInstanceFinalizer ∈ app.metadata.finalizers ∧
      Persists r env c app written.status := by
  have hread : Triple env (· = c) (r.reconcile k) (Written fun st =>
      applicationInstanceFinalizer ∈ app.metadata.finalizers ∧ Persists r env c app st)
      fun _ _ => True := by
    refine .bind (InstanceM.triple_read _ _) fun found => ?_
    cases found with
    | none => exact .pure fun _ _ => trivial
    | some app' =>
      intro c' hc'
      obtain ⟨rfl, hfound⟩ := hc'
      obtain rfl : app' = app := Option.some.inj (hfound.trans happ)
      dsimp only
      split
      · -- the finalizer is not there yet, and nothing else is written
        refine ⟨fun e he => ?_, fun _ _ => trivial⟩
        rcases mem_trace_bind.mp he with he | ⟨_, _, he⟩
        · rw [run_mapError] at he
          rcases run_updateMetadata env .addFinalizer _ c' with
            ⟨err, hrun⟩ | ⟨stored, -, hrun | ⟨-, hrun⟩⟩
          · rw [hrun] at he; exact absurd he (by simp)
          · rw [hrun] at he
            obtain rfl := List.mem_singleton.mp he
            trivial
          · rw [hrun] at he
            obtain rfl := List.mem_singleton.mp he
            trivial
        · exact absurd he (by simp)
      · next hfinalizer =>
        have hproceed : Triple env (· = c') (r.reconciler.proceed app') (Written fun st =>
            applicationInstanceFinalizer ∈ app'.metadata.finalizers ∧ Persists r env c' app' st)
            fun _ _ => True :=
          (persists_proceed hdeletion).events (fun e he => he.mono fun st hst => ⟨not_not.mp hfinalizer, hst⟩)
        exact hproceed c' rfl
  exact (hread c rfl).1 _ h

end persists

end VWorkspace
