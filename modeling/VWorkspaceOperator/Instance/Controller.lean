import VWorkspaceOperator.Instance.Reconcile
import VWorkspaceOperator.Instance.Storage

/-!
# The path of native SeaweedFS workloads

`reconcileSeaweed` and the end of an instance that runs as a native SeaweedFS workload.  With
them the reconciler is complete.
-/

namespace VWorkspace

open Kit InstanceM

def seaweedConditions (now : ℕ) (snapshot : Option SeaweedSnapshot) (cs : List Condition) :
    List Condition :=
  match snapshot with
  | none =>
      let cs := setCondition now "Reconciling" .true "Reconciling" "Waiting for Seaweed status" cs
      let cs := setCondition now "Degraded" .false "Reconciling" "Seaweed status not yet available" cs
      setCondition now "Ready" .unknown "Reconciling" "Waiting for Seaweed status" cs
  | some s =>
      let cs :=
        if s.reconciling then setCondition now "Reconciling" .true s.reason s.message cs
        else setCondition now "Reconciling" .false "Stable" "No reconciliation in flight" cs
      let cs :=
        if s.degraded then setCondition now "Degraded" .true s.reason s.message cs
        else setCondition now "Degraded" .false "Recovered" "Seaweed cluster is healthy" cs
      if s.ready then
        if s.hasS3 && s.s3Endpoint = "" then
          setCondition now "Ready" .unknown "WaitingForS3Endpoint"
            "Seaweed is ready but S3 endpoint is not yet available" cs
        else
          let cs := setCondition now "Ready" .true "SeaweedReady" s.message cs
          setCondition now "Blocked" .false "Unblocked" "Reconciliation can proceed" cs
      else
        let reason := if s.reason = "" then "Reconciling" else s.reason
        let status := if s.degraded || reason = "SeaweedFailed" then .false else .unknown
        let cs := setCondition now "Ready" status reason s.message cs
        setCondition now "Blocked" .false "Unblocked" "Reconciliation can proceed" cs

def seaweedEndpoints (snapshot : Option SeaweedSnapshot) : List EndpointStatus :=
  match snapshot with
  | none => []
  | some s =>
      if s.s3Endpoint ≠ "" then
        [{ name := "s3", url := s.s3Endpoint, type := "s3"
           notes := "In-cluster SeaweedFS S3 gateway (port 8333)" }]
      else []

def endpointsOf (app : ApplicationInstance) : List Agent.EndpointPayload :=
  match app.spec.release with
  | some release => [⟨"s3", s3Endpoint release.name (releaseNamespace app)⟩]
  | none => []

def InstanceController.endpointsKeyOf (r : InstanceController) (app : ApplicationInstance) :
    String := r.seaweedEndpointsReportKey (endpointsOf app)

def applySeaweedStatusSnapshot (now : ℕ) (snapshot : Option SeaweedSnapshot)
    (st : ApplicationInstanceStatus) : ApplicationInstanceStatus :=
  { st with
    endpoints := seaweedEndpoints snapshot
    conditions := seaweedConditions now snapshot st.conditions }

def ensuringSeaweedStatus (now : ℕ) (st : ApplicationInstanceStatus) : ApplicationInstanceStatus :=
  let cs := setCondition now "Blocked" .false "Unblocked" "Reconciliation can proceed" st.conditions
  { st with
    helmReleaseRef := none
    conditions := setCondition now "Reconciling" .true "SeaweedReconciling" "Ensuring Seaweed CR" cs }

def seaweedFailedStatus (now : ℕ) (err : GoError) (st : ApplicationInstanceStatus) :
    ApplicationInstanceStatus :=
  let cs := setCondition now "Ready" .false "SeaweedFailed" err.msg st.conditions
  let cs := setCondition now "Reconciling" .false "SeaweedFailed" err.msg cs
  let cs := setCondition now "Degraded" .true "SeaweedFailed" err.msg cs
  { st with
    endpoints := []
    conditions := setCondition now "Blocked" .false "Unblocked" "Reconciliation can proceed" cs }

/-- The status after the `Seaweed` was ensured and looked at. -/
def seaweedReconciledStatus (now : ℕ) (app : ManagedInstance) (snapshot : Option SeaweedSnapshot)
    (st : ApplicationInstanceStatus) : ApplicationInstanceStatus :=
  applySeaweedStatusSnapshot now snapshot
    { st with
      observedGeneration := app.generation
      lastReconcileTime := some now
      lastAppliedChart := app.spec.chart }

theorem endpoints_seaweedReconciledStatus {app : ManagedInstance} {env : InstanceEnv}
    {c : InstanceCluster} {snapshot : Option SeaweedSnapshot} {now : ℕ}
    {st : ApplicationInstanceStatus}
    (h : ((SeaweedEngine.syncStatus app.toApplicationInstance).run env c).result = .ok snapshot) :
    agentEndpointsFromStatus (seaweedReconciledStatus now app snapshot st).endpoints = [] ∨
      agentEndpointsFromStatus (seaweedReconciledStatus now app snapshot st).endpoints =
        endpointsOf app.toApplicationInstance := by
  change agentEndpointsFromStatus (seaweedEndpoints snapshot) = [] ∨
    agentEndpointsFromStatus (seaweedEndpoints snapshot) = endpointsOf app.toApplicationInstance
  cases snapshot with
  | none => exact .inl rfl
  | some s =>
    obtain ⟨release, hrelease, hempty | hendpoint⟩ := SeaweedEngine.of_syncStatus h
    · left
      simp [seaweedEndpoints, hempty, agentEndpointsFromStatus]
    · by_cases hs : s.s3Endpoint = ""
      · left
        simp [seaweedEndpoints, hs, agentEndpointsFromStatus]
      · right
        rw [seaweedEndpoints, if_pos hs, endpointsOf, hrelease]
        simp [agentEndpointsFromStatus, hs, ← hendpoint]

/-- The `Seaweed` is not ready, or its endpoint is still missing. -/
def seaweedUnsettled : Option SeaweedSnapshot → Bool
  | none => true
  | some s => !s.ready || s.s3Endpoint = "" && s.hasS3

namespace InstanceController

variable (r : InstanceController)

def reconcileSeaweed (app : ManagedInstance) : InstanceM Result :=
  match r.seaweedEngine, r.engine with
  | none, _ => setBlocked app "MissingDependencies" "seaweed engine is not configured"
  | some _, none => setBlocked app "MissingDependencies" ("helm engine is not configured; required " ++
      "to detect legacy Helm releases during Seaweed migration")
  | some engine, some _ => do
      match ← (FluxEngine.releaseExists false app.toApplicationInstance).attempt with
      | .error err => setBlocked app "HelmMigrationFailed" ("check legacy Helm release: " ++ err.msg)
      | .ok true => setBlocked app "HelmMigrationRequired" ("legacy Helm release detected; remove the " ++
          "HelmRelease manually or recreate the ApplicationInstance before native Seaweed reconciliation")
      | .ok false =>
          let t ← now
          let st := ensuringSeaweedStatus t app.status
          match ← (engine.ensureSeaweed app.toApplicationInstance).attempt with
          | .error err =>
              let app' := { app with status := seaweedFailedStatus t err st }
              (updateStatus .updateEnsureFailed app').mapError
                (·.wrap "update status after ensure failure")
              InstanceM.reportConditions app' app.status.conditions
              pure { requeueAfter := 30 }
          | .ok () =>
              let snapshot ← (SeaweedEngine.syncStatus app.toApplicationInstance).mapError
                (·.wrap "sync Seaweed status")
              let app' := { app with status := seaweedReconciledStatus t app snapshot st }
              (updateStatus .updateReconciled app').mapError (·.wrap "update status")
              InstanceM.reportConditions app' app.status.conditions
              if seaweedUnsettled snapshot then pure { requeueAfter := 30 }
              else r.reconcileSeaweedManagedStorage app'

/-- Look for a legacy release, if there is a Helm engine. -/
def legacyReleaseExists (again : Bool) (app : ManagedInstance) : InstanceM Bool :=
  match r.engine with
  | none => pure false
  | some _ => (FluxEngine.releaseExists again app.toApplicationInstance).mapError
      (·.wrap "check legacy Helm release")

/-- The part of the end of an instance that follows the deletion of its `Seaweed`. -/
def removeSeaweed (app : ManagedInstance) : InstanceM Result := do
  SeaweedEngine.deleteSeaweed app.toApplicationInstance
  match ← r.legacyReleaseExists false app, app.spec.release with
  | true, some release => FluxEngine.deleteRelease app.metadata.ns release
  | _, _ => pure ()
  if ← SeaweedEngine.seaweedExists app.toApplicationInstance then pure { requeueAfter := 15 }
  else if ← r.legacyReleaseExists true app then pure { requeueAfter := 15 }
  else dropFinalizer app

/-- `finalize`, for native SeaweedFS workloads.  Without an engine the status is written, and
reported, a second time, against the same conditions as the first. -/
def finalizeSeaweed (app : ManagedInstance) : InstanceM Result := do
  let t ← now
  let deleting := app.withConditions
    (setCondition t "Deleting" .true "Uninstalling" "Removing Seaweed CR" app.status.conditions)
  (updateStatus .updateDeleting deleting).mapError (·.wrap "update deleting status")
  InstanceM.reportConditions deleting app.status.conditions
  match r.seaweedEngine with
  | none =>
      let cs := setCondition t "Blocked" .true "MissingDependencies"
        "seaweed engine is not configured" deleting.status.conditions
      let blocked := deleting.withConditions (setCondition t "Deleting" .true "Blocked"
        "Cannot uninstall Seaweed CR until seaweed engine is configured" cs)
      (updateStatus .updateDeletingBlocked blocked).mapError
        (·.wrap "update blocked status during finalize")
      InstanceM.reportConditions blocked app.status.conditions
      pure { requeueAfter := 15 }
  | some _ => r.removeSeaweed app

def reconciler : ApplicationInstanceReconciler where
  engine := r.engine
  reconcileSeaweed := r.reconcileSeaweed
  finalizeSeaweed := r.finalizeSeaweed

def reconcile (k : ObjectKey) : InstanceM Result := r.reconciler.reconcile k

/-- The last part of `removeSeaweed`. -/
def leaveIfGone (app : ManagedInstance) : InstanceM Result := do
  if ← SeaweedEngine.seaweedExists app.toApplicationInstance then pure { requeueAfter := 15 }
  else if ← r.legacyReleaseExists true app then pure { requeueAfter := 15 }
  else dropFinalizer app

theorem idle_legacyReleaseExists (again : Bool) (app : ManagedInstance) :
    Prog.Idle (r.legacyReleaseExists again app) := by
  unfold legacyReleaseExists
  split
  · exact .pure _
  · exact .mapError (idle_releaseExists _ _)

section keeps

open Prog

variable {r} {env : InstanceEnv} {P : InstanceCluster → Prop} {app : ManagedInstance}

variable (env P app) in
/-- The writes of the objects of an instance keep `P`. -/
structure ObjectsKept : Prop where
  release : ∀ (e : FluxEngine) spec, app.spec.helm = some spec →
    Keeps env P (e.ensureRelease app.toApplicationInstance spec)
  seaweed : ∀ e : SeaweedEngine, Keeps env P (e.ensureSeaweed app.toApplicationInstance)
  deleteRelease : ∀ release, app.spec.release = some release →
    Keeps env P (FluxEngine.deleteRelease app.metadata.ns release)
  deleteSeaweed : Keeps env P (SeaweedEngine.deleteSeaweed app.toApplicationInstance)

theorem ObjectsKept.of_apart
    (h : ∀ c c', c'.withoutObjects = c.withoutObjects → P c → P c') : ObjectsKept env P app where
  release e spec _ := (e.apart_ensureRelease _ spec).keeps h
  seaweed e := (e.apart_ensureSeaweed _).keeps h
  deleteRelease release _ := (FluxEngine.apart_deleteRelease _ release).keeps h
  deleteSeaweed := (SeaweedEngine.apart_deleteSeaweed _).keeps h

variable (hP : StatusClosedAt app.metadata.key P) (hobjects : ObjectsKept env P app)

include hP hobjects

theorem keeps_finalizeSeaweed (hdrop : Keeps env P (dropFinalizer app)) :
    Keeps env P (r.finalizeSeaweed app) := by
  have hrest : Keeps env P (r.leaveIfGone app) := by
    refine .bind (.of_idle (SeaweedEngine.idle_seaweedExists _)) fun found => ?_
    split
    · exact .of_idle (.pure _)
    · refine .bind (.of_idle (r.idle_legacyReleaseExists _ _)) fun legacy => ?_
      split
      · exact .of_idle (.pure _)
      · exact hdrop
  refine .bind (.of_idle InstanceM.idle_now) fun t => keeps_updateStatus_report hP (by rfl) _ _ ?_
  split
  · exact keeps_updateStatus_report hP (by rfl) _ _ (.of_idle (.pure _))
  · refine .bind hobjects.deleteSeaweed fun _ =>
      .bind (.of_idle (r.idle_legacyReleaseExists _ _)) fun legacy => ?_
    simp only
    split
    · next hrelease => exact .bind (hobjects.deleteRelease _ hrelease) fun _ => hrest
    · exact hrest

variable {M : InstanceCluster → Prop} {c : InstanceCluster} (hc : P c) (hM : ∀ c, P c → M c)
  (hstorage : ∀ c status, P c →
    (agentEndpointsFromStatus status.endpoints = [] ∨
      agentEndpointsFromStatus status.endpoints = endpointsOf app.toApplicationInstance) →
    M ((r.reconcileSeaweedManagedStorage { app with status }).run env c).state)

include hc hM hstorage

theorem state_reconcileSeaweed : M ((r.reconcileSeaweed app).run env c).state := by
  have hblocked : ∀ reason message, M ((setBlocked app reason message).run env c).state :=
    fun reason message => hM _ (keeps_setBlocked hP reason message c hc)
  unfold reconcileSeaweed
  split
  · exact hblocked _ _
  · exact hblocked _ _
  · next engine _ _ _ =>
    have hexists : Keeps env P (FluxEngine.releaseExists false app.toApplicationInstance).attempt :=
      .of_idle (.attempt (idle_releaseExists _ _))
    refine hexists.state_bind hc hM fun res c₁ _ _ hc₁ => ?_
    split
    · exact hM _ (keeps_setBlocked hP _ _ _ hc₁)
    · exact hM _ (keeps_setBlocked hP _ _ _ hc₁)
    · have hnow : Keeps env P InstanceM.now := .of_idle InstanceM.idle_now
      refine hnow.state_bind hc₁ hM fun t c₂ _ _ hc₂ => ?_
      have hensure : Keeps env P (engine.ensureSeaweed app.toApplicationInstance).attempt :=
        .attempt (hobjects.seaweed engine)
      refine hensure.state_bind hc₂ hM fun res c₃ _ _ hc₃ => ?_
      cases res with
      | error err => exact hM _ (keeps_updateStatus_report hP (by rfl) _ _ (.of_idle (.pure _)) _ hc₃)
      | ok u =>
        have hsync : Keeps env P ((SeaweedEngine.syncStatus app.toApplicationInstance).mapError
            (·.wrap "sync Seaweed status")) :=
          .of_idle (.mapError (SeaweedEngine.idle_syncStatus _))
        refine hsync.state_bind hc₃ hM fun snapshot c₄ hsnapshot _ hc₄ => ?_
        have hwrite : ∀ status, Keeps env P
            ((updateStatus .updateReconciled { app with status }).mapError
              (·.wrap "update status")) :=
          fun _ => .mapError (keeps_updateStatus _ _ fun c stored st => hP.status c stored st)
        refine (hwrite _).state_bind hc₄ hM fun _ c₅ _ _ hc₅ => ?_
        refine (keeps_reportConditions hP _ _).state_bind hc₅ hM fun _ c₆ _ _ hc₆ => ?_
        split
        · exact hM _ hc₆
        · refine hstorage c₆ _ hc₆ ?_
          exact endpoints_seaweedReconciledStatus (result_of_mapError hsnapshot)

theorem state_proceed (hdrop : Keeps env P (dropFinalizer app)) :
    M ((r.reconciler.proceed app).run env c).state := by
  unfold ApplicationInstanceReconciler.proceed
  split
  · split
    · exact hM _ (keeps_finalizeSeaweed hP hobjects hdrop c hc)
    · exact hM _ (keeps_finalize hP hdrop (fun release _ => hobjects.deleteRelease release) c hc)
  · split
    · exact hM _ (keeps_setBlocked hP _ _ c hc)
    · split
      · exact hM _ (keeps_reconcilePlaceholder hP c hc)
      · split
        · exact state_reconcileSeaweed hP hobjects hc hM hstorage
        · exact hM _ (keeps_reconcileHelm hP (fun e spec _ => hobjects.release e spec) c hc)

end keeps

end InstanceController

/-- A reconciler with both engines; none of its charts can be read. -/
def plainController : InstanceController where
  engine := some ⟨fun _ => .error ""⟩
  seaweedEngine := some ⟨fun _ => .error ""⟩
  sha256 := fun _ => Vector.replicate 32 0
  rfc3339 := Nat.repr

end VWorkspace
