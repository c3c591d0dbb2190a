import VWorkspaceOperator.Controller.Reconcile
import VWorkspaceOperator.Instance.Flux

/-!
# The instance reconciler

`ApplicationInstanceReconciler.Reconcile`: the finalizer, the end of an instance that is
being deleted, the check of the spec, and then one of three paths: an instance that is a
placeholder gets a status, an instance that is installed with Helm gets its Flux objects,
and a native SeaweedFS workload is left to its own path, which is a parameter here.
-/

namespace VWorkspace

open Kit InstanceM

def applicationInstanceFinalizer : String := "apps.vworkspace.io/finalizer"

def ApplicationInstanceSpec.isPlaceholder (spec : ApplicationInstanceSpec) : Bool :=
  spec.mode = .placeholder

def isSeaweedWorkload (app : ApplicationInstance) : Bool := app.spec.catalogId = catalogIdSeaweedFS

def nilDereference : GoError where
  msg := "panic: runtime error: invalid memory address or nil pointer dereference [recovered]"

/-- `ApplicationInstanceReconciler`, with what it does for native SeaweedFS workloads. -/
structure ApplicationInstanceReconciler where
  engine : Option FluxEngine
  reconcileSeaweed : ManagedInstance → InstanceM Result
  finalizeSeaweed : ManagedInstance → InstanceM Result

def ManagedInstance.withConditions (app : ManagedInstance) (conditions : List Condition) :
    ManagedInstance := { app with status := { app.status with conditions } }

def applyHelmStatusSnapshot (now : ℕ) (snapshot : Option StatusSnapshot) (cs : List Condition) :
    List Condition :=
  match snapshot with
  | none => setCondition now "Ready" .unknown "Reconciling" "Waiting for HelmRelease status" cs
  | some s =>
      let cs :=
        if s.reconciling then setCondition now "Reconciling" .true s.reason s.message cs
        else setCondition now "Reconciling" .false "Stable" "No reconciliation in flight" cs
      let cs :=
        if s.degraded then setCondition now "Degraded" .true s.reason s.message cs
        else setCondition now "Degraded" .false "Recovered" "Release is healthy" cs
      if s.ready then
        let cs := setCondition now "Ready" .true "HelmReleaseReady" s.message cs
        setCondition now "Blocked" .false "Unblocked" "Reconciliation can proceed" cs
      else
        let reason := if s.reason = "" then "Reconciling" else s.reason
        setCondition now "Ready" .unknown reason s.message cs

def installingStatus (now : ℕ) (app : ManagedInstance) : ApplicationInstanceStatus :=
  { app.status with
    observedGeneration := app.generation
    lastReconcileTime := some now
    conditions := setCondition now "Reconciling" .true "HelmReleaseInstalling"
      "Ensuring HelmRelease" app.status.conditions }

def ensureFailedStatus (now : ℕ) (err : GoError) (st : ApplicationInstanceStatus) :
    ApplicationInstanceStatus :=
  let cs := setCondition now "Ready" .false "HelmReleaseFailed" err.msg st.conditions
  { st with
    conditions := setCondition now "Reconciling" .false "Stable" "Reconciliation failed" cs }

/-- The status after the release was ensured and looked at. -/
def reconciledStatus (now : ℕ) (ns : String) (spec : HelmSpec) (snapshot : Option StatusSnapshot)
    (st : ApplicationInstanceStatus) : ApplicationInstanceStatus :=
  { st with
    helmReleaseRef := some ⟨spec.release.name, ns⟩
    lastAppliedChart := some spec.chart
    conditions := applyHelmStatusSnapshot now snapshot st.conditions }

def placeholderStatus (now : ℕ) (app : ManagedInstance) : ApplicationInstanceStatus :=
  let cs := setCondition now "Reconciling" .false "Stable"
    "Placeholder instance has no reconciliation in flight" app.status.conditions
  let cs := setCondition now "Degraded" .false "Recovered" "Placeholder instance owns no workload" cs
  let cs := setCondition now "Ready" .true "Placeholder"
    "Placeholder instance is ready (no Helm release)" cs
  { observedGeneration := app.generation
    lastReconcileTime := some now
    helmReleaseRef := none
    lastAppliedChart := none
    endpoints := []
    conditions := setCondition now "Blocked" .false "Unblocked" "Reconciliation can proceed" cs }

def setBlocked (app : ManagedInstance) (reason message : String) : InstanceM Result := do
  let t ← now
  let cs := setCondition t "Blocked" .true reason message app.status.conditions
  let app' := app.withConditions (setCondition t "Ready" .false reason message cs)
  (updateStatus .updateBlocked app').mapError (·.wrap "update blocked status")
  InstanceM.reportConditions app' app.status.conditions
  pure {}

def reconcilePlaceholder (app : ManagedInstance) : InstanceM Result := do
  let t ← now
  let app' := { app with status := placeholderStatus t app }
  (updateStatus .updatePlaceholder app').mapError (·.wrap "update placeholder status")
  InstanceM.reportConditions app' app.status.conditions
  pure {}

def reconcileHelm (engine : Option FluxEngine) (app : ManagedInstance) : InstanceM Result :=
  match engine, app.spec.helm with
  | none, _ => setBlocked app "MissingDependencies" "helm engine is not configured"
  | some _, none => Prog.throw nilDereference
  | some engine, some spec => do
      let t ← now
      let st := installingStatus t app
      match ← (engine.ensureRelease app.toApplicationInstance spec).attempt with
      | .error err =>
          let app' := { app with status := ensureFailedStatus t err st }
          (updateStatus .updateEnsureFailed app').mapError
            (·.wrap "update status after ensure failure")
          InstanceM.reportConditions app' app.status.conditions
          Prog.throw err
      | .ok () =>
          let snapshot ← (FluxEngine.syncStatus app.toApplicationInstance spec.release).mapError
            (·.wrap "sync helm status")
          let app' := { app with status := reconciledStatus t app.metadata.ns spec snapshot st }
          (updateStatus .updateReconciled app').mapError (·.wrap "update status")
          InstanceM.reportConditions app' app.status.conditions
          pure (if snapshot.any fun s => !s.ready then { requeueAfter := 30 } else {})

def dropFinalizer (app : ManagedInstance) : InstanceM Result := do
  let finalizers := app.metadata.finalizers.filter fun f => f ≠ applicationInstanceFinalizer
  (updateMetadata .removeFinalizer
    { app with metadata := { app.metadata with finalizers } }).mapError (·.wrap "remove finalizer")
  pure {}

def markDeleting (app : ManagedInstance) (reason message : String) : InstanceM Unit := do
  let t ← now
  let app' := app.withConditions
    (setCondition t "Deleting" .true reason message app.status.conditions)
  (updateStatus .updateDeleting app').mapError (·.wrap "update deleting status")
  InstanceM.reportConditions app' app.status.conditions

/-- `finalize`, for placeholders and instances installed with Helm.  The spec has not been
checked, so there may be no release to delete. -/
def finalize (engine : Option FluxEngine) (app : ManagedInstance) : InstanceM Result := do
  if app.spec.isPlaceholder then
    markDeleting app "Deleting" "Removing placeholder instance (nothing to uninstall)"
    dropFinalizer app
  else
    markDeleting app "Uninstalling" "Removing HelmRelease"
    match engine, app.spec.release with
    | none, _ => dropFinalizer app
    | some _, none => Prog.throw nilDereference
    | some _, some release =>
        FluxEngine.deleteRelease app.metadata.ns release
        dropFinalizer app

def ApplicationInstanceReconciler.proceed (r : ApplicationInstanceReconciler)
    (app : ManagedInstance) : InstanceM Result :=
  if app.metadata.deletionTimestamp.isSome then
    if !app.spec.isPlaceholder && isSeaweedWorkload app.toApplicationInstance then
      r.finalizeSeaweed app
    else finalize r.engine app
  else
    match validateApplicationInstanceSpec app.toApplicationInstance with
    | .error e => setBlocked app "ValidationFailed" e.msg
    | .ok () =>
        if app.spec.isPlaceholder then reconcilePlaceholder app
        else if isSeaweedWorkload app.toApplicationInstance then r.reconcileSeaweed app
        else reconcileHelm r.engine app

def ApplicationInstanceReconciler.reconcile (r : ApplicationInstanceReconciler) (k : ObjectKey) :
    InstanceM Result := do
  match ← getInstance k with
  | none => pure {}
  | some app =>
      if applicationInstanceFinalizer ∉ app.metadata.finalizers then
        let finalizers := app.metadata.finalizers ++ [applicationInstanceFinalizer]
        (updateMetadata .addFinalizer
          { app with metadata := { app.metadata with finalizers } }).mapError
            (·.wrap "add finalizer")
        pure { requeue := true }
      else r.proceed app

/-- What happens to the cluster: reconciles of instances, and changes by others. -/
inductive InstanceStep where
  | reconcile (env : InstanceEnv) (k : ObjectKey)
  /-- Others change the cluster. -/
  | outside (c : InstanceCluster)

def instanceStep (r : ApplicationInstanceReconciler) (c : InstanceCluster) :
    InstanceStep → InstanceCluster
  | .reconcile env k => ((r.reconcile k).run env c).state
  | .outside c' => c'

/-! ### What the parts keep

A reconcile changes the instance and its objects, and reports.  What status updates and
reports keep is therefore kept if the writes of objects and of the finalizer keep it. -/

section keeps

open Prog

variable {env : InstanceEnv} {P : InstanceCluster → Prop} {app : ManagedInstance}
  (hP : StatusClosedAt app.metadata.key P)

include hP

theorem keeps_setBlocked (reason message : String) :
    Keeps env P (setBlocked app reason message) :=
  .bind (.of_idle InstanceM.idle_now) fun _ =>
    keeps_updateStatus_report hP (by rfl) _ _ (.of_idle (.pure _))

theorem keeps_reconcilePlaceholder : Keeps env P (reconcilePlaceholder app) :=
  .bind (.of_idle InstanceM.idle_now) fun _ =>
    keeps_updateStatus_report hP (by rfl) _ _ (.of_idle (.pure _))

theorem keeps_reconcileHelm {engine : Option FluxEngine}
    (h : ∀ e spec, engine = some e → app.spec.helm = some spec →
      Keeps env P (e.ensureRelease app.toApplicationInstance spec)) :
    Keeps env P (reconcileHelm engine app) := by
  unfold reconcileHelm
  split
  · exact keeps_setBlocked hP _ _
  · exact .of_idle (.throw _)
  · next e spec hspec =>
    refine .bind (.of_idle InstanceM.idle_now) fun t =>
      .bind (.attempt (h e spec rfl hspec)) fun res => ?_
    cases res with
    | error err => exact keeps_updateStatus_report hP (by rfl) _ _ (.of_idle (.throw _))
    | ok u =>
      refine .bind (.of_idle (.mapError (FluxEngine.idle_syncStatus _ _))) fun snapshot => ?_
      exact keeps_updateStatus_report hP (by rfl) _ _ (.of_idle (.pure _))

theorem keeps_markDeleting (reason message : String) :
    Keeps env P (markDeleting app reason message) :=
  .bind (.of_idle InstanceM.idle_now) fun _ =>
    .bind (.mapError (keeps_updateStatus _ _ fun c stored st => hP.status c stored st)) fun _ =>
      keeps_reportConditions hP _ _

theorem keeps_finalize {engine : Option FluxEngine}
    (hdrop : Keeps env P (dropFinalizer app))
    (h : ∀ release, app.spec.isPlaceholder = false → app.spec.release = some release →
      Keeps env P (FluxEngine.deleteRelease app.metadata.ns release)) :
    Keeps env P (finalize engine app) := by
  unfold finalize
  split
  · exact .bind (keeps_markDeleting hP _ _) fun _ => hdrop
  · next hmode =>
    refine .bind (keeps_markDeleting hP _ _) fun _ => ?_
    split
    · exact hdrop
    · exact .of_idle (.throw _)
    · next release hrelease =>
      exact .bind (h release (by simpa using hmode) hrelease) fun _ => hdrop

end keeps

section keeps

open Prog

variable {env : InstanceEnv} {P : InstanceCluster → Prop}

theorem keeps_dropFinalizer (hP : ∀ c instances, P c → P { c with instances })
    (app : ManagedInstance) : Keeps env P (dropFinalizer app) :=
  .bind (.mapError (keeps_updateMetadata _ _ (fun c _ _ => hP c _) fun c => hP c _)) fun _ =>
    .of_idle (.pure _)

theorem keeps_reconcile {r : ApplicationInstanceReconciler} {k : ObjectKey} {c : InstanceCluster}
    (hc : P c)
    (hfinalizer : ∀ app metadata, c.instances.get k = some app →
      metadata = { app.metadata with finalizers := metadata.finalizers } →
      P { c with instances := c.instances.put { app with metadata } })
    (h : ∀ app, c.instances.get k = some app →
      applicationInstanceFinalizer ∈ app.metadata.finalizers → P ((r.proceed app).run env c).state) :
    P ((r.reconcile k).run env c).state := by
  refine Idle.state_bind (InstanceM.idle_read _ _) hc fun found hfound => ?_
  have hget := eq_of_read hfound
  cases found with
  | none => exact hc
  | some app =>
    simp only
    split
    · obtain rfl : app.metadata.key = k := Store.key_of_get hget.symm
      rw [state_bind_of_idle fun _ => .pure _]
      have hstored : c.instances.get app.metadata.key = some app := hget.symm
      refine state_updateMetadata hstored hc ?_ fun hnone => ?_
      · rw [updated_of_spec _ rfl]
        exact hfinalizer app _ hstored rfl
      · simp at hnone
    · next hfinalizer => exact h app hget.symm (not_not.mp hfinalizer)

end keeps

end VWorkspace
