import VWorkspaceOperator.Controller.Faithful
import VWorkspaceOperator.Instance.Faithful

/-!
# Reports and the status

The reports of operations reproduce their conditions, and so do those of instances: replaying
all condition events of a run gives the conditions that are stored after it.  The instance
reconciler is set up as the program sets it up, with an engine for native SeaweedFS workloads.

## Main results

* `reports_reproduce_conditions`: the reports of both reconcilers, over all runs.
* `leaving_store_reported`: a SeaweedFS workload on its way out.
-/

namespace VWorkspace

open Kit Prog
open Agent (conditionMap replayed)

theorem reports_reproduce_conditions (r : InstanceController)
    (hengine : r.seaweedEngine.isSome) :
    (∀ ro, OperationsFaithful ro) ∧ InstancesFaithful r :=
  ⟨operationsFaithful, r.instancesFaithful hengine⟩

/-- A SeaweedFS workload that was deleted before its first reconcile. -/
def leavingStore : ManagedInstance where
  metadata :=
    { ns := "team-a", name := "store", uid := "u1", finalizers := [applicationInstanceFinalizer]
      deletionTimestamp := some 1 }
  spec :=
    { catalogId := catalogIdSeaweedFS, mode := .managed, release := some ⟨"store", "team-a"⟩ }

/-- The cluster that has nothing but the workload. -/
def leavingCluster : InstanceCluster where
  instances := Store.empty.put leavingStore
  workloads := Workloads.empty

/-- Two attempts at its end: one without the object store, one that cannot drop the finalizer. -/
def leavingRun : List InstanceStep :=
  [.reconcile { now := 10, fault := fun s => if s = .seaweedExists then some "down" else none }
      leavingStore.metadata.key,
    .reconcile { now := 20, fault := fun s => if s = .removeFinalizer then some "down" else none }
      leavingStore.metadata.key]

theorem leaving_store_reported :
    let step := instanceStep plainController.reconciler
    let told := replayed (gathered step (reportsOfStep plainController leavingStore.metadata.key)
      leavingCluster leavingRun) fun _ => none
    let stored := instanceConditions leavingStore.metadata.key
      (exec step leavingCluster leavingRun)
    told "Deleting" = some (.true, "Uninstalling", "Removing Seaweed CR") ∧ stored.isSome ∧
      Faithful told stored := by
  have htold : replayed (gathered (instanceStep plainController.reconciler)
      (reportsOfStep plainController leavingStore.metadata.key) leavingCluster leavingRun)
        (fun _ => none) "Deleting" = some (.true, "Uninstalling", "Removing Seaweed CR") ∧
      (instanceConditions leavingStore.metadata.key
        (exec (instanceStep plainController.reconciler) leavingCluster leavingRun)).isSome := by
    decide +kernel
  refine ⟨htold.1, htold.2, ?_⟩
  exact (reports_reproduce_conditions plainController rfl).2 _ leavingCluster leavingRun
    (by decide +kernel) ⟨trivial, trivial, trivial⟩

end VWorkspace
