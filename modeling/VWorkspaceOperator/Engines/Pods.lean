import VWorkspaceOperator.Engines.Workload

/-!
# Pods and garbage collection

The job controller makes Pods and sets the job as their owner.  What becomes of them when the job
is deleted is decided by the propagation policy of the delete call: they are deleted as well, or
they are released and stay.  A `batch/v1` job that is deleted without a policy releases its Pods.
-/

namespace VWorkspace

open Kit

structure Pod where
  metadata : ObjectMeta
  deriving DecidableEq, Repr

instance : Keyed Pod ObjectKey := ⟨fun p => p.metadata.key⟩

def OwnerReference.isJob (job : Job) (ref : OwnerReference) : Bool :=
  ref.apiVersion = "batch/v1" && ref.kind = "Job" && ref.name = job.metadata.name &&
    ref.uid = job.metadata.uid

/-- The job owns the Pod; owners are in the namespace of what they own. -/
def Pod.dependsOn (pod : Pod) (job : Job) : Bool :=
  pod.metadata.ns = job.metadata.ns && pod.metadata.ownerReferences.any (·.isJob job)

/-- The policy of a delete call of a `batch/v1` job, given the one in its options. -/
def jobPropagation (option : Option DeletionPropagation) : DeletionPropagation :=
  option.getD .orphan

/-- The references of a Pod that do not name a deleted job. -/
def Pod.otherOwners (deleted : List Job) (pod : Pod) : List OwnerReference :=
  pod.metadata.ownerReferences.filter fun ref =>
    !deleted.any fun job => pod.metadata.ns = job.metadata.ns && ref.isJob job

def Pod.release (deleted : List Job) (pod : Pod) : Pod :=
  { pod with metadata := { pod.metadata with ownerReferences := pod.otherOwners deleted } }

/-- The garbage collector deletes the Pod: a deleted job owned it, and nothing else does. -/
def Pod.isGarbage (deleted : List Job) (pod : Pod) : Bool :=
  deleted.any pod.dependsOn && (pod.otherOwners deleted).isEmpty

/-- What the garbage collector leaves of the Pods after jobs were deleted. -/
def collectGarbage (policy : DeletionPropagation) (deleted : List Job) (pods : Store Pod) :
    Store Pod :=
  let live :=
    match policy with
    | .orphan => pods
    | .background | .foreground => pods.filter fun pod => !pod.isGarbage deleted
  ⟨live.items.map (·.release deleted), by
    rw [List.map_map]
    exact live.nodup⟩

section collect

variable (deleted : List Job) {pods : Store Pod} {pod : Pod}

theorem get_collectGarbage_orphan (h : pod ∈ pods.items) :
    (collectGarbage .orphan deleted pods).get pod.metadata.key = some (pod.release deleted) :=
  Store.get_eq_some_iff.mpr ⟨List.mem_map_of_mem h, rfl⟩

end collect

end VWorkspace
