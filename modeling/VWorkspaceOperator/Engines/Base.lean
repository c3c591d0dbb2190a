import VWorkspaceOperator.Cluster

/-!
# What the engines share

The engine interface and its registry, and the helpers every engine is built
from: the label that marks a workload as an operation's own, the name and the
place of a workload, and the label sweeps that find or delete workloads whose
place is no longer known.
-/

namespace VWorkspace

open Kit EngineM

/-- What an engine reports about the work of an operation. -/
structure EngineStatus where
  phase : OperationPhase
  reason : String
  message : String := ""
  outputs : List (String × String) := []
  done : Bool := false
  failed : Bool := false
  deriving DecidableEq, Repr

/-- An engine: it starts, observes and cancels the work of an operation. -/
structure Engine where
  name : OperationEngine
  materialize : Operation → ApplicationInstance → EngineM Unit
  status : Operation → EngineM EngineStatus
  cancel : Operation → EngineM Unit

structure Registry where
  engines : List Engine

/-- `Registry.Get`; an engine registered later under a name replaces the
earlier one. -/
def Registry.get (r : Registry) (name : OperationEngine) : Option Engine :=
  r.engines.reverse.find? fun e => e.name = name

theorem Registry.mem_of_get {r : Registry} {name : OperationEngine} {e : Engine}
    (h : r.get name = some e) : e ∈ r.engines :=
  List.mem_reverse.mp (List.mem_of_find?_eq_some h)

theorem Registry.name_of_get {r : Registry} {name : OperationEngine} {e : Engine}
    (h : r.get name = some e) : e.name = name := by
  simpa using List.find?_some h

/-- The label that carries the UID of the operation a workload belongs to. -/
def operationLabelKey : String := "ops.vworkspace.io/operation"

def managedByKey : String := "app.vworkspace.io/managed-by"

def applyOperationLabels (labels : List (String × String)) (op : Operation) :
    List (String × String) :=
  setField operationLabelKey op.metadata.uid (setField managedByKey "vworkspace-operator" labels)

@[simp] theorem lookup_applyOperationLabels (labels : List (String × String)) (op : Operation) :
    (applyOperationLabels labels op).lookup operationLabelKey = some op.metadata.uid :=
  lookup_setField_self _ _ _

/-- `verifyOperationOwnership`: the workload's label is the operation's UID. -/
def verifyOperationOwnership (labels : List (String × String)) (op : Operation) :
    Except GoError Unit :=
  if labels = [] ∨ (labels.lookup operationLabelKey).getD "" ≠ op.metadata.uid then
    .error (Sentinel.workloadOwnership.error
      "existing engine workload belongs to a different operation")
  else .ok ()

/-- The namespace workloads are created in: the one of the target's release,
or the target's own. -/
def targetNamespace (target : ApplicationInstance) : String :=
  match target.spec.release with
  | some release => if release.ns ≠ "" then release.ns else target.metadata.ns
  | none => target.metadata.ns

def maxK8sNameLen : ℕ := 63

/-- `materializedName`: namespace and name of the operation, or its UID where
these are too long. -/
def materializedName (op : Operation) : String :=
  let base := op.metadata.ns ++ "--" ++ op.metadata.name
  if base.utf8ByteSize ≤ maxK8sNameLen then base else op.metadata.uid

def supportsEngineRef : OperationEngine → Bool
  | .job | .workflow | .helmHookJob => true
  | _ => false

def engineResourceKind : OperationEngine → String
  | .job | .helmHookJob => "Job"
  | .workflow => "Workflow"
  | engine => engine.text

def newEngineResourceRef (op : Operation) (target : ApplicationInstance) (kind : String) :
    EngineResourceRef where
  kind := kind
  name := materializedName op
  ns := targetNamespace target

/-- `resolveEngineLocationDetailed`: the place recorded in the status, or the
one the target gives; none when the target is gone too. -/
def resolveEngineLocation (op : Operation) : EngineM (Option ObjectKey) :=
  let recorded := op.status.engineRef.filter fun ref => ref.ns ≠ "" && ref.name ≠ ""
  match recorded with
  | some ref => pure (some ⟨ref.ns, ref.name⟩)
  | none => do
      let target ← (getInstance .resolveTarget ⟨op.metadata.ns, op.spec.targetRef.name⟩).mapError
        (·.wrap "get target ApplicationInstance")
      pure (target.map fun t => ⟨targetNamespace t, materializedName op⟩)

/-- The group of an API version, as `schema.ParseGroupVersion` splits it. -/
def apiGroup (apiVersion : String) : Option String :=
  match splitOn '/' apiVersion with
  | [_] => some ""
  | [group, _] => some group
  | _ => none

/-- Two owner references name the same object; the version does not matter. -/
def referSameObject (a b : OwnerReference) : Bool :=
  match apiGroup a.apiVersion, apiGroup b.apiVersion with
  | some g, some g' => g = g' && a.kind = b.kind && a.name = b.name
  | _, _ => false

/-- Add an owner reference, or replace the one to the same object. -/
def upsertOwnerReference (ref : OwnerReference) : List OwnerReference → List OwnerReference
  | [] => [ref]
  | r :: rs =>
      if referSameObject r ref then ref :: rs else r :: upsertOwnerReference ref rs

/-- `controllerutil.SetControllerReference`: an object has one controller at most. -/
def setControllerReferenceTo (ref : OwnerReference) (m : ObjectMeta) : Except GoError ObjectMeta :=
  let owned := { m with ownerReferences := upsertOwnerReference ref m.ownerReferences }
  match m.ownerReferences.find? fun r => r.controller with
  | none => .ok owned
  | some existing =>
      if referSameObject existing ref then .ok owned
      else .error { msg := "Object " ++ m.ns ++ "/" ++ m.name ++ " is already owned by another " ++
        existing.kind ++ " controller " ++ existing.name }

theorem of_setControllerReferenceTo {ref : OwnerReference} {m m' : ObjectMeta}
    (h : setControllerReferenceTo ref m = .ok m') :
    m' = { m with ownerReferences := upsertOwnerReference ref m.ownerReferences } := by
  unfold setControllerReferenceTo at h
  simp only at h
  split at h
  · exact (Except.ok.inj h).symm
  · split at h
    · exact (Except.ok.inj h).symm
    · exact absurd h (by simp)

theorem find?_upsertOwnerReference {ref : OwnerReference} (hcontroller : ref.controller = true)
    {refs : List OwnerReference} (h : ∀ existing, (refs.find? fun r => r.controller) = some existing →
      referSameObject existing ref = true) :
    (upsertOwnerReference ref refs).find? (fun r => r.controller) = some ref := by
  induction refs with
  | nil => simp [upsertOwnerReference, hcontroller]
  | cons r refs ih =>
    rw [upsertOwnerReference]
    split
    · simp [hcontroller]
    · next hother =>
      cases hr : r.controller with
      | true => exact absurd (h r (by simp [hr])) hother
      | false =>
        rw [List.find?_cons_of_neg (by simp [hr])]
        exact ih fun existing hexisting => h existing (by simp [hr, hexisting])

theorem find?_setControllerReferenceTo {ref : OwnerReference} (hcontroller : ref.controller = true)
    {m m' : ObjectMeta} (h : setControllerReferenceTo ref m = .ok m') :
    m'.ownerReferences.find? (fun r => r.controller) = some ref := by
  rw [of_setControllerReferenceTo h]
  refine find?_upsertOwnerReference hcontroller fun existing hexisting => ?_
  by_contra hother
  rw [setControllerReferenceTo, hexisting] at h
  simp only [hother] at h
  exact absurd h (by simp)

theorem setControllerReferenceTo_again {ref : OwnerReference} (hcontroller : ref.controller = true)
    (hself : referSameObject ref ref = true) {m m' : ObjectMeta}
    (h : setControllerReferenceTo ref m = .ok m') :
    ∃ m'', setControllerReferenceTo ref m' = .ok m'' := by
  refine ⟨{ m' with ownerReferences := upsertOwnerReference ref m'.ownerReferences }, ?_⟩
  rw [setControllerReferenceTo, find?_setControllerReferenceTo hcontroller h]
  simp only [hself, if_true]

/-- `controllerutil.SetOwnerReference` with an operation as the owner. -/
def setOwnerReference (op : Operation) (m : ObjectMeta) : ObjectMeta :=
  let ref : OwnerReference :=
    { apiVersion := opsGroupVersion, kind := "Operation", name := op.metadata.name
      uid := op.metadata.uid }
  { m with ownerReferences := upsertOwnerReference ref m.ownerReferences }

/-- `setOwnerReferenceIfSameNamespace`: owner references do not cross
namespaces. -/
def setOwnerReferenceIfSameNamespace (op : Operation) (ns : String) (m : ObjectMeta) : ObjectMeta :=
  if ns ≠ op.metadata.ns then m else setOwnerReference op m

section setOwnerReferenceIfSameNamespace

variable (op : Operation) (ns : String) (m : ObjectMeta)

@[simp] theorem ns_setOwnerReferenceIfSameNamespace :
    (setOwnerReferenceIfSameNamespace op ns m).ns = m.ns := by
  unfold setOwnerReferenceIfSameNamespace
  split <;> rfl

@[simp] theorem name_setOwnerReferenceIfSameNamespace :
    (setOwnerReferenceIfSameNamespace op ns m).name = m.name := by
  unfold setOwnerReferenceIfSameNamespace
  split <;> rfl

@[simp] theorem labels_setOwnerReferenceIfSameNamespace :
    (setOwnerReferenceIfSameNamespace op ns m).labels = m.labels := by
  unfold setOwnerReferenceIfSameNamespace
  split <;> rfl

end setOwnerReferenceIfSameNamespace

/-- The one place among the labelled workloads of an operation. -/
def singleLocation (what : String) (op : Operation) : List ObjectKey → Except GoError ObjectKey
  | [] => .error (Sentinel.workloadMissing.error
      ("no " ++ what ++ " for operation " ++ op.metadata.uid))
  | [k] => .ok k
  | _ => .error (Sentinel.workloadAmbiguous.error
      ("multiple " ++ what ++ "s labeled for operation " ++ op.metadata.uid))

def findJobLocationByOperationLabel (op : Operation) : EngineM ObjectKey := do
  let jobs ← (listJobs .statusList operationLabelKey op.metadata.uid).mapError
    (·.wrap ("list jobs for operation " ++ op.metadata.uid))
  Prog.ofExcept (singleLocation "job" op (jobs.map fun j => j.metadata.key))

def findWorkflowLocationByOperationLabel (op : Operation) : EngineM ObjectKey := do
  let wfs ← (listObjects .statusList .workflow operationLabelKey op.metadata.uid).mapError
    (·.wrap ("list workflows for operation " ++ op.metadata.uid))
  Prog.ofExcept (singleLocation "workflow" op (wfs.map fun o => o.metadata.key))

def resolveEngineLocationForStatus (op : Operation) (fallback : Operation → EngineM ObjectKey) :
    EngineM ObjectKey := do
  match ← resolveEngineLocation op with
  | some k => pure k
  | none => fallback op

/-- Delete jobs one after the other; `i` counts the calls. -/
def deleteJobs : ℕ → List ObjectKey → EngineM Unit
  | _, [] => pure ()
  | i, k :: ks => do
      (deleteJob (.cancelDeleteItem i) k none).mapError
        (·.wrap ("delete job " ++ k.ns ++ "/" ++ k.name))
      deleteJobs (i + 1) ks

def deleteJobsLabeledByOperation (op : Operation) : EngineM Unit := do
  let jobs ← (listJobs .cancelList operationLabelKey op.metadata.uid).mapError
    (·.wrap ("list jobs for operation " ++ op.metadata.uid))
  deleteJobs 0 (jobs.map fun j => j.metadata.key)

/-- Delete objects of a kind one after the other; `what` is the text an error
starts with. -/
def deleteObjects (kind : Kind) (what : String) : ℕ → List ObjectKey → EngineM Unit
  | _, [] => pure ()
  | i, k :: ks => do
      (deleteObject (.cancelDeleteItem i) kind k).mapError
        (·.wrap ("delete " ++ what ++ " " ++ k.ns ++ "/" ++ k.name))
      deleteObjects kind what (i + 1) ks

/-- Delete all objects of a kind that are labelled with an operation. -/
def deleteObjectsLabeledByOperation (kind : Kind) (what : String) (op : Operation) :
    EngineM Unit := do
  let objs ← (listObjects .cancelList kind operationLabelKey op.metadata.uid).mapError
    (·.wrap ("list " ++ what ++ "s for operation " ++ op.metadata.uid))
  deleteObjects kind what 0 (objs.map fun o => o.metadata.key)

def deleteWorkflowsLabeledByOperation (op : Operation) : EngineM Unit :=
  deleteObjectsLabeledByOperation .workflow "workflow" op

def deleteVeleroCRsLabeledByOperation (kind : Kind) (op : Operation) : EngineM Unit :=
  deleteObjectsLabeledByOperation kind ("velero " ++ kind.text) op

end VWorkspace
