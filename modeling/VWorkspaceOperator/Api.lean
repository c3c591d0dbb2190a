import VWorkspaceOperator.Kit.Store
import VWorkspaceOperator.Kit.JsonDecode

/-!
# The custom resources

The two custom resources the operation subsystem works on: an `Operation`, the
request to run one day-2 action, and the `ApplicationInstance` it targets, with
the fields the controllers read or write.  Times are whole seconds: that is the
resolution in which the API server stores a `metav1.Time`.
-/

namespace VWorkspace

open Kit

structure ObjectKey where
  ns : String
  name : String
  deriving DecidableEq, Repr, Inhabited

structure OwnerReference where
  apiVersion : String
  kind : String
  name : String
  uid : String
  controller : Bool := false
  deriving DecidableEq, Repr

structure ObjectMeta where
  ns : String
  name : String
  uid : String := ""
  labels : List (String × String) := []
  annotations : List (String × String) := []
  finalizers : List String := []
  deletionTimestamp : Option Nat := none
  ownerReferences : List OwnerReference := []
  deriving DecidableEq, Repr

def ObjectMeta.key (m : ObjectMeta) : ObjectKey := ⟨m.ns, m.name⟩

inductive ConditionStatus where
  | true
  | false
  | unknown
  deriving DecidableEq, Repr

structure Condition where
  type : String
  status : ConditionStatus
  reason : String
  message : String
  lastTransitionTime : Nat
  deriving DecidableEq, Repr

/-- `conditions.Set`: the condition of that type takes the new values, and the
current time if one of them changed; a missing one is appended. -/
def setCondition (now : Nat) (type : String) (status : ConditionStatus) (reason message : String) :
    List Condition → List Condition
  | [] => [⟨type, status, reason, message, now⟩]
  | c :: cs =>
      if c.type = type then
        (if c.status = status ∧ c.reason = reason ∧ c.message = message then c
          else ⟨type, status, reason, message, now⟩) :: cs
      else c :: setCondition now type status reason message cs

def conditionIs (type : String) (status : ConditionStatus) (reason message : String)
    (cs : List Condition) : Bool :=
  (cs.find? fun c => c.type = type).any fun c =>
    c.status = status && c.reason = reason && c.message = message

section conditions

variable {now : Nat} {type : String} {status : ConditionStatus} {reason message : String}
  {cs : List Condition}

theorem conditionIs_setCondition :
    conditionIs type status reason message (setCondition now type status reason message cs) =
      true := by
  induction cs with
  | nil => simp [setCondition, conditionIs]
  | cons c cs ih =>
    by_cases htype : c.type = type
    · by_cases hsame : c.status = status ∧ c.reason = reason ∧ c.message = message
      · simp [setCondition, conditionIs, htype, hsame]
      · simp [setCondition, conditionIs, htype, if_neg hsame]
    · simpa [setCondition, conditionIs, htype] using ih

theorem conditionIs_setCondition_of_ne {type' : String} {status' : ConditionStatus}
    {reason' message' : String} (hne : type' ≠ type) :
    conditionIs type' status' reason' message' (setCondition now type status reason message cs) =
      conditionIs type' status' reason' message' cs := by
  induction cs with
  | nil => simp [setCondition, conditionIs, hne.symm]
  | cons c cs ih =>
    by_cases htype : c.type = type
    · have hfind : ∀ c' : Condition, c'.type = type →
          conditionIs type' status' reason' message' (c' :: cs) =
            conditionIs type' status' reason' message' cs := fun c' hc' => by
        simp [conditionIs, hc', hne.symm]
      rw [setCondition, if_pos htype, hfind c htype]
      split
      · exact hfind c htype
      · exact hfind _ rfl
    · rw [setCondition, if_neg htype]
      by_cases htype' : c.type = type'
      · simp [conditionIs, htype']
      · simpa [conditionIs, htype'] using ih

theorem types_setCondition :
    (setCondition now type status reason message cs).map Condition.type =
      if type ∈ cs.map Condition.type then cs.map Condition.type
      else cs.map Condition.type ++ [type] := by
  induction cs with
  | nil => rfl
  | cons c cs ih =>
    by_cases htype : c.type = type
    · rw [setCondition, if_pos htype]
      split <;> simp [htype]
    · rw [setCondition, if_neg htype, List.map_cons, ih, List.map_cons]
      by_cases hmem : type ∈ cs.map Condition.type
      · rw [if_pos hmem, if_pos (List.mem_cons_of_mem _ hmem)]
      · have hmem' : type ∉ c.type :: cs.map Condition.type := by
          rw [List.mem_cons, not_or]
          exact ⟨Ne.symm htype, hmem⟩
        rw [if_neg hmem, if_neg hmem', List.cons_append]

theorem setCondition_eq_self_iff :
    setCondition now type status reason message cs = cs ↔
      conditionIs type status reason message cs = true := by
  refine ⟨fun h => h ▸ conditionIs_setCondition, fun h => ?_⟩
  induction cs with
  | nil => simp [conditionIs] at h
  | cons c cs ih =>
    by_cases htype : c.type = type
    · have hsame : c.status = status ∧ c.reason = reason ∧ c.message = message := by
        simpa [conditionIs, htype, and_assoc] using h
      rw [setCondition, if_pos htype, if_pos hsame]
    · rw [setCondition, if_neg htype, ih (by simpa [conditionIs, htype] using h)]

theorem setCondition_setCondition_eq_self_iff {type' : String} {status' : ConditionStatus}
    {reason' message' : String} (hne : type' ≠ type) :
    setCondition now type status reason message
        (setCondition now type' status' reason' message' cs) = cs ↔
      conditionIs type' status' reason' message' cs = true ∧
        conditionIs type status reason message cs = true := by
  constructor
  · intro h
    have hfirst : conditionIs type' status' reason' message' cs = true := by
      rw [← h, conditionIs_setCondition_of_ne hne]
      exact conditionIs_setCondition
    rw [setCondition_eq_self_iff.mpr hfirst] at h
    exact ⟨hfirst, setCondition_eq_self_iff.mp h⟩
  · rintro ⟨hfirst, hsecond⟩
    rw [setCondition_eq_self_iff.mpr hfirst, setCondition_eq_self_iff.mpr hsecond]

end conditions

/-- The finalizer the operation controller puts on every operation. -/
def operationFinalizer : String := "ops.vworkspace.io/finalizer"

def appsGroupVersion : String := "apps.vworkspace.io/v1alpha1"

def opsGroupVersion : String := "ops.vworkspace.io/v1alpha1"

/-- The verb of an operation; `unset` is Go's empty string. -/
inductive OperationType where
  | unset
  | backup
  | restore
  | upgrade
  | migration
  | runCommand
  | runbook
  deriving DecidableEq, Repr

def OperationType.text : OperationType → String
  | .unset => ""
  | .backup => "Backup"
  | .restore => "Restore"
  | .upgrade => "Upgrade"
  | .migration => "Migration"
  | .runCommand => "RunCommand"
  | .runbook => "Runbook"

/-- The executor of an operation; `unset` is Go's empty string. -/
inductive OperationEngine where
  | unset
  | velero
  | workflow
  | job
  | helm
  | volsync
  | helmHookJob
  deriving DecidableEq, Repr

def OperationEngine.text : OperationEngine → String
  | .unset => ""
  | .velero => "velero"
  | .workflow => "workflow"
  | .job => "job"
  | .helm => "helm"
  | .volsync => "volsync"
  | .helmHookJob => "helmHookJob"

/-- The progress of an operation; `unset` is Go's empty string. -/
inductive OperationPhase where
  | unset
  | pending
  | running
  | succeeded
  | failed
  | cancelled
  deriving DecidableEq, Repr

structure TargetRef where
  apiVersion : String
  kind : String
  name : String
  deriving DecidableEq, Repr

structure ApprovalsSpec where
  required : Bool := false
  claim : String := ""
  deriving DecidableEq, Repr

/-- `spec` of an operation; the parameters are the bytes of a JSON document. -/
structure OperationSpec where
  targetRef : TargetRef
  type : OperationType
  engine : OperationEngine
  parameters : Option Bytes := none
  approvals : Option ApprovalsSpec := none
  deriving DecidableEq, Repr

/-- `status.engineRef`: where the workload of an operation lives. -/
structure EngineResourceRef where
  kind : String
  name : String
  ns : String
  deriving DecidableEq, Repr

/-- `status` of an operation; the outputs are the members of a JSON object. -/
structure OperationStatus where
  phase : OperationPhase := .unset
  startedAt : Option Nat := none
  finishedAt : Option Nat := none
  engineRef : Option EngineResourceRef := none
  conditions : List Condition := []
  outputs : List (String × String) := []
  deriving DecidableEq, Repr

structure Operation where
  metadata : ObjectMeta
  spec : OperationSpec
  status : OperationStatus := {}
  deriving DecidableEq, Repr

instance : Keyed Operation ObjectKey := ⟨fun op => op.metadata.key⟩

namespace Operation

def key (op : Operation) : ObjectKey := op.metadata.key

/-- The operation with another status, as a status update writes it. -/
def withStatus (op : Operation) (st : OperationStatus) : Operation := { op with status := st }

variable (op : Operation) (st : OperationStatus)

@[simp] theorem key_withStatus : (op.withStatus st).key = op.key := rfl

@[simp] theorem keyed_key : (Keyed.key op : ObjectKey) = op.key := rfl

@[simp] theorem spec_withStatus : (op.withStatus st).spec = op.spec := rfl

@[simp] theorem metadata_withStatus : (op.withStatus st).metadata = op.metadata := rfl

@[simp] theorem status_withStatus : (op.withStatus st).status = st := rfl

end Operation

/-- `spec.mode` of an instance; the empty mode is the managed one. -/
inductive InstanceMode where
  | unset
  | managed
  | placeholder
  deriving DecidableEq, Repr

inductive ChartSourceType where
  | unset
  | oci
  | helm
  deriving DecidableEq, Repr

structure ChartSpec where
  sourceType : ChartSourceType
  url : String
  name : String
  version : String
  deriving DecidableEq, Repr

structure ReleaseSpec where
  name : String
  ns : String
  deriving DecidableEq, Repr

inductive ValuesSource where
  | unset
  | inline
  | secretRef
  | configMapRef
  deriving DecidableEq, Repr

structure ObjectKeyRef where
  name : String
  key : String
  deriving DecidableEq, Repr

structure ValuesSpec where
  source : ValuesSource
  inline : Option Bytes := none
  secretRef : Option ObjectKeyRef := none
  configMapRef : Option ObjectKeyRef := none
  deriving DecidableEq, Repr

structure ApplicationInstanceSpec where
  catalogId : String
  mode : InstanceMode := .unset
  chart : Option ChartSpec := none
  release : Option ReleaseSpec := none
  values : Option ValuesSpec := none
  deriving DecidableEq, Repr

structure ApplicationInstance where
  metadata : ObjectMeta
  spec : ApplicationInstanceSpec
  deriving DecidableEq, Repr

instance : Keyed ApplicationInstance ObjectKey := ⟨fun app => app.metadata.key⟩

/-- The sentinel errors of the engines, which `errors.Is` looks for. -/
inductive Sentinel where
  | workloadMissing
  | workloadOwnership
  | workloadAmbiguous
  deriving DecidableEq, Repr

def Sentinel.text : Sentinel → String
  | .workloadMissing => "engine workload not found"
  | .workloadOwnership => "engine workload ownership conflict"
  | .workloadAmbiguous => "ambiguous engine workload"

/-- An error: its text and the sentinel it wraps, if any. -/
structure GoError where
  sentinel : Option Sentinel := none
  msg : String
  deriving DecidableEq, Repr

/-- `fmt.Errorf` with a leading text and the error wrapped: the sentinel stays. -/
def GoError.wrap (pre : String) (e : GoError) : GoError := { e with msg := pre ++ ": " ++ e.msg }

def Sentinel.error (s : Sentinel) (detail : String) : GoError :=
  ⟨some s, s.text ++ ": " ++ detail⟩

end VWorkspace
