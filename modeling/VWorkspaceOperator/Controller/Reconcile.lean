import VWorkspaceOperator.Controller.Validation
import VWorkspaceOperator.Engines.Registry
import VWorkspaceOperator.Operations.Approvals
import VWorkspaceOperator.Operations.Concurrency

/-!
# The operation reconciler

`OperationReconciler.Reconcile`, cut into the parts it goes through: the
finalizer, the gate an operation has to pass before its engine sees it, the
start of the engine, the backfill of fields older versions did not record, and
the observation of the engine's work.  The gate stands in front of every
reconcile, not only of the first: an operation that runs, or has finished, is
asked again.
-/

namespace VWorkspace

open Kit Ctl

/-- The configuration of the reconciler, with the keyed hash that approval
claims are signed with. -/
structure OperationReconciler where
  registry : Option Registry
  approvalClaimSecret : String
  hmacSHA256Hex : String → String → String

/-- The reconciler the operator sets up: all engines, and the trimmed secret. -/
def operatorReconciler (hmacSHA256Hex : String → String → String) (secret veleroNs : String) :
    OperationReconciler where
  registry := some (builtinRegistry veleroNs)
  approvalClaimSecret := trimSpace secret
  hmacSHA256Hex := hmacSHA256Hex

/-- The engine registered under a name, if there is a registry at all. -/
def OperationReconciler.engine (r : OperationReconciler) (name : OperationEngine) : Option Engine :=
  r.registry.bind fun reg => reg.get name

structure Result where
  requeue : Bool := false
  requeueAfter : ℕ := 0
  deriving DecidableEq, Repr

def blockedStatus (now : ℕ) (reason message : String) (st : OperationStatus) : OperationStatus :=
  let conditions := setCondition now "Blocked" .true reason message st.conditions
  { st with
    phase := .pending
    conditions := setCondition now "Accepted" .false reason message conditions }

def failedStatus (now : ℕ) (message : String) (st : OperationStatus) : OperationStatus :=
  { st with
    phase := .failed
    finishedAt := some now
    conditions := setCondition now "Failed" .true "EngineFailed" message st.conditions }

/-- The status of an operation whose engine has just been started. -/
def runningStatus (now : ℕ) (ref : EngineResourceRef) (st : OperationStatus) : OperationStatus :=
  let accepted :=
    setCondition now "Accepted" .true "AdmissionPassed" "Operation accepted" st.conditions
  let running := setCondition now "Running" .true "EngineStarted" "Engine is running" accepted
  { st with
    engineRef := some ref
    phase := .running
    startedAt := some now
    conditions := setCondition now "Blocked" .false "Unblocked" "Operation started" running }

def terminalStatus (now : ℕ) (es : EngineStatus) (st : OperationStatus) : OperationStatus :=
  let finished :=
    if es.failed then setCondition now "Failed" .true es.reason es.message st.conditions
    else setCondition now "Succeeded" .true es.reason es.message st.conditions
  let message := if es.failed then "Engine finished with failure" else "Engine completed"
  { st with
    finishedAt := some now
    phase := es.phase
    conditions := setCondition now "Running" .false "EngineNotStarted" message finished
    outputs := if es.outputs ≠ [] then es.outputs else st.outputs }

/-- The status of an operation whose engine is still at work. -/
def inFlightStatus (es : EngineStatus) (st : OperationStatus) : OperationStatus :=
  { st with phase := es.phase }

inductive Admission where
  | blocked (reason message : String)
  | proceed (target : ApplicationInstance) (engine : Engine)

/-- The approval part of the gate: the reason to hold the operation back, if
there is one. -/
def awaitingApproval (r : OperationReconciler) (op : Operation) : Ctl (Option String) := do
  if needsApprovalCheck op then
    match checkApproval r.hmacSHA256Hex (← now) op r.approvalClaimSecret with
    | .blocked reason => pure (some reason)
    | .verified secret claim => do
        Prog.emit (.verified secret claim op.metadata.name)
        pure none
    | .notRequired => pure none
  else pure none

def hasConflictingOperation (op : Operation) : Ctl (Option Conflict) := do
  let list ← (listOperations op.metadata.ns).mapError (·.wrap "list operations")
  pure (findConflict list op)

def gate (r : OperationReconciler) (op : Operation) : Ctl Admission := do
  match validateOperationSpec op with
  | .error e => pure (.blocked "ValidationFailed" e.msg)
  | .ok _ =>
      match ← (getTarget ⟨op.metadata.ns, op.spec.targetRef.name⟩).mapError
          (·.wrap "get target") with
      | none => pure (.blocked "TargetNotReady" "target ApplicationInstance not found")
      | some target =>
          match ← awaitingApproval r op with
          | some reason => pure (.blocked "AwaitingApproval" reason)
          | none =>
              match ← hasConflictingOperation op with
              | some conflict => pure (.blocked "ConflictingOperation" (formatConflict conflict))
              | none =>
                  match r.engine op.spec.engine with
                  | none => pure (.blocked "DependencyMissing"
                      ("engine " ++ goQuote op.spec.engine.text ++ " is not registered"))
                  | some engine => pure (.proceed target engine)

def reportConditions (op : Operation) (prev : List Condition) : Ctl Unit :=
  Prog.emit (.reported op prev)

def blockOperation (op : Operation) (reason message : String) : Ctl Result := do
  let st := blockedStatus (← now) reason message op.status
  let op' ← (updateStatus .updateBlocked (op.withStatus st)).mapError
    (·.wrap "update blocked status")
  reportConditions op' op.status.conditions
  pure { requeueAfter := 30 }

def failOperation (op : Operation) (message : String) : Ctl Result := do
  let st := failedStatus (← now) message op.status
  let op' ← (updateStatus .updateFailed (op.withStatus st)).mapError (·.wrap "update failed status")
  reportConditions op' op.status.conditions
  pure {}

def unstarted (op : Operation) : Bool :=
  match op.status.phase with
  | .unset | .pending => true
  | _ => false

/-- Start the engine of an operation that has not been started.  The answer is
the operation to go on with, or the error `Materialize` returned. -/
def start (engine : Engine) (op : Operation) (target : ApplicationInstance) :
    Ctl (Except GoError Operation) := do
  if unstarted op then
    Prog.emit (.materialize op)
    match ← (runEngine (engine.materialize op target)).attempt with
    | .error e => pure (.error e)
    | .ok _ =>
        let ref := newEngineResourceRef op target (engineResourceKind op.spec.engine)
        let st := runningStatus (← now) ref op.status
        let op' ← (updateStatus .updateRunning (op.withStatus st)).mapError
          (·.wrap "update running status")
        reportConditions op' op.status.conditions
        pure (.ok op')
  else pure (.ok op)

/-- The engine reference is missing where the engine has one. -/
def lacksEngineRef (op : Operation) : Bool :=
  op.status.engineRef.isNone && supportsEngineRef op.spec.engine

def backfillEngineRefIfNeeded (op : Operation) (target : ApplicationInstance) : Ctl Operation := do
  if op.status.phase ≠ .running then pure op
  else if op.status.startedAt.isSome && !lacksEngineRef op then pure op
  else
    let ref := newEngineResourceRef op target (engineResourceKind op.spec.engine)
    let st := { op.status with
      startedAt := some (op.status.startedAt.getD (← now))
      engineRef := if lacksEngineRef op then some ref else op.status.engineRef }
    (updateStatus .updateBackfill (op.withStatus st)).mapError
      (·.wrap "persist running status backfill")

/-- How long a workload may be missing after the start, in seconds. -/
def workloadMissingGrace : ℕ := 60

def handleEngineStatusError (op : Operation) (e : GoError) : Ctl Result := do
  match e.sentinel with
  | some .workloadOwnership | some .workloadAmbiguous => failOperation op e.msg
  | some .workloadMissing =>
      if op.status.phase = .running then
        match op.status.startedAt with
        | none =>
            let st := { op.status with startedAt := some (← now) }
            let _ ← (updateStatus .updateStartedAt (op.withStatus st)).mapError
              (·.wrap "record startedAt for workload-missing grace")
            pure { requeueAfter := 5 }
        | some startedAt =>
            if (← now) < startedAt + workloadMissingGrace then pure { requeueAfter := 5 }
            else failOperation op e.msg
      else failOperation op e.msg
  | none => Prog.throw (e.wrap "engine status")

/-- Look at the work of the engine and record what it says. -/
def observe (engine : Engine) (op : Operation) : Ctl Result := do
  match ← (runEngine (engine.status op)).attempt with
  | .error e => handleEngineStatusError op e
  | .ok es =>
      if es.done then
        let st := terminalStatus (← now) es op.status
        let op' ← (updateStatus .updateTerminal (op.withStatus st)).mapError
          (·.wrap "update terminal status")
        reportConditions op' op.status.conditions
        pure {}
      else
        let st := inFlightStatus es op.status
        let op' ← (updateStatus .updateInFlight (op.withStatus st)).mapError
          (·.wrap "update in-flight status")
        reportConditions op' op.status.conditions
        pure { requeueAfter := 5 }

def proceed (engine : Engine) (op : Operation) (target : ApplicationInstance) : Ctl Result := do
  match ← start engine op target with
  | .error e => failOperation op e.msg
  | .ok op => do
      let op ← backfillEngineRefIfNeeded op target
      observe engine op

def cancelEngine (r : OperationReconciler) (op : Operation) : Ctl Unit :=
  match r.engine op.spec.engine with
  | some engine => (runEngine (engine.cancel op)).mapError (·.wrap "cancel engine resources")
  | none => pure ()

def finalizeOperation (r : OperationReconciler) (op : Operation) : Ctl Result := do
  cancelEngine r op
  let finalizers := op.metadata.finalizers.filter fun f => f ≠ operationFinalizer
  let metadata := { op.metadata with finalizers := finalizers }
  (updateMetadata .removeFinalizer { op with metadata := metadata }).mapError
    (·.wrap "remove finalizer")
  pure {}

def addFinalizer (op : Operation) : Ctl Result := do
  let metadata := { op.metadata with finalizers := op.metadata.finalizers ++ [operationFinalizer] }
  (updateMetadata .addFinalizer { op with metadata := metadata }).mapError (·.wrap "add finalizer")
  pure { requeue := true }

def carryOut (op : Operation) : Admission → Ctl Result
  | .blocked reason message => blockOperation op reason message
  | .proceed target engine => proceed engine op target

def reconcile (r : OperationReconciler) (k : ObjectKey) : Ctl Result := do
  match ← getOperation k with
  | none => pure {}
  | some op =>
      if operationFinalizer ∉ op.metadata.finalizers then addFinalizer op
      else if op.metadata.deletionTimestamp.isSome then finalizeOperation r op
      else do
        let admission ← gate r op
        carryOut op admission

end VWorkspace
