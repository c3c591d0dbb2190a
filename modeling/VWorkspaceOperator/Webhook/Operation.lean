import VWorkspaceOperator.Cluster
import VWorkspaceOperator.Controller.Validation
import VWorkspaceOperator.Operations.Concurrency
import VWorkspaceOperator.Operations.Parameters

/-!
# The admission webhook of operations

Every create and every update of an operation is put before the webhook; the
status is a subresource and is not, and neither is a request to delete.  The
webhook reads the namespace, the target and the other operations as they are at
that moment, and compares the claim with the clock.
-/

namespace VWorkspace

open Kit

inductive AdmissionSite where
  | getNamespace
  | getTarget
  | listOperations
  deriving DecidableEq, Repr

structure AdmissionView where
  /-- The clock, in seconds. -/
  now : ℕ
  /-- The annotations of a namespace, if it exists. -/
  namespaces : String → Option (List (String × String)) := fun _ => none
  instances : Store ApplicationInstance
  operations : Store Operation
  /-- The error a read gets, if it fails. -/
  fault : AdmissionSite → Option String := fun _ => none

def AdmissionView.read {α : Type} (v : AdmissionView) (s : AdmissionSite) (a : α) :
    Except GoError α :=
  match v.fault s with
  | some msg => .error { msg }
  | none => .ok a

structure OperationWebhook where
  approvalClaimSecret : String
  hmacSHA256Hex : String → String → String

def validateKnownOperationType (op : Operation) : Except GoError Unit :=
  match op.spec.type with
  | .backup | .restore | .upgrade | .migration | .runCommand | .runbook => .ok ()
  | type => .error { msg := "unsupported operation type " ++ goQuote type.text }

def namespaceAllowedTypesAnnotation : String := "ops.vworkspace.io/allowed-types"

def parseAllowedTypes (raw : String) : List String :=
  ((splitOn ',' raw).map trimSpace).filter fun part => part ≠ ""

/-- A namespace with these annotations allows a type: it has no list, a blank one,
or one that names the type. -/
def allowsType (annotations : List (String × String)) (type : OperationType) : Bool :=
  match annotations.lookup namespaceAllowedTypesAnnotation with
  | none => true
  | some raw => trimSpace raw = "" || type.text ∈ parseAllowedTypes raw

def validateNamespaceAllowedTypes (v : AdmissionView) (op : Operation) : Except GoError Unit := do
  let found ← (v.read .getNamespace (v.namespaces op.metadata.ns)).mapError
    (·.wrap ("get namespace " ++ goQuote op.metadata.ns))
  match found with
  | none => pure ()
  | some annotations =>
      if allowsType annotations op.spec.type then pure ()
      else .error { msg := "operation type " ++ goQuote op.spec.type.text ++
        " not allowed in namespace " ++ goQuote op.metadata.ns ++ " (annotation " ++
        namespaceAllowedTypesAnnotation ++ ")" }

def validateOperationBuiltinTemplate (op : Operation) : Except GoError Unit :=
  if (lookupTemplate op.spec.type op.spec.engine).isSome then .ok ()
  else .error { msg := "no built-in operation template for type " ++ goQuote op.spec.type.text ++
    " and engine " ++ goQuote op.spec.engine.text ++ " (expected refs such as " ++
    ", ".intercalate (builtin.map fun tpl => tpl.ref) ++ ")" }

def validateOperationTargetExists (v : AdmissionView) (op : Operation) :
    Except GoError ApplicationInstance := do
  let found ← (v.read .getTarget
    (v.instances.get ⟨op.metadata.ns, op.spec.targetRef.name⟩)).mapError
      (·.wrap "get target ApplicationInstance")
  match found with
  | some target => pure target
  | none => .error { msg := "target ApplicationInstance " ++ goQuote op.spec.targetRef.name ++
      " not found in namespace " ++ goQuote op.metadata.ns }

def capabilityAnnotationKey (verb : String) : String := "ops.vworkspace.io/" ++ verb

def validateOperationCapability (target : ApplicationInstance) (op : Operation) :
    Except GoError Unit :=
  match lookupTemplate op.spec.type op.spec.engine with
  | none => .ok ()
  | some tpl =>
      let key := capabilityAnnotationKey tpl.capabilityVerb
      let want := op.spec.engine.text
      let got := (target.metadata.annotations.lookup key).getD ""
      if trimSpace got = "" then
        .error { msg := "target " ++ goQuote target.metadata.name ++
          " missing capability annotation " ++ key ++ "=" ++ goQuote want ++
          " required for template " ++ tpl.ref }
      else if trimSpace got ≠ want then
        .error { msg := "target " ++ goQuote target.metadata.name ++ " capability " ++ key ++ "=" ++
          goQuote got ++ " does not match operation engine " ++ goQuote want ++ " (template " ++
          tpl.ref ++ ")" }
      else .ok ()

/-- The parameters of an operation, an empty object where there are none. -/
def rawParameters (op : Operation) : Bytes := op.spec.parameters.getD (bytesOf "\x7b\x7d")

def operationParametersChanged (old new : Operation) : Bool :=
  trimBytes (rawParameters old) ≠ trimBytes (rawParameters new)

def OperationPhase.text : OperationPhase → String
  | .unset => ""
  | .pending => "Pending"
  | .running => "Running"
  | .succeeded => "Succeeded"
  | .failed => "Failed"
  | .cancelled => "Cancelled"

def validateOperationParameters (op : Operation) : Except GoError Unit :=
  validateParameters op.spec.type op.spec.engine (op.spec.parameters.getD [])

/-- The checks of the parameters, made only where they are new. -/
def validateNewParameters (isNew : Bool) (op : Operation) : Except GoError Unit :=
  if isNew then do
    validateOperationParameters op
    validateRuntimeParameters op
  else .ok ()

def validateOperationConcurrency (v : AdmissionView) (op : Operation) : Except GoError Unit := do
  let list ← (v.read .listOperations
    (v.operations.items.filter fun item => item.metadata.ns = op.metadata.ns)).mapError
      (·.wrap "list operations")
  match findConflict list op with
  | none => pure ()
  | some conflict =>
      let msg := "target " ++ goQuote op.spec.targetRef.name ++ " " ++ formatConflict conflict
      .error { msg }

def validateOperationSpecImmutability (old new : Operation) : Except GoError Unit :=
  if old.spec.targetRef.apiVersion ≠ new.spec.targetRef.apiVersion then
    .error { msg := "spec.targetRef.apiVersion is immutable" }
  else if old.spec.targetRef.kind ≠ new.spec.targetRef.kind then
    .error { msg := "spec.targetRef.kind is immutable" }
  else if old.spec.targetRef.name ≠ new.spec.targetRef.name then
    .error { msg := "spec.targetRef.name is immutable" }
  else if old.spec.type ≠ new.spec.type then .error { msg := "spec.type is immutable" }
  else if old.spec.engine ≠ new.spec.engine then .error { msg := "spec.engine is immutable" }
  else .ok ()

def validateOperationParametersImmutability (old new : Operation) : Except GoError Unit :=
  if operationParametersChanged old new then
    match old.status.phase with
    | .unset | .pending => .ok ()
    | phase => .error { msg := "spec.parameters is immutable once operation has started (phase=" ++
        phase.text ++ ")" }
  else .ok ()

namespace OperationWebhook

variable (hook : OperationWebhook)

/-- `validateOperationApprovalClaim`, with `approvals.ValidateClaim`: a claim that
is given must verify, whether or not one is required. -/
def validateOperationApprovalClaim (now : ℕ) (op : Operation) : Except GoError Unit :=
  if approvalClaim op = "" then .ok ()
  else
    match verify hook.hmacSHA256Hex now hook.approvalClaimSecret (approvalClaim op)
      op.metadata.name with
    | .ok _ => .ok ()
    | .error e => .error { msg := "spec.approvals.claim: " ++ e }

def validateOperation (v : AdmissionView) (op : Operation) (newParameters : Bool) :
    Except GoError Unit := do
  validateOperationSpec op
  validateKnownOperationType op
  validateNamespaceAllowedTypes v op
  validateOperationBuiltinTemplate op
  let target ← validateOperationTargetExists v op
  validateOperationCapability target op
  validateNewParameters newParameters op
  hook.validateOperationApprovalClaim v.now op
  validateOperationConcurrency v op

def validateCreate (v : AdmissionView) (op : Operation) : Except GoError Unit :=
  hook.validateOperation v op true

/-- `ValidateUpdate`: an update of a metadata field runs through all checks that
read the cluster, too. -/
def validateUpdate (v : AdmissionView) (old op : Operation) : Except GoError Unit := do
  validateOperationSpecImmutability old op
  validateOperationParametersImmutability old op
  hook.validateOperation v op (operationParametersChanged old op)

end OperationWebhook

end VWorkspace
