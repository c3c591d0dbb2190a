import VWorkspaceOperator.Engines.Workflow

/-!
# Runtime parameters at admission

What the operator checks of the parameters of an operation before one of the
engines that run a workload sees them: that the fields the engine needs are
there, and that no service account but the operation runner is named.  The
check decodes the parameters into a structure of its own, so that it confines
the engines only because their decoders read the same value from the same bytes.
-/

namespace VWorkspace

open Kit

structure RuntimeParameters where
  image : String := ""
  hookName : String := ""
  workflowTemplate : String := ""
  template : String := ""
  serviceAccountName : String := ""

def RuntimeParameters.fields : List (StructField RuntimeParameters) :=
  [.of "image" decodeString image fun x p => { p with image := x },
    .of "hookName" decodeString hookName fun x p => { p with hookName := x },
    .of "workflowTemplate" decodeString workflowTemplate
      fun x p => { p with workflowTemplate := x },
    .of "template" decodeString template fun x p => { p with template := x },
    .of "serviceAccountName" decodeString serviceAccountName
      fun x p => { p with serviceAccountName := x }]

def validateRequiredRuntimeFields (engine : OperationEngine) (params : RuntimeParameters) :
    Except GoError Unit :=
  match engine with
  | .job => if params.image = "" then .error { msg := "parameters.image is required" } else .ok ()
  | .helmHookJob =>
      if params.hookName = "" then .error { msg := "parameters.hookName is required" }
      else if params.image = "" then .error { msg := "parameters.image is required" }
      else .ok ()
  | .workflow =>
      if params.workflowTemplate = "" ∧ params.template = "" then
        .error { msg := "parameters.workflowTemplate is required" }
      else .ok ()
  | _ => .ok ()

def isRuntimeEngine : OperationEngine → Bool
  | .job | .workflow | .helmHookJob => true
  | _ => false

def validateServiceAccountName (name : String) : Except GoError Unit :=
  if name ≠ "" ∧ name ≠ defaultJobServiceAccount then
    .error { msg := "parameters.serviceAccountName must be " ++ goQuote defaultJobServiceAccount ++
      " or omitted" }
  else .ok ()

def validateRuntimeParameters (op : Operation) : Except GoError Unit :=
  if !isRuntimeEngine op.spec.engine then .ok ()
  else
    match op.spec.parameters with
    | none => validateRequiredRuntimeFields op.spec.engine {}
    | some raw =>
        match unmarshal "runtimeParameters" RuntimeParameters.fields raw {} with
        | .error e => .error { msg := "decode runtime parameters: " ++ e }
        | .ok params => do
            validateRequiredRuntimeFields op.spec.engine params
            validateServiceAccountName params.serviceAccountName

theorem nodup_foldedNames :
    (foldedNames RuntimeParameters.fields).Nodup ∧ (foldedNames JobParameters.fields).Nodup ∧
      (foldedNames HelmHookJobParameters.fields).Nodup ∧
      (foldedNames WorkflowParameters.fields).Nodup := by decide +kernel

/-- The field of the service account, as all decoders read it. -/
def ReadsServiceAccount {σ : Type} (fields : List (StructField σ)) (p : σ → String) : Prop :=
  Reads fields p "serviceAccountName" updString

theorem RuntimeParameters.reads_serviceAccountName :
    ReadsServiceAccount RuntimeParameters.fields serviceAccountName :=
  .of_stores nodup_foldedNames.1 <|
    .keep rfl <| .keep rfl <| .keep rfl <| .keep rfl <| .store rfl .nil

theorem JobParameters.reads_serviceAccountName :
    ReadsServiceAccount JobParameters.fields serviceAccountName :=
  .of_stores nodup_foldedNames.2.1 <|
    .keep rfl <| .keep rfl <| .keep rfl <| .keep rfl <| .store rfl <| .keep rfl <| .keep rfl <| .keep rfl .nil

theorem HelmHookJobParameters.reads_serviceAccountName :
    ReadsServiceAccount HelmHookJobParameters.fields serviceAccountName :=
  .of_stores nodup_foldedNames.2.2.1 <|
    .keep rfl <| .keep rfl <| .keep rfl <| .keep rfl <| .store rfl <| .keep rfl <| .keep rfl <| .keep rfl .nil

theorem WorkflowParameters.reads_serviceAccountName :
    ReadsServiceAccount WorkflowParameters.fields serviceAccountName :=
  .of_stores nodup_foldedNames.2.2.2 <|
    .keep rfl <| .keep rfl <| .keep rfl <| .store rfl .nil

theorem effectiveServiceAccount_of_validate {name : String}
    (h : validateServiceAccountName name = .ok ()) :
    effectiveServiceAccount name = defaultJobServiceAccount := by
  unfold validateServiceAccountName at h
  unfold effectiveServiceAccount
  split at h
  · exact absurd h (by simp)
  · next hn => by_cases hempty : name = "" <;> simp_all

theorem serviceAccountName_of_validate {σ : Type} {fields : List (StructField σ)} {p : σ → String}
    (hreads : ReadsServiceAccount fields p) {what struct : String} {zero params : σ}
    (hzero : p zero = "") {op : Operation} (hengine : isRuntimeEngine op.spec.engine = true)
    (hvalid : validateRuntimeParameters op = .ok ())
    (hparse : parseParameters what struct fields zero op = .ok params) :
    effectiveServiceAccount (p params) = defaultJobServiceAccount := by
  unfold validateRuntimeParameters at hvalid
  unfold parseParameters at hparse
  rw [hengine] at hvalid
  simp only [Bool.not_true, Bool.false_eq_true, if_false] at hvalid
  cases hraw : op.spec.parameters with
  | none =>
    rw [hraw] at hparse
    simp only [Except.ok.injEq] at hparse
    rw [← hparse, hzero]
    rfl
  | some raw =>
    rw [hraw] at hvalid hparse
    simp only at hvalid hparse
    cases hrt : unmarshal "runtimeParameters" RuntimeParameters.fields raw {} with
    | error e => rw [hrt] at hvalid; exact absurd hvalid (by simp)
    | ok rt =>
      cases hs : unmarshal struct fields raw zero with
      | error e => rw [hs] at hparse; exact absurd hparse (by simp)
      | ok s =>
        rw [hs] at hparse
        simp only [Except.ok.injEq] at hparse
        have hagree : rt.serviceAccountName = p s :=
          unmarshal_agree RuntimeParameters.reads_serviceAccountName hreads hzero.symm hrt hs
        rw [← hparse, ← hagree]
        apply effectiveServiceAccount_of_validate
        rw [hrt] at hvalid
        simp only at hvalid
        cases hreq : validateRequiredRuntimeFields op.spec.engine rt with
        | error e => rw [hreq] at hvalid; exact absurd hvalid (by simp [bind, Except.bind])
        | ok u => rw [hreq] at hvalid; exact hvalid

end VWorkspace
