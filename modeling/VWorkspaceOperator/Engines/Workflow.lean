import VWorkspaceOperator.Engines.Job

/-!
# The workflow engine

Runs an operation as an Argo `Workflow` that refers to a workflow template.
-/

namespace VWorkspace

open Kit EngineM

structure WorkflowParameters where
  workflowTemplate : String := ""
  template : String := ""
  workflowTemplateParameters : Option (List (String × String)) := none
  serviceAccountName : String := ""

def WorkflowParameters.fields : List (StructField WorkflowParameters) :=
  [.of "workflowTemplate" decodeString workflowTemplate fun x p => { p with workflowTemplate := x },
    .of "template" decodeString template fun x p => { p with template := x },
    .of "workflowTemplateParameters" decodeStringMap workflowTemplateParameters
      fun x p => { p with workflowTemplateParameters := x },
    .of "serviceAccountName" decodeString serviceAccountName
      fun x p => { p with serviceAccountName := x }]

def parseWorkflowParameters (op : Operation) : Except GoError WorkflowParameters :=
  parseParameters "workflow" "workflowParameters" WorkflowParameters.fields {} op

def WorkflowParameters.templateName (p : WorkflowParameters) : String :=
  if p.workflowTemplate ≠ "" then p.workflowTemplate else p.template

/-- The arguments of a workflow, in the order of their names. -/
def workflowArguments (params : List (String × String)) : List Json :=
  (sortByName params).map fun (name, value) => .obj [("name", .str name), ("value", .str value)]

/-- `unstructured.SetNestedField` with its error as a Go error. -/
def setBody (value : Json) (path : List String) (body : Fields) : Except GoError Fields :=
  (setNested value [] path body).mapError fun msg => { msg }

section setBody

variable {value : Json} {k : String} {ks : List String} {body body' : Fields}

theorem setNested_of_setBody (h : setBody value ks body = .ok body') :
    setNested value [] ks body = .ok body' := by
  unfold setBody at h
  cases hset : setNested value [] ks body with
  | error e => rw [hset] at h; exact absurd h (by simp [Except.mapError])
  | ok body'' => rw [hset] at h; exact congrArg Except.ok (Except.ok.inj h)

theorem nested_setBody (h : setBody value (k :: ks) body = .ok body') :
    nested (k :: ks) body' = some value :=
  nested_setNested (setNested_of_setBody h)

theorem setBody_of_nested (h : nested (k :: ks) body = some value) :
    setBody value (k :: ks) body = .ok body := by
  rw [setBody, setNested_of_nested h]
  rfl

theorem nested_spec_setBody_of_ne {field other : String} (hne : field ≠ other)
    (h : setBody value ("spec" :: field :: ks) body = .ok body') :
    nested ["spec", other] body' = nested ["spec", other] body :=
  nested_setNested_of_ne hne ["spec"] ks [] (setNested_of_setBody h)

end setBody

/-- The content of a workflow: its template, its service account and, where
there are any, its arguments. -/
def workflowBody (params : WorkflowParameters) : Except GoError Fields := do
  let body ← setBody (.obj [("name", .str params.templateName)]) ["spec", "workflowTemplateRef"] []
  let body ← setBody (.str (effectiveServiceAccount params.serviceAccountName))
    ["spec", "serviceAccountName"] body
  match params.workflowTemplateParameters.getD [] with
  | [] => pure body
  | ps => setBody (.arr (workflowArguments ps)) ["spec", "arguments", "parameters"] body

theorem nestedString_workflowBody {params : WorkflowParameters} {body : Fields}
    (h : workflowBody params = .ok body) :
    nestedString ["spec", "serviceAccountName"] body =
      effectiveServiceAccount params.serviceAccountName := by
  obtain ⟨body₁, -, h⟩ := exists_of_bind_ok h
  obtain ⟨body₂, haccount, h⟩ := exists_of_bind_ok h
  have hread := nested_setBody haccount
  suffices hkeep : nested ["spec", "serviceAccountName"] body =
      nested ["spec", "serviceAccountName"] body₂ by
    rw [nestedString, hkeep, hread]
  split at h
  · rw [Except.ok.inj h]
  · exact nested_spec_setBody_of_ne (by decide) h

def workflowMaterialize (op : Operation) (target : ApplicationInstance) : EngineM Unit := do
  let params ← Prog.ofExcept (parseWorkflowParameters op)
  if params.templateName = "" then Prog.throw { msg := "parameters.workflowTemplate is required" }
  else
    let ns := targetNamespace target
    let k : ObjectKey := ⟨ns, materializedName op⟩
    match ← (getObject .getExisting .workflow k).mapError (·.wrap "get workflow") with
    | some existing => Prog.ofExcept (verifyOperationOwnership existing.metadata.labels op)
    | none =>
        let body ← Prog.ofExcept (workflowBody params)
        let named := setOwnerReferenceIfSameNamespace op ns
          { ns := ns, name := k.name, labels := applyOperationLabels [] op }
        (createObject .create .workflow ⟨named, body⟩).mapError (·.wrap "create workflow")

def statusFromWorkflow (wf : Unstructured) : EngineStatus :=
  let outputs := [("workflowName", wf.metadata.name)]
  match nestedString ["status", "phase"] wf.body with
  | "Succeeded" =>
      { phase := .succeeded, reason := "EngineCompleted", done := true, outputs := outputs }
  | "Skipped" =>
      { phase := .succeeded, reason := "EngineSkipped", done := true, outputs := outputs }
  | "Failed" | "Error" | "Terminated" =>
      { phase := .failed, reason := "EngineFailed",
        message := nestedString ["status", "message"] wf.body,
        done := true, failed := true, outputs := outputs }
  | _ => { phase := .running, reason := "EngineStarted", outputs := outputs }

def workflowStatus (op : Operation) : EngineM EngineStatus := do
  let k ← resolveEngineLocationForStatus op findWorkflowLocationByOperationLabel
  match ← (getObject .statusGet .workflow k).mapError (·.wrap "get workflow") with
  | none => Prog.throw ⟨some .workloadMissing, Sentinel.workloadMissing.text⟩
  | some wf => do
      Prog.ofExcept (verifyOperationOwnership wf.metadata.labels op)
      pure (statusFromWorkflow wf)

def workflowCancel (op : Operation) : EngineM Unit := do
  match ← resolveEngineLocation op with
  | none => deleteWorkflowsLabeledByOperation op
  | some k =>
      match ← getObject .cancelGet .workflow k with
      | none => deleteWorkflowsLabeledByOperation op
      | some _ => deleteObject .cancelDelete .workflow k

def workflowEngine : Engine := ⟨.workflow, workflowMaterialize, workflowStatus, workflowCancel⟩

end VWorkspace
