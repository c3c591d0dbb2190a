import Mathlib.Data.List.Sort
import VWorkspaceOperator.Engines.Base

/-!
# The job engines

Two engines run an operation as a `batch/v1` job: `jobEngine` runs a command,
`helmHookJobEngine` a chart hook.  They differ in their parameters and in the
job they build; they share how a job is created, found, observed and deleted.
-/

namespace VWorkspace

open Kit EngineM

/-- The service account workloads run under unless the parameters name one. -/
def defaultJobServiceAccount : String := "vworkspace-operation-runner"

/-- The service account of a workload, given the one its parameters name. -/
def effectiveServiceAccount (name : String) : String :=
  if name ≠ "" then name else defaultJobServiceAccount

/-- How long a finished job stays unless the parameters say so. -/
def effectiveTTL (ttl : Option Int) : Option Int :=
  match ttl with
  | some t => some t
  | none => some 86400

structure JobParameters where
  image : String := ""
  command : List String := []
  args : List String := []
  env : Option (List (String × String)) := none
  serviceAccountName : String := ""
  backoffLimit : Option Int := none
  activeDeadlineSeconds : Option Int := none
  ttlSecondsAfterFinished : Option Int := none

def JobParameters.fields : List (StructField JobParameters) :=
  [.of "image" decodeString image fun x p => { p with image := x },
    .of "command" decodeStringSlice command fun x p => { p with command := x },
    .of "args" decodeStringSlice args fun x p => { p with args := x },
    .of "env" decodeStringMap env fun x p => { p with env := x },
    .of "serviceAccountName" decodeString serviceAccountName
      fun x p => { p with serviceAccountName := x },
    .of "backoffLimit" (decodeIntPtr 32 "int32") backoffLimit
      fun x p => { p with backoffLimit := x },
    .of "activeDeadlineSeconds" (decodeIntPtr 64 "int64") activeDeadlineSeconds
      fun x p => { p with activeDeadlineSeconds := x },
    .of "ttlSecondsAfterFinished" (decodeIntPtr 32 "int32") ttlSecondsAfterFinished
      fun x p => { p with ttlSecondsAfterFinished := x }]

structure HelmHookJobParameters where
  hookName : String := ""
  image : String := ""
  command : List String := []
  args : List String := []
  serviceAccountName : String := ""
  backoffLimit : Option Int := none
  activeDeadlineSeconds : Option Int := none
  ttlSecondsAfterFinished : Option Int := none

def HelmHookJobParameters.fields : List (StructField HelmHookJobParameters) :=
  [.of "hookName" decodeString hookName fun x p => { p with hookName := x },
    .of "image" decodeString image fun x p => { p with image := x },
    .of "command" decodeStringSlice command fun x p => { p with command := x },
    .of "args" decodeStringSlice args fun x p => { p with args := x },
    .of "serviceAccountName" decodeString serviceAccountName
      fun x p => { p with serviceAccountName := x },
    .of "backoffLimit" (decodeIntPtr 32 "int32") backoffLimit
      fun x p => { p with backoffLimit := x },
    .of "activeDeadlineSeconds" (decodeIntPtr 64 "int64") activeDeadlineSeconds
      fun x p => { p with activeDeadlineSeconds := x },
    .of "ttlSecondsAfterFinished" (decodeIntPtr 32 "int32") ttlSecondsAfterFinished
      fun x p => { p with ttlSecondsAfterFinished := x }]

/-- Decode the parameters of an operation; absent ones leave the zero value. -/
def parseParameters {σ : Type} (what struct : String) (fields : List (StructField σ)) (zero : σ)
    (op : Operation) : Except GoError σ :=
  match op.spec.parameters with
  | none => .ok zero
  | some raw =>
      match unmarshal struct fields raw zero with
      | .ok p => .ok p
      | .error e => .error { msg := "decode " ++ what ++ " parameters: " ++ e }

def parseJobParameters (op : Operation) : Except GoError JobParameters :=
  parseParameters "job" "jobParameters" JobParameters.fields {} op

def parseHelmHookJobParameters (op : Operation) : Except GoError HelmHookJobParameters :=
  parseParameters "helmHookJob" "helmHookJobParameters" HelmHookJobParameters.fields {} op

/-- The entries of a map in the order of their names, as `sort.Strings` gives it. -/
def sortByName (m : List (String × String)) : List (String × String) :=
  m.insertionSort fun a b => a.1 ≤ b.1

/-- `envFromMap`: the variables in the order of their names. -/
def envFromMap (env : Option (List (String × String))) : List (String × String) :=
  sortByName (env.getD [])

/-- `createMaterializedJob`: create the job unless a job of its name is there,
which must be the operation's own. -/
def createMaterializedJob (op : Operation) (job : Job) (ns : String) : EngineM Unit := do
  let k : ObjectKey := ⟨ns, materializedName op⟩
  match ← (getJob .getExisting k).mapError (·.wrap "get job") with
  | some existing => Prog.ofExcept (verifyOperationOwnership existing.metadata.labels op)
  | none =>
      let named := setOwnerReferenceIfSameNamespace op ns { job.metadata with name := k.name }
      createJob .create { job with metadata := named }

def commandJob (op : Operation) (ns : String) (params : JobParameters) : Job where
  metadata := { ns := ns, name := "", labels := applyOperationLabels [] op }
  spec := {
    backoffLimit := params.backoffLimit
    activeDeadlineSeconds := params.activeDeadlineSeconds
    ttlSecondsAfterFinished := effectiveTTL params.ttlSecondsAfterFinished
    template := {
      labels := applyOperationLabels [] op
      restartPolicy := "Never"
      serviceAccountName := effectiveServiceAccount params.serviceAccountName
      containers := [⟨"runner", params.image, params.command, params.args,
        envFromMap params.env⟩] } }

def jobMaterialize (op : Operation) (target : ApplicationInstance) : EngineM Unit := do
  let params ← Prog.ofExcept (parseJobParameters op)
  if params.image = "" then Prog.throw { msg := "parameters.image is required" }
  else
    let ns := targetNamespace target
    createMaterializedJob op (commandJob op ns params) ns

def helmHookNameLabel : String := "ops.vworkspace.io/hook-name"

def hookJob (op : Operation) (ns : String) (params : HelmHookJobParameters) : Job where
  metadata := {
    ns := ns
    name := ""
    labels := applyOperationLabels [(helmHookNameLabel, params.hookName)] op
    annotations := [("helm.sh/hook", params.hookName)] }
  spec := {
    backoffLimit := params.backoffLimit
    activeDeadlineSeconds := params.activeDeadlineSeconds
    ttlSecondsAfterFinished := effectiveTTL params.ttlSecondsAfterFinished
    template := {
      labels := applyOperationLabels [(helmHookNameLabel, params.hookName)] op
      restartPolicy := "Never"
      serviceAccountName := effectiveServiceAccount params.serviceAccountName
      containers := [⟨"hook", params.image, params.command, params.args, []⟩] } }

def helmHookJobMaterialize (op : Operation) (target : ApplicationInstance) : EngineM Unit := do
  let params ← Prog.ofExcept (parseHelmHookJobParameters op)
  if params.hookName = "" then Prog.throw { msg := "parameters.hookName is required" }
  else if params.image = "" then
    Prog.throw
      { msg := "parameters.image is required until hook template resolution is implemented" }
  else
    let ns := targetNamespace target
    createMaterializedJob op (hookJob op ns params) ns

/-- `statusFromJob`: the first condition that is a true `Complete` or `Failed`
decides. -/
def statusFromConditions (jobName : String) : List JobCondition → EngineStatus
  | [] => { phase := .running, reason := "EngineStarted" }
  | c :: cs =>
      match c.type, c.status with
      | .complete, .true =>
          { phase := .succeeded, reason := "EngineCompleted", done := true,
            outputs := [("jobName", jobName)] }
      | .failed, .true =>
          { phase := .failed, reason := "EngineFailed", message := c.message, done := true,
            failed := true, outputs := [("jobName", jobName)] }
      | _, _ => statusFromConditions jobName cs

def statusFromJob (job : Job) : EngineStatus :=
  statusFromConditions job.metadata.name job.conditions

/-- The job of an operation, or the error `Status` reports without one. -/
def observedJob (what : String) (op : Operation) : EngineM Job := do
  let k ← resolveEngineLocationForStatus op findJobLocationByOperationLabel
  match ← (getJob .statusGet k).mapError (·.wrap ("get " ++ what)) with
  | none => Prog.throw ⟨some .workloadMissing, Sentinel.workloadMissing.text⟩
  | some job => do
      Prog.ofExcept (verifyOperationOwnership job.metadata.labels op)
      pure job

def jobStatus (op : Operation) : EngineM EngineStatus := do
  let job ← observedJob "job" op
  pure (statusFromJob job)

/-- `HelmHookJobEngine.Status`: a running hook reports its job, too. -/
def helmHookJobStatus (op : Operation) : EngineM EngineStatus := do
  let job ← observedJob "hook job" op
  let status := statusFromJob job
  pure { status with outputs := setField "jobName" job.metadata.name status.outputs }

/-- `JobEngine.Cancel` and `HelmHookJobEngine.Cancel`: delete the job at its
place, or sweep by label where there is none. -/
def jobCancel (op : Operation) : EngineM Unit := do
  match ← resolveEngineLocation op with
  | none => deleteJobsLabeledByOperation op
  | some k =>
      match ← getJob .cancelGet k with
      | none => deleteJobsLabeledByOperation op
      | some _ => deleteJob .cancelDelete k none

def jobEngine : Engine := ⟨.job, jobMaterialize, jobStatus, jobCancel⟩

def helmHookJobEngine : Engine :=
  ⟨.helmHookJob, helmHookJobMaterialize, helmHookJobStatus, jobCancel⟩

end VWorkspace
