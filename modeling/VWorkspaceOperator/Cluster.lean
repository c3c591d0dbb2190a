import VWorkspaceOperator.Api
import VWorkspaceOperator.Kit.Prog

/-!
# The cluster as the operation controller sees it

The stores behind the API server, and the calls the controller and its engines
make on them.  Reads return the current store.  Every call site of the source
may fail on its own: `fault` names, for one reconcile, the error each site
gets; a failed call has no effect.  "Not found" is no fault but the answer of
an empty place in the store.

Engines only ever write workloads, so their calls run on the `Workloads` part
of the cluster alone, and no engine can touch an operation by mistake.
-/

namespace VWorkspace

open Kit

structure Container where
  name : String
  image : String
  command : List String := []
  args : List String := []
  env : List (String × String) := []
  deriving DecidableEq, Repr

structure PodTemplate where
  labels : List (String × String)
  restartPolicy : String
  serviceAccountName : String
  containers : List Container
  deriving DecidableEq, Repr

structure JobSpec where
  backoffLimit : Option Int := none
  activeDeadlineSeconds : Option Int := none
  ttlSecondsAfterFinished : Option Int := none
  template : PodTemplate
  deriving DecidableEq, Repr

inductive JobConditionType where
  | complete
  | failed
  | other (name : String)
  deriving DecidableEq, Repr

structure JobCondition where
  type : JobConditionType
  status : ConditionStatus
  message : String := ""
  deriving DecidableEq, Repr

structure Job where
  metadata : ObjectMeta
  spec : JobSpec
  conditions : List JobCondition := []
  deriving DecidableEq, Repr

instance : Keyed Job ObjectKey := ⟨fun j => j.metadata.key⟩

inductive Kind where
  | workflow
  | backup
  | restore
  | helmRelease
  deriving DecidableEq, Repr

def Kind.text : Kind → String
  | .workflow => "Workflow"
  | .backup => "Backup"
  | .restore => "Restore"
  | .helmRelease => "HelmRelease"

def Kind.resource : Kind → String
  | .workflow => "workflows.argoproj.io"
  | .backup => "backups.velero.io"
  | .restore => "restores.velero.io"
  | .helmRelease => "helmreleases.helm.toolkit.fluxcd.io"

/-- An unstructured object: its metadata and the members beside it. -/
structure Unstructured where
  metadata : ObjectMeta
  body : Fields := []
  deriving DecidableEq, Repr

instance : Keyed Unstructured ObjectKey := ⟨fun o => o.metadata.key⟩

structure Workloads where
  jobs : Store Job
  objects : Kind → Store Unstructured

def Workloads.empty : Workloads := ⟨Store.empty, fun _ => Store.empty⟩

def Workloads.setObjects (w : Workloads) (k : Kind) (s : Store Unstructured) : Workloads :=
  { w with objects := fun k' => if k' = k then s else w.objects k' }

@[simp] theorem Workloads.objects_setObjects_self (w : Workloads) (k : Kind)
    (s : Store Unstructured) : (w.setObjects k s).objects k = s := if_pos rfl

theorem Workloads.objects_setObjects_of_ne (w : Workloads) {k k' : Kind} (s : Store Unstructured)
    (h : k' ≠ k) : (w.setObjects k s).objects k' = w.objects k' := if_neg h

@[simp] theorem Workloads.jobs_setObjects (w : Workloads) (k : Kind) (s : Store Unstructured) :
    (w.setObjects k s).jobs = w.jobs := rfl

@[simp] theorem Workloads.setObjects_self (w : Workloads) (kind : Kind) : w.setObjects kind (w.objects kind) = w := by
  have h : (fun k' => if k' = kind then w.objects kind else w.objects k') = w.objects := by
    funext k'
    split
    · next h => rw [h]
    · rfl
  rw [Workloads.setObjects, h]

@[simp] theorem Workloads.setObjects_setObjects (w : Workloads) (kind : Kind) (s s' : Store Unstructured) :
    (w.setObjects kind s).setObjects kind s' = w.setObjects kind s' := by
  simp only [Workloads.setObjects, Workloads.mk.injEq, true_and]
  funext k'
  split <;> rfl

structure Cluster where
  operations : Store Operation
  instances : Store ApplicationInstance
  workloads : Workloads

/-- The API call sites.  In one reconcile each of them is reached at most once,
the deletions of a label sweep once for each listed object. -/
inductive Site where
  | getOperation
  | addFinalizer
  | getTarget
  | listOperations
  | updateBlocked
  | updateRunning
  | updateBackfill
  | updateStartedAt
  | updateFailed
  | updateTerminal
  | updateInFlight
  | removeFinalizer
  | getExisting
  | createOrUpdateGet
  | create
  | update
  | resolveTarget
  | statusList
  | statusGet
  | cancelGet
  | cancelDelete
  | cancelList
  | cancelDeleteItem (i : ℕ)
  | cancelLegacyDelete
  deriving DecidableEq, Repr

/-- What a delete call does with the objects that the deleted one owns. -/
inductive DeletionPropagation where
  /-- They are released and stay. -/
  | orphan
  /-- They are deleted afterwards. -/
  | background
  /-- They are deleted first. -/
  | foreground
  deriving DecidableEq, Repr

inductive WorkloadEvent where
  | jobCreated (j : Job)
  /-- A delete call, with the policy in its options. -/
  | jobDeleted (k : ObjectKey) (propagation : Option DeletionPropagation)
  | created (kind : Kind) (o : Unstructured)
  | updated (kind : Kind) (o : Unstructured)
  | deleted (kind : Kind) (k : ObjectKey)

inductive Event where
  /-- `approvalclaim.Verify` accepted a claim. -/
  | verified (secret claim operationName : String)
  /-- `engine.Materialize` was called. -/
  | materialize (op : Operation)
  /-- A status update took effect; the operation as it is now stored. -/
  | statusWritten (op : Operation)
  /-- An update of the metadata took effect. -/
  | metadataWritten (op : Operation)
  /-- The object left the store with its last finalizer. -/
  | removed (k : ObjectKey)
  /-- The conditions of an operation were reported, against those before. -/
  | reported (op : Operation) (prev : List Condition)
  /-- An engine did something. -/
  | workload (e : WorkloadEvent)

/-- What an engine call depends on besides the workloads. -/
structure EngineEnv where
  /-- The error a call site gets, if it fails. -/
  fault : Site → Option String
  /-- The instances, which the engines read to find their target. -/
  instances : Store ApplicationInstance

/-- What a reconcile of an operation depends on besides the cluster. -/
structure Env where
  /-- The clock, in seconds. -/
  now : ℕ
  /-- The error a call site gets, if it fails. -/
  fault : Site → Option String := fun _ => none
  /-- Whether the API server takes new finalizers for an object that is being deleted. -/
  takesFinalizers : Bool := false

abbrev EngineM := Prog EngineEnv Workloads WorkloadEvent GoError

abbrev Ctl := Prog Env Cluster Event GoError

def notFound (resource name : String) : GoError :=
  { msg := resource ++ " " ++ goQuote name ++ " not found" }

def alreadyExists (resource name : String) : GoError :=
  { msg := resource ++ " " ++ goQuote name ++ " already exists" }

/-- What the API server makes of an update of an object. -/
inductive UpdateAnswer where
  | refused (err : GoError)
  /-- The object goes, with its last finalizer. -/
  | removed
  /-- The object is stored as it was sent. -/
  | stored

/-- The answer to an update, by the metadata that is stored and the metadata that is sent.  An
object that is being deleted goes with its last finalizer; whether it may get new ones is up to
the server. -/
def answerUpdate (takesFinalizers : Bool) (stored sent : ObjectMeta) : UpdateAnswer :=
  if stored.deletionTimestamp.isNone then .stored
  else if takesFinalizers || sent.finalizers.all fun f => f ∈ stored.finalizers then
    if sent.finalizers = [] then .removed else .stored
  else .refused { msg := "metadata.finalizers: Forbidden: no new finalizers can be added " ++
    "if the object is being deleted" }

section answerUpdate

variable {takesFinalizers : Bool} {stored sent : ObjectMeta}

theorem of_answerUpdate_removed (h : answerUpdate takesFinalizers stored sent = .removed) :
    stored.deletionTimestamp.isSome ∧ sent.finalizers = [] := by
  unfold answerUpdate at h
  split_ifs at h with hlive _ hnil
  exact ⟨by simpa [Option.isSome_iff_ne_none] using hlive, hnil⟩

theorem answerUpdate_of_live (h : stored.deletionTimestamp = none) :
    answerUpdate takesFinalizers stored sent = .stored := by
  simp [answerUpdate, h]

theorem answerUpdate_ne_refused (h : ∀ f ∈ sent.finalizers, f ∈ stored.finalizers) (err : GoError) :
    answerUpdate takesFinalizers stored sent ≠ .refused err := by
  have hall : (sent.finalizers.all fun f => f ∈ stored.finalizers) = true := by simpa using h
  simp only [answerUpdate, hall, Bool.or_true, if_true]
  split_ifs <;> simp

end answerUpdate

namespace EngineM

/-- An API call that does nothing yet: it fails if its site does. -/
def call (s : Site) : EngineM Unit where
  run env w :=
    match env.fault s with
    | none => ⟨.ok (), w, []⟩
    | some msg => ⟨.error { msg }, w, []⟩

def getInstance (s : Site) (k : ObjectKey) : EngineM (Option ApplicationInstance) := do
  call s
  let env ← Prog.ask
  pure (env.instances.get k)

def getJob (s : Site) (k : ObjectKey) : EngineM (Option Job) := do
  call s
  let w ← Prog.get
  pure (w.jobs.get k)

def listJobs (s : Site) (label value : String) : EngineM (List Job) := do
  call s
  let w ← Prog.get
  pure (w.jobs.items.filter fun j => j.metadata.labels.lookup label = some value)

def createJob (s : Site) (j : Job) : EngineM Unit := do
  call s
  let w ← Prog.get
  if (w.jobs.get j.metadata.key).isSome then
    Prog.throw (alreadyExists "jobs.batch" j.metadata.name)
  else
    Prog.write (fun w => { w with jobs := w.jobs.put j }) (.jobCreated j)

/-- `Delete` of a job; an absent one counts as deleted.  The label sweeps ignore
"not found", and `Cancel` has just read the job it deletes. -/
def deleteJob (s : Site) (k : ObjectKey) (propagation : Option DeletionPropagation) :
    EngineM Unit := do
  call s
  let w ← Prog.get
  if (w.jobs.get k).isSome then
    Prog.write (fun w => { w with jobs := w.jobs.erase k }) (.jobDeleted k propagation)
  else pure ()

def getObject (s : Site) (kind : Kind) (k : ObjectKey) : EngineM (Option Unstructured) := do
  call s
  let w ← Prog.get
  pure ((w.objects kind).get k)

def listObjects (s : Site) (kind : Kind) (label value : String) : EngineM (List Unstructured) := do
  call s
  let w ← Prog.get
  pure ((w.objects kind).items.filter fun o => o.metadata.labels.lookup label = some value)

def createObject (s : Site) (kind : Kind) (o : Unstructured) : EngineM Unit := do
  call s
  let w ← Prog.get
  if ((w.objects kind).get o.metadata.key).isSome then
    Prog.throw (alreadyExists kind.resource o.metadata.name)
  else
    Prog.write (fun w => w.setObjects kind ((w.objects kind).put o)) (.created kind o)

def updateObject (s : Site) (kind : Kind) (o : Unstructured) : EngineM Unit := do
  call s
  let w ← Prog.get
  if ((w.objects kind).get o.metadata.key).isSome then
    Prog.write (fun w => w.setObjects kind ((w.objects kind).put o)) (.updated kind o)
  else
    Prog.throw (notFound kind.resource o.metadata.name)

/-- `Delete` of an unstructured object; an absent one counts as deleted, as all
callers ignore "not found" here. -/
def deleteObject (s : Site) (kind : Kind) (k : ObjectKey) : EngineM Unit := do
  call s
  let w ← Prog.get
  if ((w.objects kind).get k).isSome then
    Prog.write (fun w => w.setObjects kind ((w.objects kind).erase k)) (.deleted kind k)
  else pure ()

/-- `controllerutil.CreateOrUpdate`: create the mutated object if there is
none, update it if the mutation changed it. -/
def createOrUpdate (kind : Kind) (k : ObjectKey)
    (mutate : Unstructured → Except GoError Unstructured) : EngineM Unit := do
  match ← getObject .createOrUpdateGet kind k with
  | none =>
      let o ← Prog.ofExcept (mutate { metadata := { ns := k.ns, name := k.name } })
      createObject .create kind o
  | some o =>
      let o' ← Prog.ofExcept (mutate o)
      if o' = o then pure () else updateObject .update kind o'

end EngineM

namespace Ctl

/-- An API call that does nothing yet: it fails if its site does. -/
def call (s : Site) : Ctl Unit where
  run env c :=
    match env.fault s with
    | none => ⟨.ok (), c, []⟩
    | some msg => ⟨.error { msg }, c, []⟩

def now : Ctl ℕ := do
  let env ← Prog.ask
  pure env.now

def getOperation (k : ObjectKey) : Ctl (Option Operation) := do
  call .getOperation
  let c ← Prog.get
  pure (c.operations.get k)

def getTarget (k : ObjectKey) : Ctl (Option ApplicationInstance) := do
  call .getTarget
  let c ← Prog.get
  pure (c.instances.get k)

def listOperations (ns : String) : Ctl (List Operation) := do
  call .listOperations
  let c ← Prog.get
  pure (c.operations.items.filter fun op => op.metadata.ns = ns)

/-- `Status().Update`: write the status of `op` and nothing else.  The answer
is the operation as it is now stored. -/
def updateStatus (s : Site) (op : Operation) : Ctl Operation := do
  call s
  let c ← Prog.get
  match c.operations.get op.key with
  | none => Prog.throw (notFound "operations.ops.vworkspace.io" op.metadata.name)
  | some stored =>
      let op' := stored.withStatus op.status
      Prog.write (fun c => { c with operations := c.operations.put op' }) (.statusWritten op')
      pure op'

/-- `Update`: write `op` as it is, up to the status, which is a subresource and stays. -/
def updateMetadata (s : Site) (op : Operation) : Ctl Unit := do
  call s
  let env ← Prog.ask
  let c ← Prog.get
  match c.operations.get op.key with
  | none => Prog.throw (notFound "operations.ops.vworkspace.io" op.metadata.name)
  | some stored =>
      match answerUpdate env.takesFinalizers stored.metadata op.metadata with
      | .refused err => Prog.throw err
      | .removed =>
          Prog.write (fun c => { c with operations := c.operations.erase op.key }) (.removed op.key)
      | .stored =>
          let op' := { op with status := stored.status }
          Prog.write (fun c => { c with operations := c.operations.put op' }) (.metadataWritten op')

/-- Run a program of an engine on the workloads of the cluster. -/
def runEngine {α : Type} (x : EngineM α) : Ctl α :=
  x.lift (fun env c => ⟨env.fault, c.instances⟩) Cluster.workloads
    (fun w c => { c with workloads := w }) Event.workload

end Ctl

end VWorkspace
