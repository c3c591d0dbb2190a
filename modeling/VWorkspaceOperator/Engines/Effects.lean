import VWorkspaceOperator.Engines.Registry

/-!
# What the engines do to the workloads

The effects of the built-in engines, said once: `Status` only reads, `Cancel`
only deletes, and `Materialize` creates or updates the one object the parameters
of the operation describe.
-/

namespace VWorkspace

open Kit Prog EngineM

variable {α : Type} {o : Unstructured} {w : Workloads} {name : OperationEngine} {engine : Engine}
  (s : Site) (kind : Kind) (k : ObjectKey) (what : String)

section effects

variable {env : EngineEnv} {P : Workloads → Prop} {E : WorkloadEvent → Prop}

theorem idle_call : Idle (call s) := by
  intro env w
  simp only [call]
  cases env.fault s <;> exact ⟨rfl, rfl⟩

theorem run_engine_call (hfault : ∀ s, env.fault s = none) (s : Site) (w : Workloads) :
    (call s).run env w = ⟨.ok (), w, []⟩ := by
  simp [call, hfault]

theorem idle_getInstance : Idle (getInstance s k) :=
  .bind (idle_call s) fun _ => .bind .ask fun _ => .pure _

theorem idle_read (f : Workloads → α) :
    Idle (do call s; let w ← Prog.get; pure (f w) : EngineM α) :=
  .bind (idle_call s) fun _ => .bind .get fun _ => .pure _

theorem idle_getJob : Idle (getJob s k) := idle_read s _

theorem idle_listJobs (label value : String) : Idle (listJobs s label value) :=
  idle_read s _

theorem idle_getObject : Idle (getObject s kind k) :=
  idle_read s _

theorem triple_read (f : Workloads → α) :
    Triple env P (do call s; let w ← Prog.get; pure (f w) : EngineM α) E
      (fun a w => P w ∧ a = f w) :=
  .bind (idle_call s).triple fun _ =>
    .bind (.get (Q := fun w' w => P w ∧ w' = w) fun _ h => ⟨h, rfl⟩) fun _ =>
      .pure fun _ h => ⟨h.1, h.2 ▸ rfl⟩

theorem triple_getJob :
    Triple env P (getJob s k) E (fun found w => P w ∧ found = w.jobs.get k) := triple_read s _

theorem triple_getObject :
    Triple env P (getObject s kind k) E
      (fun found w => P w ∧ found = (w.objects kind).get k) := triple_read s _

theorem idle_listObjects (label value : String) :
    Idle (listObjects s kind label value) := idle_read s _

theorem triple_readThen {Q : α → Workloads → Prop} {f : Workloads → EngineM α}
    (h : ∀ w, Triple env P (f w) E Q) : Triple env P (do call s; let w ← Prog.get; f w) E Q :=
  .bind (idle_call s).triple fun _ => .bind Idle.get.triple h

theorem triple_createJob {job : Job} (he : E (.jobCreated job)) :
    Triple env P (createJob s job) E (fun _ _ => True) := by
  refine triple_readThen s fun w => ?_
  split
  · exact .throw
  · exact .write he fun _ _ => trivial

theorem triple_deleteJob {k : ObjectKey} {policy : Option DeletionPropagation}
    (he : E (.jobDeleted k policy)) : Triple env P (deleteJob s k policy) E (fun _ _ => True) := by
  refine triple_readThen s fun w => ?_
  split
  · exact .write he fun _ _ => trivial
  · exact .pure fun _ _ => trivial

theorem triple_createObject {kind : Kind} (he : E (.created kind o)) :
    Triple env P (createObject s kind o) E (fun _ _ => True) := by
  refine triple_readThen s fun w => ?_
  split
  · exact .throw
  · exact .write he fun _ _ => trivial

theorem triple_updateObject {kind : Kind} (he : E (.updated kind o)) :
    Triple env P (updateObject s kind o) E (fun _ _ => True) := by
  refine triple_readThen s fun w => ?_
  split
  · exact .write he fun _ _ => trivial
  · exact .throw

theorem triple_deleteObject {kind : Kind} {k : ObjectKey} (he : E (.deleted kind k)) :
    Triple env P (deleteObject s kind k) E (fun _ _ => True) := by
  refine triple_readThen s fun w => ?_
  split
  · exact .write he fun _ _ => trivial
  · exact .pure fun _ _ => trivial

/-- What a create-or-update with this mutation does: it creates the mutation of
an empty object, or updates the object at its place to its mutation. -/
def PutBy (kind : Kind) (k : ObjectKey) (mutate : Unstructured → Except GoError Unstructured)
    (e : WorkloadEvent) : Prop :=
  (∃ o, mutate { metadata := { ns := k.ns, name := k.name } } = .ok o ∧ e = .created kind o) ∨
    ∃ o o', o.metadata.key = k ∧ mutate o = .ok o' ∧ e = .updated kind o'

theorem triple_createOrUpdate (mutate : Unstructured → Except GoError Unstructured) :
    Triple env P (createOrUpdate kind k mutate) (PutBy kind k mutate) (fun _ _ => True) := by
  refine .bind (triple_getObject _ kind k) fun found => ?_
  cases found with
  | none => exact .ofExcept_bind fun o ho => triple_createObject _ (.inl ⟨o, ho, rfl⟩)
  | some o =>
    refine .ofExcept_bind fun o' ho' => ?_
    split
    · exact .pure fun _ _ => trivial
    · rintro w ⟨-, hget⟩
      have hkey : o.metadata.key = k := Store.key_of_get hget.symm
      exact triple_updateObject (P := fun _ => True) _ (.inr ⟨o, o', hkey, ho', rfl⟩) w trivial

theorem trace_createOrUpdate_of_absent (hfault : ∀ s, env.fault s = none) {kind : Kind}
    {k : ObjectKey} {mutate : Unstructured → Except GoError Unstructured}
    (hmut : mutate { metadata := { ns := k.ns, name := k.name } } = .ok o)
    (hkey : o.metadata.key = k) (habsent : (w.objects kind).get k = none) :
    ((createOrUpdate kind k mutate).run env w).trace = [.created kind o] := by
  simp [createOrUpdate, getObject, createObject, run_bind, run_engine_call hfault, habsent, hmut,
    hkey]

theorem idle_resolveEngineLocation (op : Operation) : Idle (resolveEngineLocation op) := by
  unfold resolveEngineLocation
  simp only
  split
  · exact .pure _
  · exact .bind (.mapError (idle_getInstance _ _)) fun _ => .pure _

theorem idle_resolveEngineLocationForStatus (op : Operation)
    {fallback : Operation → EngineM ObjectKey} (h : Idle (fallback op)) :
    Idle (resolveEngineLocationForStatus op fallback) := by
  refine .bind (idle_resolveEngineLocation op) fun found => ?_
  cases found with
  | none => exact h
  | some k => exact .pure k

theorem idle_observedJob (op : Operation) : Idle (observedJob what op) := by
  refine .bind (idle_resolveEngineLocationForStatus op ?_) fun k => ?_
  · exact .bind (.mapError (idle_listJobs _ _ _)) fun _ => .ofExcept _
  · refine .bind (.mapError (idle_getJob _ _)) fun found => ?_
    cases found with
    | none => exact .throw _
    | some job => exact .bind (.ofExcept _) fun _ => .pure _

theorem idle_workflowStatus (op : Operation) : Idle (workflowStatus op) := by
  refine .bind (idle_resolveEngineLocationForStatus op ?_) fun k => ?_
  · exact .bind (.mapError (idle_listObjects _ _ _ _)) fun _ => .ofExcept _
  · refine .bind (.mapError (idle_getObject _ _ _)) fun found => ?_
    cases found with
    | none => exact .throw _
    | some wf => exact .bind (.ofExcept _) fun _ => .pure _

theorem idle_veleroStatus (ns : String) (op : Operation) : Idle (veleroStatus ns op) := by
  refine .bind (.mapError (idle_getObject _ _ _)) fun found => ?_
  cases found with
  | none => exact .throw _
  | some o => exact .pure _

theorem idle_status_builtin {veleroNs : String}
    (h : (builtinRegistry veleroNs).get name = some engine) (op : Operation) :
    Idle (engine.status op) := by
  have hmem := Registry.mem_of_get h
  simp only [builtinRegistry, List.mem_cons, List.not_mem_nil, or_false] at hmem
  rcases hmem with rfl | rfl | rfl | rfl | rfl
  · exact .pure _
  · exact idle_veleroStatus veleroNs op
  · exact .bind (idle_observedJob "job" op) fun _ => .pure _
  · exact idle_workflowStatus op
  · exact .bind (idle_observedJob "hook job" op) fun _ => .pure _

theorem run_engine_read (hfault : ∀ s, env.fault s = none) (s : Site) (f : Workloads → α) :
    (do call s; let w ← Prog.get; pure (f w) : EngineM α).run env w = ⟨.ok (f w), w, []⟩ := by
  rw [run_bind, run_engine_call hfault]
  rfl

theorem result_veleroStatus (hfault : ∀ s, env.fault s = none) (veleroNs : String) {op : Operation}
    (ho : (w.objects (veleroKind op)).get (veleroKey veleroNs op) = some o) :
    ((veleroStatus veleroNs op).run env w).result = .ok (statusFromVelero op o) := by
  have hread : (getObject .statusGet (veleroKind op) (veleroKey veleroNs op)).run env w =
      ⟨.ok (some o), w, []⟩ := by
    rw [← ho]; exact run_engine_read hfault _ _
  simp only [veleroStatus, run_bind, run_mapError, hread, Except.mapError]
  rfl

def WorkloadEvent.apply : WorkloadEvent → Workloads → Workloads
  | .jobCreated job, w => { w with jobs := w.jobs.put job }
  | .jobDeleted k _, w => { w with jobs := w.jobs.erase k }
  | .created kind o, w => w.setObjects kind ((w.objects kind).put o)
  | .updated kind o, w => w.setObjects kind ((w.objects kind).put o)
  | .deleted kind k, w => w.setObjects kind ((w.objects kind).erase k)

/-- The trace of an engine's program is a journal of the workloads. -/
abbrev WorkloadsLogged {α : Type} (x : EngineM α) : Prop :=
  Logged (fun w => w) WorkloadEvent.apply x

theorem logged_readThen {f : Workloads → EngineM α} (h : ∀ w, WorkloadsLogged (f w)) :
    WorkloadsLogged (do call s; let w ← Prog.get; f w) :=
  .bind (.of_idle (idle_call s)) fun _ => .bind (.of_idle .get) h

theorem logged_createObject (o : Unstructured) : WorkloadsLogged (createObject s kind o) := by
  refine logged_readThen s fun w => ?_
  split
  · exact .of_idle (.throw _)
  · exact .write fun _ => rfl

theorem logged_updateObject (o : Unstructured) : WorkloadsLogged (updateObject s kind o) := by
  refine logged_readThen s fun w => ?_
  split
  · exact .write fun _ => rfl
  · exact .of_idle (.throw _)

theorem logged_deleteObject : WorkloadsLogged (deleteObject s kind k) := by
  refine logged_readThen s fun w => ?_
  split
  · exact .write fun _ => rfl
  · exact .of_idle (.pure _)

theorem logged_deleteJob (policy : Option DeletionPropagation) :
    WorkloadsLogged (deleteJob s k policy) := by
  refine logged_readThen s fun w => ?_
  split
  · exact .write fun _ => rfl
  · exact .of_idle (.pure _)

/-- The event is a deletion that leaves alone what the deleted object owns. -/
def WorkloadEvent.isDeletion : WorkloadEvent → Bool
  | .jobDeleted _ propagation => propagation.isNone
  | .deleted _ _ => true
  | _ => false

def OnlyDeletes {α : Type} (x : EngineM α) : Prop :=
  ∀ env, Triple env (fun _ => True) x (fun e => e.isDeletion = true) (fun _ _ => True)

theorem triple_deleteObjects {kind : Kind} {ks : List ObjectKey} (i : ℕ)
    (he : ∀ k ∈ ks, E (.deleted kind k)) :
    Triple env P (deleteObjects kind what i ks) E (fun _ _ => True) := by
  induction ks generalizing i P with
  | nil => exact .pure fun _ _ => trivial
  | cons k ks ih =>
    exact .bind (.mapError (triple_deleteObject _ (he k List.mem_cons_self))) fun _ =>
      ih (i + 1) fun k' hk' => he k' (List.mem_cons_of_mem _ hk')

/-- The program only deletes, and its trace is a journal of that. -/
structure Deletes {α : Type} (x : EngineM α) : Prop where
  only : OnlyDeletes x
  logged : WorkloadsLogged x

namespace Deletes

variable {β : Type} {x : EngineM α}

theorem of_idle (h : Idle x) : Deletes x :=
  ⟨fun _ => h.triple.post fun _ _ _ => trivial, .of_idle h⟩

theorem bind {f : α → EngineM β} (hx : Deletes x) (hf : ∀ a, Deletes (f a)) : Deletes (x >>= f) :=
  ⟨fun env => .bind (hx.only env) fun a => (hf a).only env, .bind hx.logged fun a => (hf a).logged⟩

theorem mapError {f : GoError → GoError} (hx : Deletes x) : Deletes (x.mapError f) :=
  ⟨fun env => .mapError (hx.only env), .mapError hx.logged⟩

end Deletes

theorem deletes_deleteJob : Deletes (deleteJob s k none) :=
  ⟨fun _ => triple_deleteJob _ rfl, logged_deleteJob _ _ _⟩

theorem deletes_deleteObject : Deletes (deleteObject s kind k) :=
  ⟨fun _ => triple_deleteObject _ rfl, logged_deleteObject _ _ _⟩

theorem deletes_deleteJobs (i : ℕ) (ks : List ObjectKey) : Deletes (deleteJobs i ks) := by
  induction ks generalizing i with
  | nil => exact .of_idle (.pure _)
  | cons k ks ih => exact .bind (.mapError (deletes_deleteJob _ _)) fun _ => ih (i + 1)

theorem deletes_deleteObjects (i : ℕ) (ks : List ObjectKey) :
    Deletes (deleteObjects kind what i ks) := by
  induction ks generalizing i with
  | nil => exact .of_idle (.pure _)
  | cons k ks ih => exact .bind (.mapError (deletes_deleteObject _ _ _)) fun _ => ih (i + 1)

theorem deletes_deleteJobsLabeledByOperation (op : Operation) :
    Deletes (deleteJobsLabeledByOperation op) :=
  .bind (.mapError (.of_idle (idle_listJobs _ _ _))) fun _ => deletes_deleteJobs _ _

theorem deletes_deleteObjectsLabeledByOperation (op : Operation) :
    Deletes (deleteObjectsLabeledByOperation kind what op) :=
  .bind (.mapError (.of_idle (idle_listObjects _ _ _ _))) fun _ => deletes_deleteObjects _ _ _ _

theorem deletes_jobCancel (op : Operation) : Deletes (jobCancel op) := by
  refine .bind (.of_idle (idle_resolveEngineLocation op)) fun found => ?_
  cases found with
  | none => exact deletes_deleteJobsLabeledByOperation op
  | some k =>
    refine .bind (.of_idle (idle_getJob _ k)) fun job => ?_
    cases job with
    | none => exact deletes_deleteJobsLabeledByOperation op
    | some _ => exact deletes_deleteJob _ _

theorem deletes_workflowCancel (op : Operation) : Deletes (workflowCancel op) := by
  refine .bind (.of_idle (idle_resolveEngineLocation op)) fun found => ?_
  cases found with
  | none => exact deletes_deleteObjectsLabeledByOperation _ _ op
  | some k =>
    refine .bind (.of_idle (idle_getObject _ _ k)) fun wf => ?_
    cases wf with
    | none => exact deletes_deleteObjectsLabeledByOperation _ _ op
    | some _ => exact deletes_deleteObject _ _ _

theorem deletes_veleroCancel (ns : String) (op : Operation) : Deletes (veleroCancel ns op) :=
  .bind (.mapError (deletes_deleteObject _ _ _)) fun _ =>
    .bind (deletes_deleteObjectsLabeledByOperation _ _ op) fun _ =>
      .mapError (deletes_deleteObject _ _ _)

theorem cancel_builtin {veleroNs : String} (h : (builtinRegistry veleroNs).get name = some engine)
    (op : Operation) : Deletes (engine.cancel op) := by
  have hmem := Registry.mem_of_get h
  simp only [builtinRegistry, List.mem_cons, List.not_mem_nil, or_false] at hmem
  rcases hmem with rfl | rfl | rfl | rfl | rfl
  · exact .of_idle (.pure _)
  · exact deletes_veleroCancel veleroNs op
  · exact deletes_jobCancel op
  · exact deletes_workflowCancel op
  · exact deletes_jobCancel op

/-- The job `createMaterializedJob` creates: it has a name and, in the namespace
of the operation, an owner. -/
def materializedJob (op : Operation) (job : Job) (ns : String) : Job :=
  { job with metadata :=
      setOwnerReferenceIfSameNamespace op ns { job.metadata with name := materializedName op } }

def materializedWorkflow (op : Operation) (ns : String) (body : Fields) : Unstructured :=
  ⟨setOwnerReferenceIfSameNamespace op ns
    { ns := ns, name := materializedName op, labels := applyOperationLabels [] op }, body⟩

theorem triple_createMaterializedJob (op : Operation) (job : Job) (ns : String)
    (he : E (.jobCreated (materializedJob op job ns))) :
    Triple env P (createMaterializedJob op job ns) E (fun _ _ => True) := by
  refine .bind (.mapError (idle_getJob _ _).triple) fun found => ?_
  cases found with
  | none => exact triple_createJob _ he
  | some existing => exact .ofExcept fun _ _ _ _ => trivial

/-- What `VeleroEngine.Materialize` does: it writes a backup, or a restore of the
backup the parameters name. -/
def VeleroPut (veleroNs : String) (op : Operation) (target : ApplicationInstance)
    (e : WorkloadEvent) : Prop :=
  ∃ params, parseVeleroParameters op = .ok params ∧
    (op.spec.type = .backup ∧
        PutBy .backup (veleroKey veleroNs op) (mutateBackup op (targetNamespace target) params) e ∨
      op.spec.type = .restore ∧ params.backupName ≠ "" ∧
        PutBy .restore (veleroKey veleroNs op) (mutateRestore op params) e)

/-- What the `Materialize` of the engine of an operation does: at most one object
is created or updated, and it is the one the parameters describe. -/
def Materialized (veleroNs : String) (op : Operation) (target : ApplicationInstance)
    (e : WorkloadEvent) : Prop :=
  let ns := targetNamespace target
  match op.spec.engine with
  | .job => ∃ params, parseJobParameters op = .ok params ∧
      e = .jobCreated (materializedJob op (commandJob op ns params) ns)
  | .helmHookJob => ∃ params, parseHelmHookJobParameters op = .ok params ∧
      e = .jobCreated (materializedJob op (hookJob op ns params) ns)
  | .workflow => ∃ params body, parseWorkflowParameters op = .ok params ∧
      workflowBody params = .ok body ∧ e = .created .workflow (materializedWorkflow op ns body)
  | .helm => ∃ params release, target.spec.release = some release ∧
      PutBy .helmRelease ⟨target.metadata.ns, release.name⟩ (patchHelmRelease params) e
  | .velero => VeleroPut veleroNs op target e
  | _ => False

variable {veleroNs : String} {op : Operation} {target : ApplicationInstance}

theorem triple_jobMaterialize (hname : op.spec.engine = .job) :
    Triple env P (jobMaterialize op target) (Materialized veleroNs op target)
      (fun _ _ => True) := by
  refine .ofExcept_bind fun params hparams => ?_
  split
  · exact .throw
  · refine triple_createMaterializedJob op _ _ ?_
    simp only [Materialized, hname]
    exact ⟨params, hparams, rfl⟩

theorem triple_helmHookJobMaterialize (hname : op.spec.engine = .helmHookJob) :
    Triple env P (helmHookJobMaterialize op target) (Materialized veleroNs op target)
      (fun _ _ => True) := by
  refine .ofExcept_bind fun params hparams => ?_
  split
  · exact .throw
  · split
    · exact .throw
    · refine triple_createMaterializedJob op _ _ ?_
      simp only [Materialized, hname]
      exact ⟨params, hparams, rfl⟩

theorem triple_workflowMaterialize (hname : op.spec.engine = .workflow) :
    Triple env P (workflowMaterialize op target) (Materialized veleroNs op target)
      (fun _ _ => True) := by
  refine .ofExcept_bind fun params hparams => ?_
  split
  · exact .throw
  · refine .bind (.mapError (idle_getObject _ _ _).triple) fun found => ?_
    cases found with
    | some existing => exact .ofExcept fun _ _ _ _ => trivial
    | none =>
      refine .ofExcept_bind fun body hbody => .mapError (triple_createObject _ ?_)
      simp only [Materialized, hname]
      exact ⟨params, body, hparams, hbody, rfl⟩

theorem triple_helmMaterialize (hname : op.spec.engine = .helm) :
    Triple env P (helmMaterialize op target) (Materialized veleroNs op target)
      (fun _ _ => True) := by
  refine .ofExcept_bind fun params hparams => ?_
  split
  · exact .throw
  · next release hrelease =>
    refine .bind (.mapError (idle_getObject _ _ _).triple) fun found => ?_
    cases found with
    | none => exact .throw
    | some _ =>
      refine .events (triple_createOrUpdate _ _ _) fun e he => ?_
      simp only [Materialized, hname]
      exact ⟨params, release, hrelease, he⟩

theorem triple_veleroMaterialize :
    Triple env P (veleroMaterialize veleroNs op target) (VeleroPut veleroNs op target)
      (fun _ _ => True) := by
  refine .ofExcept_bind fun params hparams => ?_
  split
  · next htype =>
    exact .events (triple_createOrUpdate _ _ _) fun e he => ⟨params, hparams, .inl ⟨htype, he⟩⟩
  · next htype =>
    unfold materializeRestore
    split
    · exact .throw
    · next hbackup =>
      exact .events (triple_createOrUpdate _ _ _) fun e he =>
        ⟨params, hparams, .inr ⟨htype, hbackup, he⟩⟩
  · exact .throw

theorem materialize_builtin {e : WorkloadEvent}
    (h : (builtinRegistry veleroNs).get op.spec.engine = some engine)
    (he : e ∈ ((engine.materialize op target).run env w).trace) :
    Materialized veleroNs op target e := by
  suffices htriple : Triple env (fun _ => True) (engine.materialize op target)
    (Materialized veleroNs op target) (fun _ _ => True) from (htriple w trivial).1 e he
  rw [get_builtinRegistry] at h
  cases hname : op.spec.engine with
  | unset => rw [hname] at h; exact absurd h (by simp)
  | volsync => rw [hname] at h; exact absurd h (by simp)
  | helm => rw [hname] at h; exact Option.some.inj h ▸ triple_helmMaterialize hname
  | velero =>
    rw [hname] at h
    refine Option.some.inj h ▸ triple_veleroMaterialize.events (fun e he => ?_)
    simpa only [Materialized, hname] using he
  | job => rw [hname] at h; exact Option.some.inj h ▸ triple_jobMaterialize hname
  | workflow => rw [hname] at h; exact Option.some.inj h ▸ triple_workflowMaterialize hname
  | helmHookJob => rw [hname] at h; exact Option.some.inj h ▸ triple_helmHookJobMaterialize hname

theorem logged_createOrUpdate (mutate : Unstructured → Except GoError Unstructured) :
    WorkloadsLogged (createOrUpdate kind k mutate) := by
  refine .bind (.of_idle (idle_getObject _ kind k)) fun found => ?_
  cases found with
  | none => exact .bind (.of_idle (.ofExcept _)) fun o => logged_createObject _ _ _
  | some o =>
    refine .bind (.of_idle (.ofExcept _)) fun o' => ?_
    split
    · exact .of_idle (.pure _)
    · exact logged_updateObject _ _ _

theorem logged_veleroMaterialize : WorkloadsLogged (veleroMaterialize veleroNs op target) := by
  refine .bind (.of_idle (.ofExcept _)) fun params => ?_
  split
  · exact logged_createOrUpdate _ _ _
  · unfold materializeRestore
    split
    · exact .of_idle (.throw _)
    · exact logged_createOrUpdate _ _ _
  · exact .of_idle (.throw _)

end effects

end VWorkspace
