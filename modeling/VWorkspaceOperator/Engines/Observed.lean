import VWorkspaceOperator.Engines.Placement

/-!
# What an engine says of its work

`Status` of a built-in engine tells how the work ended, or that it goes on, and says so twice:
with the phase and with the flags `done` and `failed`.  When it cannot look, the error carries
a sentinel only if the workload is missing, is another operation's or is not the only one.  None
of the three happens to an operation whose workload is where `Materialize` has put it.
-/

namespace VWorkspace

open Kit Prog EngineM

variable {veleroNs : String} {name : OperationEngine} {engine : Engine}

structure EngineStatus.Decided (es : EngineStatus) : Prop where
  /-- A final report says how the work ended. -/
  ended : es.done = true → es.phase = if es.failed then .failed else .succeeded
  /-- Any other report says that the work goes on. -/
  ongoing : es.done = false → es.phase = .running

theorem decided_statusFromConditions (jobName : String) (cs : List JobCondition) :
    (statusFromConditions jobName cs).Decided := by
  induction cs with
  | nil => exact ⟨fun h => absurd h (by simp [statusFromConditions]), fun _ => rfl⟩
  | cons c cs ih =>
    unfold statusFromConditions
    split
    · exact ⟨fun _ => rfl, fun h => absurd h (by simp)⟩
    · exact ⟨fun _ => rfl, fun h => absurd h (by simp)⟩
    · exact ih

theorem decided_statusFromWorkflow (wf : Unstructured) : (statusFromWorkflow wf).Decided := by
  unfold statusFromWorkflow
  simp only
  split <;> exact ⟨fun h => by simp_all, fun h => by simp_all⟩

theorem decided_statusFromVelero (op : Operation) (o : Unstructured) :
    (statusFromVelero op o).Decided := by
  unfold statusFromVelero
  split <;> exact ⟨fun h => by simp_all, fun h => by simp_all⟩

theorem decided_of_status (h : (builtinRegistry veleroNs).get name = some engine) {op : Operation}
    {env : EngineEnv} {w : Workloads} {es : EngineStatus}
    (hes : ((engine.status op).run env w).result = .ok es) : es.Decided := by
  have hmem := Registry.mem_of_get h
  simp only [builtinRegistry, List.mem_cons, List.not_mem_nil, or_false] at hmem
  have htriple : Triple env (fun _ => True) (engine.status op) (fun _ => True)
      (fun es _ => es.Decided) := by
    rcases hmem with rfl | rfl | rfl | rfl | rfl
    · exact .pure fun _ _ => ⟨fun h => absurd h (by simp), fun _ => rfl⟩
    · refine .bind .top fun found => ?_
      cases found with
      | none => exact .throw
      | some o => exact .pure fun _ _ => decided_statusFromVelero op o
    · exact .bind .top fun job => .pure fun _ _ => decided_statusFromConditions _ job.conditions
    · refine .bind .top fun _ => .bind .top fun found => ?_
      cases found with
      | none => exact .throw
      | some wf => exact .bind .top fun _ => .pure fun _ _ => decided_statusFromWorkflow wf
    · refine .bind .top fun job => .pure fun _ _ => ?_
      obtain ⟨hended, hongoing⟩ := decided_statusFromConditions job.metadata.name job.conditions
      exact ⟨hended, hongoing⟩
  exact (htriple w trivial).2 es hes

/-- The workload of an operation is at the place `k`, with the operation's label.  Engines that do
not look for the label have nothing to lose. -/
def InPlace (name : OperationEngine) (op : Operation) (k : ObjectKey) (w : Workloads) : Prop :=
  match name with
  | .job | .helmHookJob => ∃ job, w.jobs.get k = some job ∧
      verifyOperationOwnership job.metadata.labels op = .ok ()
  | .workflow => ∃ wf, (w.objects .workflow).get k = some wf ∧
      verifyOperationOwnership wf.metadata.labels op = .ok ()
  | _ => True

section materialize

variable {env : EngineEnv} {op : Operation} {target : ApplicationInstance}

theorem triple_createMaterializedJob_inPlace {job : Job} {ns : String}
    (hns : job.metadata.ns = ns)
    (hlabels : job.metadata.labels.lookup operationLabelKey = some op.metadata.uid) :
    Triple env (fun _ => True) (createMaterializedJob op job ns) (fun _ => True)
      (fun _ w => ∃ job, w.jobs.get ⟨ns, materializedName op⟩ = some job ∧
        verifyOperationOwnership job.metadata.labels op = .ok ()) := by
  refine .bind (.mapError (triple_getJob _ _)) fun found => ?_
  cases found with
  | some existing =>
    exact .ofExcept fun _ w hok hw => ⟨existing, hw.2.symm, hok⟩
  | none =>
    refine .bind (idle_call _).triple fun _ => .bind (.get (Q := fun _ _ => True) fun _ _ => trivial)
      fun w => ?_
    split
    · exact .throw
    · refine .write trivial fun w' _ => ⟨materializedJob op job ns, ?_, ?_⟩
      · have hkey : (materializedJob op job ns).metadata.key = ⟨ns, materializedName op⟩ := by
          simp [materializedJob, ObjectMeta.key, hns]
        have hput := Store.get_put_self w'.jobs (materializedJob op job ns)
        rwa [show Keyed.key (materializedJob op job ns) = _ from hkey] at hput
      · exact verifyOperationOwnership_of_lookup (by simpa [materializedJob] using hlabels)

theorem triple_workflowMaterialize_inPlace :
    Triple env (fun _ => True) (workflowMaterialize op target) (fun _ => True)
      (fun _ w => InPlace .workflow op ⟨targetNamespace target, materializedName op⟩ w) := by
  refine .ofExcept_bind fun params _ => ?_
  split
  · exact .throw
  refine .bind (.mapError (triple_getObject _ _ _)) fun found => ?_
  cases found with
  | some existing => exact .ofExcept fun _ w hok hw => ⟨existing, hw.2.symm, hok⟩
  | none =>
    refine .ofExcept_bind fun body _ => .mapError ?_
    refine .bind (idle_call _).triple fun _ => .bind (.get (Q := fun _ _ => True) fun _ _ => trivial)
      fun w => ?_
    split
    · exact .throw
    · refine .write trivial fun w' _ =>
        ⟨materializedWorkflow op (targetNamespace target) body, ?_, ?_⟩
      · have hkey := key_materializedWorkflow op (targetNamespace target) body
        have hput := Store.get_put_self (w'.objects .workflow)
          (materializedWorkflow op (targetNamespace target) body)
        rw [Workloads.objects_setObjects_self]
        rwa [show Keyed.key (materializedWorkflow op _ body) = _ from hkey] at hput
      · exact verifyOperationOwnership_of_lookup (by simp [materializedWorkflow])

theorem inPlace_of_materialize (h : (builtinRegistry veleroNs).get name = some engine)
    {w : Workloads} {u : Unit} (hok : ((engine.materialize op target).run env w).result = .ok u) :
    InPlace name op ⟨targetNamespace target, materializedName op⟩
      ((engine.materialize op target).run env w).state := by
  rw [get_builtinRegistry] at h
  have htriple : Triple env (fun _ => True) (engine.materialize op target) (fun _ => True)
      (fun _ w => InPlace name op ⟨targetNamespace target, materializedName op⟩ w) := by
    cases name with
    | unset => exact absurd h (by simp)
    | volsync => exact absurd h (by simp)
    | helm => exact .post .top fun _ _ _ => trivial
    | velero => exact .post .top fun _ _ _ => trivial
    | job =>
      obtain rfl := Option.some.inj h
      refine .ofExcept_bind fun params _ => ?_
      split
      · exact .throw
      · exact triple_createMaterializedJob_inPlace rfl (lookup_applyOperationLabels _ _)
    | workflow =>
      obtain rfl := Option.some.inj h
      exact triple_workflowMaterialize_inPlace
    | helmHookJob =>
      obtain rfl := Option.some.inj h
      refine .ofExcept_bind fun params _ => ?_
      split
      · exact .throw
      · split
        · exact .throw
        · exact triple_createMaterializedJob_inPlace rfl (lookup_applyOperationLabels _ _)
  exact (htriple w trivial).2 u hok

end materialize

/-- The program raises plain errors only, without a sentinel. -/
abbrev NoSentinel {α : Type} (x : EngineM α) : Prop := Raises (fun e => e.sentinel = none) x

theorem noSentinel_call (s : Site) : NoSentinel (call s) := by
  intro env w e he
  unfold call at he
  simp only at he
  cases hf : env.fault s with
  | none => rw [hf] at he; exact absurd he (by simp)
  | some msg => rw [hf] at he; exact Except.error.inj he ▸ rfl

theorem noSentinel_read {α : Type} (s : Site) (f : Workloads → α) (what : String) :
    NoSentinel ((do call s; let w ← Prog.get; pure (f w) : EngineM α).mapError (·.wrap what)) :=
  .mapError_of (.bind (noSentinel_call s) fun _ => .bind .get fun _ => .pure _) fun _ he => he

theorem noSentinel_resolveEngineLocation (op : Operation) : NoSentinel (resolveEngineLocation op) := by
  unfold resolveEngineLocation
  simp only
  split
  · exact .pure _
  · exact .bind (.mapError_of (.bind (noSentinel_call _) fun _ => .bind .ask fun _ => .pure _)
      fun _ he => he) fun _ => .pure _

section status

variable {env : EngineEnv} {w : Workloads} {op : Operation} {k : ObjectKey} {e : GoError}

theorem resolved_or_failed (hplace : engineLocation env.instances op = some k)
    (fallback : Operation → EngineM ObjectKey) :
    (resolveEngineLocationForStatus op fallback).run env w = ⟨.ok k, w, []⟩ ∨
      ∃ e, (resolveEngineLocationForStatus op fallback).run env w = ⟨.error e, w, []⟩ ∧
        e.sentinel = none := by
  have hidle := idle_resolveEngineLocation op env w
  have hfound : Triple env (fun _ => True) (resolveEngineLocation op) (fun _ => True)
      (fun found _ => True ∧ found = engineLocation env.instances op) :=
    triple_resolveEngineLocation op
  cases hres : ((resolveEngineLocation op).run env w).result with
  | error e =>
    refine .inr ⟨e, ?_, noSentinel_resolveEngineLocation op env w e hres⟩
    rw [resolveEngineLocationForStatus, run_bind_of_error hres, hidle.1, hidle.2]
  | ok found =>
    refine .inl ?_
    rw [resolveEngineLocationForStatus, run_bind_of_ok hres, ((hfound w trivial).2 found hres).2, hplace,
      hidle.1, hidle.2]
    rfl

theorem sentinel_of_observedJob (what : String) (hplace : engineLocation env.instances op = some k)
    (hown : InPlace .job op k w) (he : ((observedJob what op).run env w).result = .error e) :
    e.sentinel = none := by
  obtain ⟨job, hjob, hverify⟩ := hown
  rcases resolved_or_failed (w := w) hplace findJobLocationByOperationLabel with hk | ⟨e', hk, hplain⟩
  · rw [observedJob, run_bind, hk] at he
    simp only [Outcome.result_after] at he
    cases hread : (((getJob .statusGet k).mapError (·.wrap ("get " ++ what))).run env w).result with
    | error e' =>
      rw [run_bind_of_error hread] at he
      exact Except.error.inj he ▸ noSentinel_read _ _ _ env w e' hread
    | ok found =>
      rw [run_bind_of_ok hread, result_read (result_of_mapError hread), hjob] at he
      simp only [Outcome.result_after, run_bind, run_ofExcept, hverify] at he
      exact absurd he (by simp)
  · rw [observedJob, run_bind, hk] at he
    exact Except.error.inj he ▸ hplain

theorem sentinel_of_workflowStatus (hplace : engineLocation env.instances op = some k)
    (hown : InPlace .workflow op k w) (he : ((workflowStatus op).run env w).result = .error e) :
    e.sentinel = none := by
  obtain ⟨wf, hwf, hverify⟩ := hown
  rcases resolved_or_failed (w := w) hplace findWorkflowLocationByOperationLabel with
    hk | ⟨e', hk, hplain⟩
  · rw [workflowStatus, run_bind, hk] at he
    simp only [Outcome.result_after] at he
    cases hread : (((getObject .statusGet .workflow k).mapError
        (·.wrap "get workflow")).run env w).result with
    | error e' =>
      rw [run_bind_of_error hread] at he
      exact Except.error.inj he ▸ noSentinel_read _ _ _ env w e' hread
    | ok found =>
      rw [run_bind_of_ok hread, result_read (result_of_mapError hread), hwf] at he
      simp only [Outcome.result_after, run_bind, run_ofExcept, hverify] at he
      exact absurd he (by simp)
  · rw [workflowStatus, run_bind, hk] at he
    exact Except.error.inj he ▸ hplain

theorem noSentinel_veleroStatus (ns : String) (op : Operation) : NoSentinel (veleroStatus ns op) := by
  refine .bind (noSentinel_read _ _ _) fun found => ?_
  cases found with
  | none => exact .throw rfl
  | some o => exact .pure _

theorem sentinel_of_status (h : (builtinRegistry veleroNs).get name = some engine)
    (hplace : engineLocation env.instances op = some k) (hown : InPlace name op k w)
    (he : ((engine.status op).run env w).result = .error e) : e.sentinel = none := by
  rw [get_builtinRegistry] at h
  cases name with
  | unset => exact absurd h (by simp)
  | volsync => exact absurd h (by simp)
  | helm => obtain rfl := Option.some.inj h; exact absurd he (by simp [helmEngine, helmStatus])
  | velero =>
    obtain rfl := Option.some.inj h
    exact noSentinel_veleroStatus veleroNs op env w e he
  | job =>
    obtain rfl := Option.some.inj h
    cases hjob : ((observedJob "job" op).run env w).result with
    | error e' =>
      simp only [jobEngine, jobStatus, run_bind_of_error hjob] at he
      exact Except.error.inj he ▸ sentinel_of_observedJob "job" hplace hown hjob
    | ok job =>
      simp only [jobEngine, jobStatus, run_bind_of_ok hjob] at he
      exact absurd he (by simp)
  | workflow =>
    obtain rfl := Option.some.inj h
    exact sentinel_of_workflowStatus hplace hown he
  | helmHookJob =>
    obtain rfl := Option.some.inj h
    cases hjob : ((observedJob "hook job" op).run env w).result with
    | error e' =>
      simp only [helmHookJobEngine, helmHookJobStatus, run_bind_of_error hjob] at he
      exact Except.error.inj he ▸ sentinel_of_observedJob "hook job" hplace hown hjob
    | ok job =>
      simp only [helmHookJobEngine, helmHookJobStatus, run_bind_of_ok hjob] at he
      exact absurd he (by simp)

end status

end VWorkspace
