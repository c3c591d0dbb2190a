import VWorkspaceOperator.Properties.ConditionPhase
import VWorkspaceOperator.Properties.LostWorkload

/-!
# Whether the recorded reference names the workload

When an operation has been started its status gets a reference to the workload.  The reference is
made by a function of its own and not by the engine: it takes every workload for an object in the
namespace of the target, with the name `materializedName` makes.  That is so for jobs and workflows;
a Velero object has another name and lives elsewhere, and a Helm release belongs to the target.  A
reference that is filled in later is made for the target of that day, whose namespace may be another
one by then.
-/

namespace VWorkspace

open Kit Prog Ctl

/-- The object an event writes, as a reference would name it. -/
def WorkloadEvent.written : WorkloadEvent → Option EngineResourceRef
  | .jobCreated job => some ⟨"Job", job.metadata.name, job.metadata.ns⟩
  | .created kind o | .updated kind o => some ⟨kind.text, o.metadata.name, o.metadata.ns⟩
  | .jobDeleted _ _ | .deleted _ _ => none

/-- The engine has created or updated the object, in a call of `Materialize` for the operation, with
whatever status, and the target. -/
def MaterializedRef (engine : Engine) (op : Operation) (target : ApplicationInstance)
    (ref : EngineResourceRef) : Prop :=
  ∃ st env w, ∃ e ∈ ((engine.materialize (op.withStatus st) target).run env w).trace,
    e.written = some ref

abbrev recordedRef (op : Operation) (target : ApplicationInstance) : EngineResourceRef :=
  newEngineResourceRef op target (engineResourceKind op.spec.engine)

section objects

variable {op : Operation} {target : ApplicationInstance} {engine : Engine} {veleroNs : String}
  {ref : EngineResourceRef}

theorem written_of_putBy {kind : Kind} {k : ObjectKey}
    {mutate : Unstructured → Except GoError Unstructured} {e : WorkloadEvent}
    (h : PutBy kind k mutate e) (hwritten : e.written = some ref) : ref.kind = kind.text := by
  rcases h with ⟨o, -, rfl⟩ | ⟨o, o', -, -, rfl⟩ <;> exact Option.some.inj hwritten ▸ rfl

theorem ref_of_materialized
    (hengine : (builtinRegistry veleroNs).get op.spec.engine = some engine)
    (h : MaterializedRef engine op target ref) :
    if supportsEngineRef op.spec.engine = true then ref = recordedRef op target
    else ref.kind ≠ engineResourceKind op.spec.engine := by
  obtain ⟨st, env, w, e, he, hwritten⟩ := h
  have hev : Materialized veleroNs (op.withStatus st) target e := materialize_builtin hengine he
  simp only [Materialized, Operation.spec_withStatus] at hev
  cases hname : op.spec.engine with
  | unset => rw [hname] at hev; exact hev.elim
  | volsync => rw [hname] at hev; exact hev.elim
  | job =>
    rw [hname] at hev
    obtain ⟨params, -, rfl⟩ := hev
    refine (Option.some.inj hwritten).symm.trans ?_
    simp [materializedJob, commandJob, newEngineResourceRef, engineResourceKind, hname]
    rfl
  | helmHookJob =>
    rw [hname] at hev
    obtain ⟨params, -, rfl⟩ := hev
    refine (Option.some.inj hwritten).symm.trans ?_
    simp [materializedJob, hookJob, newEngineResourceRef, engineResourceKind, hname]
    rfl
  | workflow =>
    rw [hname] at hev
    obtain ⟨params, body, -, -, rfl⟩ := hev
    refine (Option.some.inj hwritten).symm.trans ?_
    simp [materializedWorkflow, newEngineResourceRef, engineResourceKind, hname, Kind.text]
    rfl
  | helm =>
    rw [hname] at hev
    obtain ⟨params, release, -, hput⟩ := hev
    rw [if_neg (by decide), written_of_putBy hput hwritten]
    decide
  | velero =>
    rw [hname] at hev
    obtain ⟨params, -, ⟨-, hput⟩ | ⟨-, -, hput⟩⟩ := hev <;>
      rw [if_neg (by decide), written_of_putBy hput hwritten] <;> decide

end objects

def KeepsRef (ref : Option EngineResourceRef) : Event → Prop
  | .statusWritten op => op.status.engineRef = ref
  | _ => True

def RunsWithRef (ref : Option EngineResourceRef) : Event → Prop
  | .statusWritten op => op.status.phase = .running → op.status.engineRef = ref
  | _ => True

theorem runsWithRef_of_keepsRef {ref : Option EngineResourceRef} {e : Event}
    (h : KeepsRef ref e) : RunsWithRef ref e := by
  cases e with
  | statusWritten op => exact fun _ => h
  | _ => trivial

/-- The reference of an operation that runs after a reconcile: a new one when it is started, or
when it runs without one. -/
def refAfter (op : Operation) (target : ApplicationInstance) : Option EngineResourceRef :=
  if unstarted op || (op.status.phase = .running && lacksEngineRef op) then
    some (recordedRef op target)
  else op.status.engineRef

section reconcile

variable {env : Env} {op : Operation} {is : Store ApplicationInstance} {w : Workloads}
  {engine : Engine} {target : ApplicationInstance}

theorem triple_report_keepsRef (s : Site) {st : OperationStatus} (f : GoError → GoError)
    (prev : List Condition) (res : Result) (hst : st.engineRef = op.status.engineRef) :
    Triple env (Holds op is)
      (do let op' ← (updateStatus s (op.withStatus st)).mapError f
          reportConditions op' prev
          pure res) (KeepsRef op.status.engineRef) (fun _ _ => True) :=
  .post (triple_updateStatus_report (E := KeepsRef op.status.engineRef) s st f prev (fun _ => res)
    hst fun _ => trivial) fun _ _ _ => trivial

theorem triple_failOperation_keepsRef (message : String) :
    Triple env (Holds op is) (failOperation op message) (KeepsRef op.status.engineRef)
      (fun _ _ => True) :=
  triple_now_bind (triple_report_keepsRef _ _ _ _ rfl)

theorem triple_observe_keepsRef :
    Triple env (Holds op is) (observe engine op) (KeepsRef op.status.engineRef)
      (fun _ _ => True) := by
  refine .bind (triple_attempt_runEngine _ fun _ _ _ => trivial) fun res => ?_
  refine .pre (P := Holds op is) ?_ fun _ h => h.2
  cases res with
  | ok es =>
    simp only
    split
    · exact triple_now_bind (triple_report_keepsRef _ _ _ _ rfl)
    · exact triple_report_keepsRef _ _ _ _ rfl
  | error e =>
    simp only
    unfold handleEngineStatusError
    split
    · exact triple_failOperation_keepsRef _
    · exact triple_failOperation_keepsRef _
    · split
      · split
        · exact triple_now_bind (.bind (.mapError (triple_updateStatus _ _ rfl)) fun _ =>
            .pure fun _ _ => trivial)
        · refine triple_now_bind ?_
          split
          · exact .pure fun _ _ => trivial
          · exact triple_failOperation_keepsRef _
      · exact triple_failOperation_keepsRef _
    · exact .throw

theorem triple_backfill_observe_keepsRef :
    Triple env (HoldsWith op is w)
      (do let op ← backfillEngineRefIfNeeded op target; observe engine op)
      (KeepsRef (observedAs env.now op target).status.engineRef) (fun _ _ => True) := by
  by_cases hrunning : op.status.phase = .running
  · refine .bind (triple_backfill_with ?_) fun op' => ?_
    · rw [observedAs, if_pos hrunning]
      exact rfl
    · rintro c ⟨rfl, hc, -⟩
      exact triple_observe_keepsRef c hc
  · have hbackfill : backfillEngineRefIfNeeded op target = pure op := by
      rw [backfillEngineRefIfNeeded, if_pos hrunning]
    rw [hbackfill, observedAs, if_neg hrunning]
    exact triple_observe_keepsRef.pre (fun _ h => h.1)

theorem engineRef_observedAs (now : ℕ) (hun : unstarted op = false) :
    (observedAs now op target).status.engineRef = refAfter op target := by
  unfold observedAs refAfter
  rw [hun]
  by_cases hrunning : op.status.phase = .running
  · simp [hrunning, backfilledStatus]
  · simp [hrunning]

theorem triple_proceed_runsWithRef :
    Triple env (HoldsWith op is w) (proceed engine op target) (RunsWithRef (refAfter op target))
      (fun _ _ => True) := by
  unfold proceed
  cases hun : unstarted op with
  | true =>
    have hafter : refAfter op target = some (recordedRef op target) := by simp [refAfter, hun]
    rw [hafter]
    refine .bind (triple_start_with (E := RunsWithRef (some (recordedRef op target))) hun trivial
      (fun _ => trivial) (fun _ => rfl) fun _ _ => trivial) fun res => ?_
    cases res with
    | error e =>
      refine .pre (P := Holds op is) ?_ fun _ h => h.2.1
      exact triple_now_bind (.post (triple_updateStatus_report
        (E := RunsWithRef (some (recordedRef op target))) _ _ _ _ _
        (fun h => absurd h (by simp [failedStatus])) fun _ => trivial) fun _ _ _ => trivial)
    | ok op' =>
      rintro c ⟨-, rfl, hc⟩
      have hrecorded : (observedAs env.now (op.withStatus (startedStatus env.now op target))
          target).status.engineRef = some (recordedRef op target) := by
        simp [observedAs, backfilledStatus, lacksEngineRef, runningStatus]
      rw [← hrecorded]
      exact triple_backfill_observe_keepsRef.events (fun _ h => runsWithRef_of_keepsRef h) c hc
  | false =>
    have hstart : start engine op target = pure (.ok op) := by rw [start, hun]; rfl
    rw [hstart, ← engineRef_observedAs env.now hun]
    exact triple_backfill_observe_keepsRef.events (fun _ h => runsWithRef_of_keepsRef h)

variable {r : OperationReconciler} {c : Cluster} {k : ObjectKey}

theorem engineRef_of_statusWritten (hgate : AtGate env c k op)
    (hopen : admission r env c op = .ok (.proceed target engine)) {op' : Operation}
    (hwritten : .statusWritten op' ∈ ((reconcile r k).run env c).trace)
    (hrunning : op'.status.phase = .running) : op'.status.engineRef = refAfter op target := by
  have hget : c.operations.get op.key = some op := hgate.key_eq ▸ hgate.stored
  rw [run_reconcile_of_atGate hgate, hopen, Outcome.trace_after, List.mem_append] at hwritten
  rcases hwritten with hgated | hwritten
  · obtain ⟨reason, message, hblocked, -⟩ := gateEvent_of_mem_gateTrace hgated
    exact absurd (hopen.symm.trans hblocked) (by simp)
  · exact (triple_proceed_runsWithRef (w := c.workloads) c ⟨⟨hget, rfl⟩, rfl⟩).1 _ hwritten hrunning

end reconcile

theorem engineRef_names_object_iff {hmac : String → String → String} {secret veleroNs : String}
    {env : Env} {c : Cluster} {k : ObjectKey} {op op' : Operation}
    {target target₀ : ApplicationInstance} {engine : Engine} {ref : EngineResourceRef}
    (hgate : AtGate env c k op)
    (hopen : admission (operatorReconciler hmac secret veleroNs) env c op =
      .ok (.proceed target engine))
    (hobject : MaterializedRef engine op target₀ ref)
    (hnow : unstarted op = true → target₀ = target)
    (hwritten : .statusWritten op' ∈
      ((reconcile (operatorReconciler hmac secret veleroNs) k).run env c).trace)
    (hrunning : op'.status.phase = .running) :
    op'.status.engineRef = some ref ↔
      if unstarted op = true then supportsEngineRef op.spec.engine = true
      else op.status.engineRef = some ref ∨
        op.status.engineRef = none ∧ op.status.phase = .running ∧
          supportsEngineRef op.spec.engine = true ∧
          targetNamespace target = targetNamespace target₀ := by
  have href := ref_of_materialized (openGate_of_admission hopen).engine hobject
  rw [engineRef_of_statusWritten hgate hopen hwritten hrunning, refAfter]
  cases hun : unstarted op with
  | true =>
    rw [hnow hun] at href
    simp only [Bool.true_or, if_true, Option.some.injEq]
    by_cases hsupports : supportsEngineRef op.spec.engine = true
    · rw [if_pos hsupports] at href
      exact iff_of_true href.symm hsupports
    · -- whatever is recorded has the name of the engine for its kind
      rw [if_neg hsupports] at href
      exact iff_of_false (fun h => href (congrArg EngineResourceRef.kind h).symm) hsupports
  | false =>
    simp only [Bool.false_or, Bool.false_eq_true, if_false, Bool.and_eq_true, decide_eq_true_eq]
    by_cases hlacks : op.status.phase = .running ∧ lacksEngineRef op = true
    · obtain ⟨hnone, hsupports⟩ : op.status.engineRef = none ∧
          supportsEngineRef op.spec.engine = true := by simpa [lacksEngineRef] using hlacks.2
      rw [if_pos hsupports] at href
      simp [href, hlacks, hnone, hsupports, newEngineResourceRef]
    · rw [if_neg hlacks]
      refine ⟨.inl, fun h => h.resolve_right ?_⟩
      rintro ⟨hnone, hphase, hsupports, -⟩
      exact hlacks ⟨hphase, by simp [lacksEngineRef, hnone, hsupports]⟩

def statusesWritten (t : List Event) : List Operation :=
  t.filterMap fun e => match e with
    | .statusWritten op => some op
    | _ => none

theorem statusWritten_of_mem {t : List Event} {op : Operation} (h : op ∈ statusesWritten t) :
    .statusWritten op ∈ t := by
  obtain ⟨e, he, hop⟩ := List.mem_filterMap.mp h
  cases e with
  | statusWritten op' => exact Option.some.inj hop ▸ he
  | _ => exact absurd hop (by simp)

theorem materializedRef_of_mem {engine : Engine} {op : Operation} {target : ApplicationInstance}
    {ref : EngineResourceRef} (env : EngineEnv) (w : Workloads)
    (h : ref ∈ ((engine.materialize op target).run env w).trace.filterMap WorkloadEvent.written) :
    MaterializedRef engine op target ref := by
  obtain ⟨e, he, href⟩ := List.mem_filterMap.mp h
  exact ⟨op.status, env, w, e, he, href⟩

/-- An operation as `lostJob` and `lostBackup` were before they were started. -/
def unstartedAs (op : Operation) : Operation := op.withStatus {}

abbrev appInstance : ApplicationInstance := placeholderInstance ⟨"team-a", "app"⟩

def afterStart (op : Operation) : Operation :=
  (unstartedAs op).withStatus (startedStatus 100 (unstartedAs op) appInstance)

theorem job_engineRef_names_object :
    (afterStart lostJob).status.engineRef = some ⟨"Job", "team-a--run", "team-a"⟩ := by
  have hgate : AtGate { now := 100 } (withoutWorkloads (unstartedAs lostJob)) ⟨"team-a", "run"⟩
      (unstartedAs lostJob) := ⟨rfl, by decide +kernel, by decide +kernel, rfl⟩
  have hopen : admission plainOperator { now := 100 } (withoutWorkloads (unstartedAs lostJob))
      (unstartedAs lostJob) = .ok (.proceed appInstance jobEngine) :=
    OpenGate.admission_eq ⟨by decide +kernel, rfl, by decide +kernel, by decide +kernel, rfl,
      by decide +kernel, get_builtinRegistry "velero" .job⟩
  refine (engineRef_names_object_iff hgate hopen (materializedRef_of_mem ⟨fun _ => none, Store.empty⟩
    Workloads.empty (by decide +kernel)) (fun _ => rfl) (statusWritten_of_mem ?_) rfl).mpr ?_
  · decide +kernel
  · decide +kernel

theorem backup_engineRef_names_nothing :
    MaterializedRef (veleroEngine "velero") (unstartedAs lostBackup) appInstance
        ⟨"Backup", "run", "velero"⟩ ∧
      .statusWritten (afterStart lostBackup) ∈ ((reconcile plainOperator ⟨"team-a", "run"⟩).run
        { now := 100 } (withoutWorkloads (unstartedAs lostBackup))).trace ∧
      (afterStart lostBackup).status.phase = .running ∧
      (afterStart lostBackup).status.engineRef = some ⟨"velero", "team-a--run", "team-a"⟩ :=
  ⟨materializedRef_of_mem ⟨fun _ => none, Store.empty⟩ Workloads.empty (by decide +kernel),
    statusWritten_of_mem (by decide +kernel), rfl, by decide +kernel⟩

end VWorkspace
