import VWorkspaceOperator.Controller.Runs

/-!
# How final a finished operation is

The condition reference calls `Succeeded` and `Failed` terminal.  The reconciler
does not treat them so: a finished operation passes the same gate as a new one,
and behind it the engine is observed again.  A finished operation therefore
keeps its outcome in a reconcile exactly when the reconcile gets no status
written, or writes what is already there, and a target that is deleted after the
fact sends it back to `Pending`.
-/

namespace VWorkspace

open Kit Prog

/-- The part of a status that says how the operation went. -/
def OperationStatus.outcome (st : OperationStatus) :
    OperationPhase × Option ℕ × Option ℕ × List (String × String) × List Condition :=
  (st.phase, st.startedAt, st.finishedAt, st.outputs, st.conditions)

def finished (op : Operation) : Bool :=
  op.status.phase = .succeeded || op.status.phase = .failed

theorem ne_running_of_finished {op : Operation} (h : finished op = true) :
    op.status.phase ≠ .running := by
  intro hr
  simp [finished, hr] at h

theorem unstarted_eq_false_of_finished {op : Operation} (h : finished op = true) :
    unstarted op = false := by
  unfold finished at h
  unfold unstarted
  cases hp : op.status.phase <;> simp_all

section written

variable {r : OperationReconciler} {env : Env} {c : Cluster} {k : ObjectKey} {op : Operation}
  {engine : Engine} {target : ApplicationInstance}

theorem run_proceed_of_finished (h : finished op = true) :
    (proceed engine op target).run env c = (observe engine op).run env c := by
  have hstart : start engine op target = pure (.ok op) := by
    rw [start, unstarted_eq_false_of_finished h]; rfl
  have hbackfill : backfillEngineRefIfNeeded op target = pure op := by
    rw [backfillEngineRefIfNeeded, if_pos (ne_running_of_finished h)]
  rw [proceed, hstart, run_bind, run_pure]
  simp only [hbackfill]
  rfl

theorem handleEngineStatusError_of_finished (h : finished op = true) (e : GoError) :
    handleEngineStatusError op e =
      if e.sentinel.isSome then failOperation op e.msg else throw (e.wrap "engine status") := by
  obtain ⟨sentinel, msg⟩ := e
  cases sentinel with
  | none => rfl
  | some s => cases s <;> simp [handleEngineStatusError, ne_running_of_finished h]

/-- The status a reconcile at the gate gives to a finished operation. -/
def statusOfFinished (r : OperationReconciler) (env : Env) (c : Cluster) (op : Operation) :
    Option (Site × OperationStatus) :=
  match admission r env c op with
  | .error _ => none
  | .ok (.blocked reason message) =>
      some (.updateBlocked, blockedStatus env.now reason message op.status)
  | .ok (.proceed _ engine) =>
      match ((engine.status op).run ⟨env.fault, c.instances⟩ c.workloads).result with
      | .error e =>
          if e.sentinel.isSome then some (.updateFailed, failedStatus env.now e.msg op.status)
          else none
      | .ok es =>
          if es.done then some (.updateTerminal, terminalStatus env.now es op.status)
          else some (.updateInFlight, inFlightStatus es op.status)

theorem operations_step_of_finished (hgate : AtGate env c k op) (h : finished op = true) :
    (step r c (.reconcile env k)).operations =
      match statusOfFinished r env c op with
      | none => c.operations
      | some (s, st) => storeStatus env s op st c.operations := by
  have hget : c.operations.get op.key = some op := hgate.key_eq ▸ hgate.stored
  rw [step, run_reconcile_of_atGate hgate, statusOfFinished, Outcome.state_after]
  cases admission r env c op with
  | error e => rfl
  | ok answer =>
    cases answer with
    | blocked reason message =>
      simp only [carryOut]
      rw [operations_blockOperation hget]
    | proceed target engine =>
      simp only [carryOut, run_proceed_of_finished h]
      cases hstatus : ((engine.status op).run ⟨env.fault, c.instances⟩ c.workloads).result with
      | ok es =>
        rw [operations_observe_of_ok hget hstatus]
        cases hdone : es.done <;> simp [hdone]
      | error e =>
        have hget' : (afterStatus env c engine op).operations.get op.key = some op := hget
        rw [operations_observe_of_error hstatus, handleEngineStatusError_of_finished h]
        cases hsentinel : e.sentinel.isSome with
        | false => simp [hsentinel, afterStatus]
        | true => simp only [hsentinel, if_true, operations_failOperation hget']; rfl

theorem get_storeStatus {ops : Store Operation} (hget : ops.get op.key = some op) (s : Site)
    (st : OperationStatus) :
    (storeStatus env s op st ops).get op.key =
      some (op.withStatus (if env.fault s = none then st else op.status)) := by
  unfold storeStatus
  split
  · exact Store.get_put_self ops (op.withStatus st)
  · exact hget

end written

/-- The status already says that the operation failed now with this message. -/
def saysFailed (now : ℕ) (message : String) (st : OperationStatus) : Bool :=
  st.phase = .failed && st.finishedAt = some now &&
    conditionIs "Failed" .true "EngineFailed" message st.conditions

/-- The status already says that the operation ended now, as the engine reports
it. -/
def saysEnded (now : ℕ) (es : EngineStatus) (st : OperationStatus) : Bool :=
  st.phase = es.phase && st.finishedAt = some now &&
    (es.outputs = [] || st.outputs = es.outputs) &&
    conditionIs (if es.failed then "Failed" else "Succeeded") .true es.reason es.message
      st.conditions &&
    conditionIs "Running" .false "EngineNotStarted"
      (if es.failed then "Engine finished with failure" else "Engine completed") st.conditions

/-- What must hold before a reconcile for a finished operation to keep its
outcome: the reconcile does not get to the gate or stops there with an error; or
what the engine reports is what the status says, to the second; or the status
update fails. -/
def Undisturbed (r : OperationReconciler) (env : Env) (c : Cluster) (op : Operation) : Prop :=
  env.fault .getOperation ≠ none ∨ operationFinalizer ∉ op.metadata.finalizers ∨
    match admission r env c op with
    | .error _ => True
    | .ok (.blocked _ _) => env.fault .updateBlocked ≠ none
    | .ok (.proceed _ engine) =>
        match ((engine.status op).run ⟨env.fault, c.instances⟩ c.workloads).result with
        | .error e => e.sentinel = none ∨ env.fault .updateFailed ≠ none ∨
            saysFailed env.now e.msg op.status = true
        | .ok es =>
            if es.done then env.fault .updateTerminal ≠ none ∨
              saysEnded env.now es op.status = true
            else env.fault .updateInFlight ≠ none ∨ es.phase = op.status.phase

section outcome

variable {r : OperationReconciler} {env : Env} {c : Cluster} {k : ObjectKey} {op : Operation}

theorem outcome_blockedStatus_ne (h : finished op = true) (reason message : String) :
    (blockedStatus env.now reason message op.status).outcome ≠ op.status.outcome := by
  intro he
  have hphase : OperationPhase.pending = op.status.phase := congrArg Prod.fst he
  simp [finished, ← hphase] at h

theorem outcome_failedStatus_iff (now : ℕ) (message : String) (st : OperationStatus) :
    (failedStatus now message st).outcome = st.outcome ↔ saysFailed now message st = true := by
  simp only [OperationStatus.outcome, failedStatus, saysFailed, Prod.mk.injEq, true_and,
    setCondition_eq_self_iff, Bool.and_eq_true, decide_eq_true_eq, and_assoc]
  rw [eq_comm, eq_comm (a := some now)]

theorem outcome_terminalStatus_iff (now : ℕ) (es : EngineStatus) (st : OperationStatus) :
    (terminalStatus now es st).outcome = st.outcome ↔ saysEnded now es st = true := by
  have houtputs : (if es.outputs ≠ [] then es.outputs else st.outputs) = st.outputs ↔
      es.outputs = [] ∨ st.outputs = es.outputs := by
    by_cases hempty : es.outputs = []
    · simp [hempty]
    · simp [hempty, eq_comm]
  have hend : (if es.failed then setCondition now "Failed" .true es.reason es.message st.conditions
      else setCondition now "Succeeded" .true es.reason es.message st.conditions) =
      setCondition now (if es.failed then "Failed" else "Succeeded") .true es.reason es.message
        st.conditions := by
    cases es.failed <;> rfl
  have hne : (if es.failed then "Failed" else "Succeeded") ≠ "Running" := by
    cases es.failed <;> decide
  simp only [OperationStatus.outcome, terminalStatus, saysEnded, Prod.mk.injEq, true_and, hend,
    setCondition_setCondition_eq_self_iff hne, houtputs, Bool.and_eq_true, Bool.or_eq_true,
    decide_eq_true_eq]
  constructor
  · rintro ⟨hphase, hfinished, hout, hfirst, hsecond⟩
    exact ⟨⟨⟨⟨hphase.symm, hfinished.symm⟩, hout⟩, hfirst⟩, hsecond⟩
  · rintro ⟨⟨⟨⟨hphase, hfinished⟩, hout⟩, hfirst⟩, hsecond⟩
    exact ⟨hphase.symm, hfinished.symm, hout, hfirst, hsecond⟩

theorem outcome_inFlightStatus_iff (es : EngineStatus) (st : OperationStatus) :
    (inFlightStatus es st).outcome = st.outcome ↔ es.phase = st.phase := by
  simp [OperationStatus.outcome, inFlightStatus]

theorem undisturbed_iff (hgate : AtGate env c k op) (h : finished op = true) :
    Undisturbed r env c op ↔ ∀ p ∈ statusOfFinished r env c op,
      env.fault p.1 ≠ none ∨ p.2.outcome = op.status.outcome := by
  simp only [Undisturbed, hgate.readable, ne_eq, not_true_eq_false, false_or, hgate.finalizer]
  unfold statusOfFinished
  cases admission r env c op with
  | error e => simp
  | ok answer =>
    cases answer with
    | blocked reason message => simp [outcome_blockedStatus_ne h]
    | proceed target engine =>
      simp only
      cases ((engine.status op).run ⟨env.fault, c.instances⟩ c.workloads).result with
      | error e => cases hs : e.sentinel <;> simp [hs, outcome_failedStatus_iff]
      | ok es =>
        cases hdone : es.done <;>
          simp [hdone, outcome_terminalStatus_iff, outcome_inFlightStatus_iff]

theorem outcome_of_atGate (hgate : AtGate env c k op) (h : finished op = true) :
    ∃ op', (step r c (.reconcile env k)).operations.get k = some op' ∧
      (op'.status.outcome = op.status.outcome ↔ Undisturbed r env c op) := by
  have hget : c.operations.get op.key = some op := hgate.key_eq ▸ hgate.stored
  rw [operations_step_of_finished hgate h, ← hgate.key_eq, undisturbed_iff hgate h]
  cases statusOfFinished r env c op with
  | none => exact ⟨op, hget, by simp⟩
  | some p =>
    obtain ⟨s, st⟩ := p
    refine ⟨_, get_storeStatus hget s st, ?_⟩
    by_cases hf : env.fault s = none <;> simp [hf]

theorem outcome_step_reconcile (hop : c.operations.get k = some op)
    (hlive : op.metadata.deletionTimestamp = none) (h : finished op = true) :
    ∃ op', (step r c (.reconcile env k)).operations.get k = some op' ∧
      (op'.status.outcome = op.status.outcome ↔ Undisturbed r env c op) := by
  by_cases hgate : AtGate env c k op
  · exact outcome_of_atGate hgate h
  · have hun : Undisturbed r env c op := by
      by_contra hn
      simp only [Undisturbed, not_or, not_not] at hn
      exact hgate ⟨hn.1, hop, hn.2.1, hlive⟩
    rw [operations_step_reconcile]
    have hpre := List.prefix_refl ((reconcile r k).run env c).trace
    cases hget : (storedAfter ((reconcile r k).run env c).trace c.operations).get k with
    | none =>
      rcases get_storedAfter_none hpre hget with hnone | ⟨op₀, hop₀, hdel⟩
      · exact absurd (hop.symm.trans hnone) (by simp)
      · rw [hop, Option.some.injEq] at hop₀
        subst hop₀
        rw [hlive] at hdel
        exact absurd hdel (by simp)
    | some op' =>
      obtain ⟨op₀, hop₀, -, -, ⟨hst, -⟩ | hwritten⟩ := get_storedAfter_self hpre hget
      · rw [hop, Option.some.injEq] at hop₀
        subst hop₀
        exact ⟨op', rfl, by simp [hst, hun]⟩
      · obtain ⟨op₁, st, hgate₁, -, -⟩ := statusWritten_reconcile hwritten
        rw [hgate₁.stored, Option.some.injEq] at hop
        exact absurd (hop ▸ hgate₁) hgate

end outcome

def NotDeleting (k : ObjectKey) (c : Cluster) : Prop :=
  ∀ op ∈ c.operations.get k, op.metadata.deletionTimestamp = none

/-- The rest of the world may change everything but the status of the operation
under `k`, which stays in the store. -/
def KeepsStatus (k : ObjectKey) (c : Cluster) : Action → Prop
  | .reconcile _ _ => True
  | .environment change => ∀ st ∈ statusAt c k, statusAt (change c) k = some st

instance (k : ObjectKey) (c : Cluster) : Decidable (NotDeleting k c) :=
  inferInstanceAs (Decidable (∀ op ∈ c.operations.get k, op.metadata.deletionTimestamp = none))

instance (k : ObjectKey) (c : Cluster) : ∀ a, Decidable (KeepsStatus k c a)
  | .reconcile _ _ => inferInstanceAs (Decidable True)
  | .environment change =>
      inferInstanceAs (Decidable (∀ st ∈ statusAt c k, statusAt (change c) k = some st))

/-- Outcomes are final in a run: once the operation under `k` has finished, its
outcome is the same in every later state. -/
def Final (r : OperationReconciler) (k : ObjectKey) (c : Cluster) (as : List Action) : Prop :=
  ∀ pre mid post, as = pre ++ mid ++ post →
    ∀ op, (exec (step r) c pre).operations.get k = some op → finished op = true →
      ∃ op', (exec (step r) c (pre ++ mid)).operations.get k = some op' ∧
        op'.status.outcome = op.status.outcome

/-- If the step is a reconcile of the operation under `k`, and that has
finished, then it is undisturbed. -/
def UndisturbedStep (r : OperationReconciler) (k : ObjectKey) (c : Cluster) : Action → Prop
  | .reconcile env k' => k' = k → ∀ op, c.operations.get k = some op → finished op = true →
      Undisturbed r env c op
  | .environment _ => True

section runs

variable {r : OperationReconciler} {k : ObjectKey} {c : Cluster} {as : List Action}

theorem undisturbedStep_of_unfinished {a : Action}
    (h : ∀ op ∈ c.operations.get k, finished op = false) : UndisturbedStep r k c a := by
  cases a with
  | environment change => trivial
  | reconcile env k' => exact fun _ op hop hfin => absurd hfin (by simp [h op hop])

theorem finished_of_outcome {op op' : Operation} (h : op'.status.outcome = op.status.outcome)
    (hfin : finished op = true) : finished op' = true := by
  have hphase : op'.status.phase = op.status.phase := congrArg Prod.fst h
  simpa [finished, hphase] using hfin

theorem outcome_step {a : Action} {op : Operation} (hlive : NotDeleting k c)
    (hkeeps : KeepsStatus k c a) (hun : UndisturbedStep r k c a)
    (hop : c.operations.get k = some op) (hfin : finished op = true) :
    ∃ op', (step r c a).operations.get k = some op' ∧
      op'.status.outcome = op.status.outcome := by
  cases a with
  | environment change =>
    obtain ⟨op', hop', hst⟩ :=
      statusAt_eq_some_iff.mp (hkeeps op.status (statusAt_eq_some_iff.mpr ⟨op, hop, rfl⟩))
    exact ⟨op', hop', by rw [hst]⟩
  | reconcile env k' =>
    by_cases hk : k' = k
    · subst hk
      obtain ⟨op', hop', hiff⟩ := outcome_step_reconcile hop (hlive op hop) hfin
      exact ⟨op', hop', hiff.mpr (hun rfl op hop hfin)⟩
    · refine ⟨op, ?_, rfl⟩
      rw [operations_step_reconcile, get_storedAfter_of_ne (List.prefix_refl _) (Ne.symm hk), hop]

theorem final_iff_undisturbed
    (hrun : Along (step r) (fun c a => NotDeleting k c ∧ KeepsStatus k c a) c as) :
    Final r k c as ↔ Along (step r) (UndisturbedStep r k) c as := by
  constructor
  · intro hfinal
    rw [along_iff_forall_split]
    intro pre a post has
    cases a with
    | environment change => trivial
    | reconcile env k' =>
      intro hk op hop hfin
      subst hk
      have hlive := (along_iff_forall_split.mp hrun pre _ post has).1
      obtain ⟨op', hop', hiff⟩ := outcome_step_reconcile hop (hlive op hop) hfin
      obtain ⟨op'', hop'', hsame⟩ :=
        hfinal pre [.reconcile env k'] post (by simpa using has) op hop hfin
      rw [exec_append] at hop''
      rw [show op' = op'' from Option.some.inj (hop'.symm.trans hop'')] at hiff
      exact hiff.mp hsame
  · intro hun pre mid post has op hop hfin
    subst has
    have hall := along_and.mpr ⟨hrun, hun⟩
    rw [List.append_assoc, along_append, along_append] at hall
    rw [exec_append]
    have hinv := exec_of_along (I := fun c => ∃ op', c.operations.get k = some op' ∧
      op'.status.outcome = op.status.outcome) hall.2.1 ?_ ⟨op, hop, rfl⟩
    · exact hinv
    · rintro c a ⟨⟨hlive, hkeeps⟩, hstep⟩ ⟨op₁, hop₁, hsame⟩
      obtain ⟨op₂, hop₂, hsame₂⟩ :=
        outcome_step hlive hkeeps hstep hop₁ (finished_of_outcome hsame hfin)
      exact ⟨op₂, hop₂, hsame₂.trans hsame⟩

/-- A backup that is submitted, runs and succeeds. -/
def backupSucceeds (k : ObjectKey) : List Action :=
  [.reconcile { now := 100 } k, .reconcile { now := 101 } k,
    .environment (setBackupPhase "Completed" ⟨"velero", "nightly"⟩), .reconcile { now := 110 } k]

theorem backup_final_in_its_second :
    let k : ObjectKey := ⟨"team-a", "nightly"⟩
    let c := clusterOf [submitted k "uid-1" "app" .backup .velero]
      [placeholderInstance ⟨"team-a", "app"⟩]
    phaseAt (exec (step plainOperator) c (backupSucceeds k)) k = some .succeeded ∧
      Final plainOperator k c (backupSucceeds k ++ [.reconcile { now := 110 } k]) := by
  intro k c
  have hsucceeded : phaseAt (exec (step plainOperator) c (backupSucceeds k)) k = some .succeeded := by
    decide +kernel
  have hbefore : Along (step plainOperator)
      (fun c _ => ∀ op ∈ c.operations.get k, finished op = false) c (backupSucceeds k) := by
    decide +kernel
  have hagain : ∀ op ∈ (exec (step plainOperator) c (backupSucceeds k)).operations.get k,
      operationFinalizer ∈ op.metadata.finalizers ∧ op.metadata.deletionTimestamp = none ∧
      (statusOfFinished plainOperator { now := 110 } (exec (step plainOperator) c (backupSucceeds k))
        op).all (fun p => p.2.outcome = op.status.outcome) = true := by decide +kernel
  refine ⟨hsucceeded, (final_iff_undisturbed (by decide +kernel)).mpr (along_append.mpr
    ⟨hbefore.mono fun _ _ h => undisturbedStep_of_unfinished h, ?_, trivial⟩)⟩
  intro _ op hop hfin
  obtain ⟨hfinalizer, hlive, hsame⟩ := hagain op hop
  refine (undisturbed_iff ⟨rfl, hop, hfinalizer, hlive⟩ hfin).mpr fun p hp => .inr ?_
  rw [Option.mem_def.mp hp] at hsame
  simpa using hsame

theorem phaseAt_of_final {pre mid : List Action} (h : Final r k c (pre ++ mid))
    {phase : OperationPhase} (hpre : phaseAt (exec (step r) c pre) k = some phase)
    (hphase : phase = .succeeded ∨ phase = .failed) :
    phaseAt (exec (step r) c (pre ++ mid)) k = some phase := by
  obtain ⟨st, hst, rfl⟩ := Option.map_eq_some_iff.mp hpre
  obtain ⟨op, hop, rfl⟩ := statusAt_eq_some_iff.mp hst
  obtain ⟨op', hop', hsame⟩ := h pre mid [] (by simp) op hop (by simpa [finished] using hphase)
  have hphase' : op'.status.phase = op.status.phase := congrArg Prod.fst hsame
  rw [phaseAt, statusAt_eq_some_iff.mpr ⟨op', hop', rfl⟩, Option.map_some, hphase']

theorem target_deletion_reverts_outcome :
    let r := operatorReconciler (fun _ _ => "") "" "velero"
    let k : ObjectKey := ⟨"team-a", "nightly"⟩
    let app : ObjectKey := ⟨"team-a", "app"⟩
    let c := clusterOf [submitted k "uid-1" "app" .backup .velero] [placeholderInstance app]
    let as := backupSucceeds k ++ [.environment fun c => { c with
      instances := c.instances.erase app }, .reconcile { now := 120 } k]
    Along (step r) (fun c a => NotDeleting k c ∧ KeepsStatus k c a) c as ∧ ¬ Final r k c as := by
  intro r k app c as
  refine ⟨by decide +kernel, fun hfinal => ?_⟩
  have hsucceeded : phaseAt (exec (step r) c (backupSucceeds k)) k = some .succeeded := by
    decide +kernel
  have hpending : phaseAt (exec (step r) c as) k = some .pending := by decide +kernel
  have := phaseAt_of_final hfinal hsucceeded (.inl rfl)
  exact absurd (this.symm.trans hpending) (by simp)

end runs

end VWorkspace
