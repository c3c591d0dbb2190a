import VWorkspaceOperator.Engines.Observed
import VWorkspaceOperator.Instance.Storage
import VWorkspaceOperator.Properties.Completion

/-!
# Whether the conditions agree with the phase

The phase of an operation and its conditions say the same thing twice, and they are written
apart: each of the five status writes sets the phase and one or two conditions, and leaves the
others as it finds them.  `blockOperation` takes an operation back to `Pending` and leaves
`Running`, `Succeeded`, `Failed` and `finishedAt` behind; `failOperation` does not take `Running`
or `Blocked` away; and a finished operation that is observed again gets a second verdict.  The
two agree along every run whose reconciles do none of the three.
-/

namespace VWorkspace

open Kit Prog

def OperationPhase.terminal : OperationPhase → Bool
  | .succeeded | .failed | .cancelled => true
  | _ => false

def OperationStatus.shows (st : OperationStatus) (type : String) : Bool :=
  isConditionTrue st.conditions type

structure OperationStatus.Consistent (st : OperationStatus) : Prop where
  running : st.shows "Running" = true → st.phase = .running
  blocked : st.shows "Blocked" = true → st.phase = .pending
  succeeded : st.shows "Succeeded" = true ↔ st.phase = .succeeded
  failed : st.shows "Failed" = true ↔ st.phase = .failed
  finished : st.finishedAt.isSome = true ↔ st.phase.terminal = true

theorem consistent_empty : OperationStatus.Consistent {} := by
  constructor <;> decide

section writes

variable {now : ℕ} {st : OperationStatus} {es : EngineStatus}

theorem OperationStatus.Consistent.congr {st' : OperationStatus} (h : st.Consistent)
    (hphase : st'.phase = st.phase) (hconditions : st'.conditions = st.conditions)
    (hfinished : st'.finishedAt = st.finishedAt) : st'.Consistent := by
  obtain ⟨hr, hb, hs, hf, hfin⟩ := h
  constructor <;>
    simp only [OperationStatus.shows, hphase, hconditions, hfinished] <;> assumption

theorem consistent_blockedStatus (h : st.Consistent) (hterminal : st.phase.terminal = false)
    (hrunning : st.shows "Running" = false) (reason message : String) :
    (blockedStatus now reason message st).Consistent := by
  have hshows : ∀ type, type ≠ "Blocked" → type ≠ "Accepted" →
      (blockedStatus now reason message st).shows type = st.shows type := fun type hb ha => by
    simp only [OperationStatus.shows, blockedStatus, isConditionTrue_setCondition_of_ne ha,
      isConditionTrue_setCondition_of_ne hb]
  have hphase : (blockedStatus now reason message st).phase = .pending := rfl
  have hfinished : (blockedStatus now reason message st).finishedAt = st.finishedAt := rfl
  constructor
  · rw [hshows _ (by decide) (by decide), hrunning]; simp
  · exact fun _ => hphase
  · rw [hshows _ (by decide) (by decide), h.succeeded, hphase]
    cases hp : st.phase <;> simp_all [OperationPhase.terminal]
  · rw [hshows _ (by decide) (by decide), h.failed, hphase]
    cases hp : st.phase <;> simp_all [OperationPhase.terminal]
  · rw [hfinished, h.finished, hterminal, hphase]; rfl

theorem consistent_failedStatus (hrunning : st.shows "Running" = false)
    (hblocked : st.shows "Blocked" = false) (hsucceeded : st.shows "Succeeded" = false)
    (message : String) : (failedStatus now message st).Consistent := by
  have hshows : ∀ type, type ≠ "Failed" →
      (failedStatus now message st).shows type = st.shows type := fun type hne => by
    simp only [OperationStatus.shows, failedStatus, isConditionTrue_setCondition_of_ne hne]
  have hfailed : (failedStatus now message st).shows "Failed" = true := by
    simp [OperationStatus.shows, failedStatus]
  have hphase : (failedStatus now message st).phase = .failed := rfl
  constructor
  · rw [hshows _ (by decide), hrunning]; simp
  · rw [hshows _ (by decide), hblocked]; simp
  · rw [hshows _ (by decide), hsucceeded, hphase]; simp
  · rw [hfailed, hphase]; simp
  · exact ⟨fun _ => rfl, fun _ => rfl⟩

theorem consistent_runningStatus (h : st.Consistent) (hterminal : st.phase.terminal = false)
    (ref : EngineResourceRef) : (runningStatus now ref st).Consistent := by
  have hshows : ∀ type, type ≠ "Accepted" → type ≠ "Running" → type ≠ "Blocked" →
      (runningStatus now ref st).shows type = st.shows type := fun type ha hr hb => by
    simp only [OperationStatus.shows, runningStatus, isConditionTrue_setCondition_of_ne ha,
      isConditionTrue_setCondition_of_ne hr, isConditionTrue_setCondition_of_ne hb]
  have hblocked : (runningStatus now ref st).shows "Blocked" = false := by
    simp [OperationStatus.shows, runningStatus]
  have hphase : (runningStatus now ref st).phase = .running := rfl
  have hfinished : (runningStatus now ref st).finishedAt = st.finishedAt := rfl
  constructor
  · exact fun _ => hphase
  · rw [hblocked]; simp
  · rw [hshows _ (by decide) (by decide) (by decide), h.succeeded, hphase]
    cases hp : st.phase <;> simp_all [OperationPhase.terminal]
  · rw [hshows _ (by decide) (by decide) (by decide), h.failed, hphase]
    cases hp : st.phase <;> simp_all [OperationPhase.terminal]
  · rw [hfinished, h.finished, hterminal, hphase]; rfl

theorem consistent_terminalStatus (h : st.Consistent) (hes : es.Decided) (hdone : es.done = true)
    (hblocked : st.shows "Blocked" = false)
    (hsucceeded : st.phase = .succeeded → es.failed = false)
    (hfailed : st.phase = .failed → es.failed = true) : (terminalStatus now es st).Consistent := by
  have hends := hes.ended hdone
  have hphase : (terminalStatus now es st).phase = es.phase := rfl
  have hfinished : (terminalStatus now es st).finishedAt = some now := rfl
  have hrunning : (terminalStatus now es st).shows "Running" = false := by
    simp [OperationStatus.shows, terminalStatus]
  have hother : (terminalStatus now es st).shows "Blocked" = st.shows "Blocked" := by
    simp only [OperationStatus.shows, terminalStatus,
      isConditionTrue_setCondition_of_ne (show "Blocked" ≠ "Running" by decide)]
    split <;> rw [isConditionTrue_setCondition_of_ne (by decide)]
  cases hf : es.failed with
  | true =>
    have hshows : (terminalStatus now es st).shows "Succeeded" = st.shows "Succeeded" ∧
        (terminalStatus now es st).shows "Failed" = true := by
      simp [OperationStatus.shows, terminalStatus, hf, isConditionTrue_setCondition_of_ne]
    rw [hf, if_pos rfl] at hends
    have hnot : st.shows "Succeeded" ≠ true := fun hs => by
      have := hsucceeded (h.succeeded.mp hs); simp_all
    constructor
    · rw [hrunning]; simp
    · rw [hother, hblocked]; simp
    · rw [hshows.1, hphase, hends]; simp [hnot]
    · rw [hshows.2, hphase, hends]; simp
    · rw [hfinished, hphase, hends]; simp [OperationPhase.terminal]
  | false =>
    have hshows : (terminalStatus now es st).shows "Failed" = st.shows "Failed" ∧
        (terminalStatus now es st).shows "Succeeded" = true := by
      simp [OperationStatus.shows, terminalStatus, hf, isConditionTrue_setCondition_of_ne]
    rw [hf, if_neg (by simp)] at hends
    have hnot : st.shows "Failed" ≠ true := fun hs => by
      have := hfailed (h.failed.mp hs); simp_all
    constructor
    · rw [hrunning]; simp
    · rw [hother, hblocked]; simp
    · rw [hshows.2, hphase, hends]; simp
    · rw [hshows.1, hphase, hends]; simp [hnot]
    · rw [hfinished, hphase, hends]; simp [OperationPhase.terminal]

theorem consistent_inFlightStatus (h : st.Consistent) (hphase : es.phase = st.phase) :
    (inFlightStatus es st).Consistent := h.congr hphase rfl rfl

end writes

def WritesConsistent : Event → Prop
  | .statusWritten op => op.status.Consistent
  | _ => True

/-- The operation as the engine gets to see it: one that runs is backfilled first. -/
def observedAs (now : ℕ) (op : Operation) (target : ApplicationInstance) : Operation :=
  if op.status.phase = .running then op.withStatus (backfilledStatus now op target) else op

/-- What the engine answers about a started operation can be written down: an error that is not
recorded, or comes before anything says that the operation runs or has succeeded; a verdict,
unless there is another one; or that the work of an operation that runs goes on. -/
def Recordable (now : ℕ) (op : Operation) : Except GoError EngineStatus → Prop
  | .error e => e.sentinel = none ∨
      (e.sentinel = some .workloadMissing ∧ op.status.phase = .running ∧
        now < op.status.startedAt.getD now + workloadMissingGrace) ∨
      (op.status.shows "Running" = false ∧ op.status.shows "Succeeded" = false)
  | .ok es =>
      if es.done then
        (op.status.phase = .succeeded → es.failed = false) ∧
          (op.status.phase = .failed → es.failed = true)
      else op.status.phase = .running

/-- What must hold before a reconcile at the gate for the statuses it writes to be consistent: the
gate does not hold back an operation that runs or has finished; `Materialize` works for an
operation that was held back; and what the engine says of a started one can be written down. -/
def Orderly (r : OperationReconciler) (env : Env) (c : Cluster) (op : Operation) : Prop :=
  match admission r env c op with
  | .error _ => True
  | .ok (.blocked _ _) => op.status.phase.terminal = false ∧ op.status.shows "Running" = false
  | .ok (.proceed target engine) =>
      if unstarted op then
        op.status.shows "Blocked" = true → ∃ u,
          ((engine.materialize op target).run ⟨env.fault, c.instances⟩ c.workloads).result = .ok u
      else
        Recordable env.now op ((engine.status (observedAs env.now op target)).run
          ⟨env.fault, c.instances⟩ c.workloads).result

section reconcile

variable {env : Env} {op : Operation} {is : Store ApplicationInstance} {w : Workloads}
  {engine : Engine} {target : ApplicationInstance} {veleroNs : String}

theorem triple_failOperation_consistent (hrunning : op.status.shows "Running" = false)
    (hblocked : op.status.shows "Blocked" = false) (hsucceeded : op.status.shows "Succeeded" = false)
    (message : String) :
    Triple env (Holds op is) (failOperation op message) WritesConsistent (fun _ _ => True) :=
  triple_now_bind (.post (triple_updateStatus_report _ _ _ _ _
    (consistent_failedStatus hrunning hblocked hsucceeded message) fun _ => trivial)
    fun _ _ _ => trivial)

theorem triple_handleEngineStatusError_consistent (h : op.status.Consistent)
    (hblocked : op.status.shows "Blocked" = false) {e : GoError}
    (hrecordable : Recordable env.now op (.error e)) :
    Triple env (Holds op is) (handleEngineStatusError op e) WritesConsistent (fun _ _ => True) := by
  rcases hrecordable with hplain | ⟨hmissing, hrunning, hgrace⟩ | ⟨hrunning, hsucceeded⟩
  · simp only [handleEngineStatusError, hplain]
    exact .throw
  · simp only [handleEngineStatusError, hmissing, if_pos hrunning]
    cases hstarted : op.status.startedAt with
    | none =>
      refine triple_now_bind (.bind (.mapError (triple_updateStatus _ _ ?_)) fun _ =>
        .pure fun _ _ => trivial)
      exact h.congr rfl rfl rfl
    | some t =>
      rw [hstarted, Option.getD_some] at hgrace
      refine triple_now_bind ?_
      rw [if_pos hgrace]
      exact .pure fun _ _ => trivial
  · have hfail : Triple env (Holds op is) (failOperation op e.msg) WritesConsistent
        (fun _ _ => True) := triple_failOperation_consistent hrunning hblocked hsucceeded e.msg
    unfold handleEngineStatusError
    split
    · exact hfail
    · exact hfail
    · split
      · split
        · refine triple_now_bind (.bind (.mapError (triple_updateStatus _ _ ?_)) fun _ =>
            .pure fun _ _ => trivial)
          exact h.congr rfl rfl rfl
        · refine triple_now_bind ?_
          split
          · exact .pure fun _ _ => trivial
          · exact hfail
      · exact hfail
    · exact .throw

theorem triple_observe_consistent
    (hengine : (builtinRegistry veleroNs).get op.spec.engine = some engine)
    (h : op.status.Consistent) (hblocked : op.status.shows "Blocked" = false)
    (hrecordable : Recordable env.now op ((engine.status op).run ⟨env.fault, is⟩ w).result) :
    Triple env (HoldsWith op is w) (observe engine op) WritesConsistent (fun _ _ => True) := by
  refine .bind (triple_attempt_runEngine_with _ fun _ _ => trivial) fun res => ?_
  rintro c ⟨hres, hc, -⟩
  rw [hres] at hrecordable
  cases res with
  | error e => exact triple_handleEngineStatusError_consistent h hblocked hrecordable c hc
  | ok es =>
    have hdecided := decided_of_status hengine hres
    simp only [Recordable] at hrecordable
    simp only
    split
    · next hdone =>
      rw [if_pos hdone] at hrecordable
      exact triple_now_bind (.post (triple_updateStatus_report _ _ _ _ _
        (consistent_terminalStatus h hdecided hdone hblocked hrecordable.1 hrecordable.2)
        fun _ => trivial) fun _ _ _ => trivial) c hc
    · next hdone =>
      rw [if_neg hdone] at hrecordable
      have hphase : es.phase = op.status.phase :=
        (hdecided.ongoing (by simpa using hdone)).trans hrecordable.symm
      exact (triple_updateStatus_report _ _ _ _ _ (consistent_inFlightStatus h hphase)
        fun _ => trivial).post (fun _ _ _ => trivial) c hc

theorem status_observedAs (now : ℕ) (op : Operation) (target : ApplicationInstance) :
    (observedAs now op target).status.phase = op.status.phase ∧
      (observedAs now op target).status.conditions = op.status.conditions ∧
      (observedAs now op target).status.finishedAt = op.status.finishedAt ∧
      (op.status.phase = .running →
        (observedAs now op target).status.startedAt = some (op.status.startedAt.getD now)) := by
  unfold observedAs
  split
  · exact ⟨rfl, rfl, rfl, fun _ => rfl⟩
  · next hphase => exact ⟨rfl, rfl, rfl, fun hrunning => absurd hrunning hphase⟩

theorem recordable_observedAs {res : Except GoError EngineStatus}
    (h : Recordable env.now op res) : Recordable env.now (observedAs env.now op target) res := by
  obtain ⟨hphase, hconditions, -, hstarted⟩ := status_observedAs env.now op target
  cases res with
  | ok es => simpa only [Recordable, hphase] using h
  | error e =>
    simp only [Recordable, OperationStatus.shows, hphase, hconditions] at h ⊢
    refine h.imp_right (.imp_left fun hgrace => ⟨hgrace.1, hgrace.2.1, ?_⟩)
    rw [hstarted hgrace.2.1]
    exact hgrace.2.2

theorem triple_backfill_with {E : Event → Prop}
    (hwritten : E (.statusWritten (op.withStatus (backfilledStatus env.now op target)))) :
    Triple env (HoldsWith op is w) (backfillEngineRefIfNeeded op target) E
      (fun op' c => op' = observedAs env.now op target ∧ HoldsWith op' is w c) := by
  unfold backfillEngineRefIfNeeded observedAs
  split
  · exact .pure fun _ h => ⟨rfl, h⟩
  next hphase =>
  rw [if_pos (not_not.mp hphase)]
  split
  · next hcomplete =>
    rw [backfilledStatus_of_complete env.now target hcomplete]
    exact .pure fun _ h => ⟨rfl, h⟩
  · exact triple_now_bind (.mapError (triple_updateStatus_with _ _ hwritten))

theorem triple_backfill_observe_consistent
    (hengine : (builtinRegistry veleroNs).get op.spec.engine = some engine)
    (h : op.status.Consistent) (hblocked : op.status.shows "Blocked" = false)
    (hrecordable : Recordable env.now (observedAs env.now op target)
      ((engine.status (observedAs env.now op target)).run ⟨env.fault, is⟩ w).result) :
    Triple env (HoldsWith op is w)
      (do let op ← backfillEngineRefIfNeeded op target; observe engine op) WritesConsistent
      (fun _ _ => True) := by
  have hbackfilled : (backfilledStatus env.now op target).Consistent := h.congr rfl rfl rfl
  refine .bind (triple_backfill_with (E := WritesConsistent) hbackfilled) fun op' => ?_
  rintro c ⟨rfl, hc⟩
  obtain ⟨hphase, hconditions, hfinished, -⟩ := status_observedAs env.now op target
  have hspec : (observedAs env.now op target).spec = op.spec := by unfold observedAs; split <;> rfl
  refine triple_observe_consistent (hspec ▸ hengine) (h.congr hphase hconditions hfinished) ?_
    hrecordable c hc
  rwa [OperationStatus.shows, hconditions]

/-- The status of an operation whose engine has just been started. -/
abbrev startedStatus (now : ℕ) (op : Operation) (target : ApplicationInstance) : OperationStatus :=
  runningStatus now (newEngineResourceRef op target (engineResourceKind op.spec.engine)) op.status

theorem triple_start_with {E : Event → Prop} (hun : unstarted op = true)
    (hmaterialize : E (.materialize op)) (hworkload : ∀ e, E (.workload e))
    (hwritten : E (.statusWritten (op.withStatus (startedStatus env.now op target))))
    (hreported : ∀ op' prev, E (.reported op' prev)) :
    Triple env (HoldsWith op is w) (start engine op target) E
      (fun res c => let m := (engine.materialize op target).run ⟨env.fault, is⟩ w
        match res with
        | .error e => m.result = .error e ∧ HoldsWith op is m.state c
        | .ok op' => m.result = .ok () ∧ op' = op.withStatus (startedStatus env.now op target) ∧
            HoldsWith op' is m.state c) := by
  unfold start
  rw [if_pos hun]
  refine .bind (.emit (Q := fun _ => HoldsWith op is w) hmaterialize fun _ h => h) fun _ => ?_
  refine .bind (triple_attempt_runEngine_with _ fun e _ => hworkload e) fun res => ?_
  cases res with
  | error e => exact .pure fun _ h => h
  | ok u =>
    refine .of_fact fun hok => triple_now_bind ?_
    refine .post (triple_updateStatus_report_with _ _ _ _ _ hwritten fun _ => hreported _ _) ?_
    rintro _ c ⟨rfl, hc⟩
    exact ⟨hok, rfl, hc⟩

theorem engineLocation_of_target
    (htarget : is.get ⟨op.metadata.ns, op.spec.targetRef.name⟩ = some target) :
    engineLocation is op = some (workloadKey op target) := by
  unfold engineLocation workloadKey
  rw [htarget]
  cases op.status.engineRef.filter fun ref => ref.ns ≠ "" && ref.name ≠ "" <;> rfl

theorem workloadKey_started (now : ℕ) :
    workloadKey (op.withStatus (startedStatus now op target)) target =
      ⟨targetNamespace target, materializedName op⟩ := by
  unfold workloadKey
  simp only [Operation.status_withStatus, startedStatus, runningStatus, newEngineResourceRef,
    Option.filter_some]
  split_ifs <;> rfl

theorem recordable_of_started
    (hengine : (builtinRegistry veleroNs).get op.spec.engine = some engine)
    (htarget : is.get ⟨op.metadata.ns, op.spec.targetRef.name⟩ = some target)
    (hok : ((engine.materialize op target).run ⟨env.fault, is⟩ w).result = .ok ()) :
    let op' := observedAs env.now (op.withStatus (startedStatus env.now op target)) target
    Recordable env.now op' ((engine.status op').run ⟨env.fault, is⟩
      ((engine.materialize op target).run ⟨env.fault, is⟩ w).state).result := by
  intro op'
  have hop' : op' = op.withStatus _ := if_pos rfl
  have hphase : op'.status.phase = .running := by rw [hop']; rfl
  cases hres : ((engine.status op').run ⟨env.fault, is⟩
      ((engine.materialize op target).run ⟨env.fault, is⟩ w).state).result with
  | ok es =>
    simp only [Recordable, hphase]
    split <;> simp
  | error e =>
    have hplace : engineLocation is op' = some ⟨targetNamespace target, materializedName op⟩ := by
      rw [engineLocation_of_target (by rw [hop']; exact htarget), ← workloadKey_started env.now,
        ← workloadKey_backfilled env.now]
      rfl
    have hown := inPlace_of_materialize hengine hok
    exact .inl (sentinel_of_status hengine hplace (by rw [hop']; exact hown) hres)

theorem triple_proceed_consistent
    (hengine : (builtinRegistry veleroNs).get op.spec.engine = some engine)
    (htarget : is.get ⟨op.metadata.ns, op.spec.targetRef.name⟩ = some target)
    (h : op.status.Consistent)
    (hmaterialize : unstarted op = true → op.status.shows "Blocked" = true →
      ∃ u, ((engine.materialize op target).run ⟨env.fault, is⟩ w).result = .ok u)
    (hrecordable : unstarted op = false → Recordable env.now op
      ((engine.status (observedAs env.now op target)).run ⟨env.fault, is⟩ w).result) :
    Triple env (HoldsWith op is w) (proceed engine op target) WritesConsistent
      (fun _ _ => True) := by
  unfold proceed
  cases hun : unstarted op with
  | true =>
    have hterminal : op.status.phase.terminal = false := by
      unfold unstarted at hun
      cases hp : op.status.phase <;> simp_all [OperationPhase.terminal]
    have hnot : ∀ type phase, (op.status.shows type = true → op.status.phase = phase) →
        (phase = .running ∨ phase = .succeeded) → op.status.shows type = false := by
      intro type phase himp hphase
      by_contra htrue
      rw [Bool.not_eq_false] at htrue
      have := himp htrue
      unfold unstarted at hun
      rcases hphase with rfl | rfl <;> simp_all
    have hrunning : (startedStatus env.now op target).Consistent :=
      consistent_runningStatus h hterminal _
    refine .bind (triple_start_with hun trivial (fun _ => trivial) hrunning
      fun _ _ => trivial) fun res => ?_
    cases res with
    | error e =>
      rintro c ⟨herr, hc, -⟩
      have hblocked : op.status.shows "Blocked" = false := by
        by_contra htrue
        obtain ⟨u, hu⟩ := hmaterialize hun (by simpa using htrue)
        exact absurd (hu.symm.trans herr) (by simp)
      exact triple_failOperation_consistent (hnot _ _ h.running (.inl rfl)) hblocked
        (hnot _ _ h.succeeded.mp (.inr rfl)) e.msg c hc
    | ok op' =>
      rintro c ⟨hok, rfl, hc⟩
      have hengine' : (builtinRegistry veleroNs).get
          (op.withStatus (startedStatus env.now op target)).spec.engine = some engine := hengine
      refine triple_backfill_observe_consistent hengine' hrunning ?_
        (recordable_of_started hengine htarget hok) c hc
      simp [OperationStatus.shows, runningStatus]
  | false =>
    have hstart : start engine op target = pure (.ok op) := by rw [start, hun]; rfl
    have hblocked : op.status.shows "Blocked" = false := by
      by_contra htrue
      rw [unstarted, h.blocked (by simpa using htrue)] at hun
      exact absurd hun (by simp)
    rw [hstart]
    refine .bind (.pure (Q := fun res c => res = .ok op ∧ HoldsWith op is w c)
      fun _ hc => ⟨rfl, hc⟩) fun res => ?_
    rintro c ⟨rfl, hc⟩
    exact triple_backfill_observe_consistent hengine h hblocked
      (recordable_observedAs (hrecordable hun)) c hc

end reconcile

section runs

variable {hmac : String → String → String} {secret veleroNs : String} {env : Env} {c : Cluster}
  {k : ObjectKey} {op : Operation}

theorem consistent_of_statusWritten (hgate : AtGate env c k op) (h : op.status.Consistent)
    (horderly : Orderly (operatorReconciler hmac secret veleroNs) env c op) {op' : Operation}
    (he : .statusWritten op' ∈
      ((reconcile (operatorReconciler hmac secret veleroNs) k).run env c).trace) :
    op'.status.Consistent := by
  have hget : c.operations.get op.key = some op := hgate.key_eq ▸ hgate.stored
  have hheld : GateEvent (operatorReconciler hmac secret veleroNs) env c op (.statusWritten op') →
      op'.status.Consistent := by
    rintro ⟨reason, message, hans, -, rfl⟩
    rw [Orderly, hans] at horderly
    exact consistent_blockedStatus h horderly.1 horderly.2 reason message
  rw [run_reconcile_of_atGate hgate, Outcome.trace_after, List.mem_append] at he
  rcases he with he | he
  · exact hheld (gateEvent_of_mem_gateTrace he)
  cases hans : admission (operatorReconciler hmac secret veleroNs) env c op with
  | error e => rw [hans] at he; exact absurd he (by simp)
  | ok answer =>
    rw [hans] at he
    cases answer with
    | blocked reason message =>
      rcases mem_trace_carryOut hget hans he with hgated | ⟨target, engine, hopen, -⟩
      · exact hheld hgated
      · exact absurd (hans.symm.trans hopen) (by simp)
    | proceed target engine =>
      have hopen := openGate_of_admission hans
      rw [Orderly, hans] at horderly
      simp only at horderly
      have htriple : Triple env (HoldsWith op c.instances c.workloads) (proceed engine op target)
          WritesConsistent (fun _ _ => True) := triple_proceed_consistent hopen.engine hopen.target h
        (fun hun hblocked => by rw [if_pos hun] at horderly; exact horderly hblocked)
        (fun hun => by rw [if_neg (by simp [hun])] at horderly; exact horderly)
      exact (htriple c ⟨⟨hget, rfl⟩, rfl⟩).1 _ he

theorem orderly_of_fresh {r : OperationReconciler} (hun : unstarted op = true)
    (hrunning : op.status.shows "Running" = false) (hblocked : op.status.shows "Blocked" = false) :
    Orderly r env c op := by
  unfold Orderly
  split
  · trivial
  · refine ⟨?_, hrunning⟩
    unfold unstarted at hun
    cases hp : op.status.phase <;> simp_all [OperationPhase.terminal]
  · rw [if_pos hun, hblocked]
    simp

/-- A step that is orderly: a reconcile at the gate is, and the rest of the world brings in no
status of its own. -/
def OrderlyStep (r : OperationReconciler) (c : Cluster) : Action → Prop
  | .reconcile env k => ∀ op, AtGate env c k op → Orderly r env c op
  | .environment change => ∀ op' ∈ (change c).operations.items,
      op'.status = {} ∨ ∃ op ∈ c.operations.items, op'.status = op.status

def AllConsistent (s : Store Operation) : Prop := ∀ op ∈ s.items, op.status.Consistent

theorem allConsistent_storedAfter (h : AllConsistent c.operations)
    (horderly : OrderlyStep (operatorReconciler hmac secret veleroNs) c (.reconcile env k))
    {t : List Event}
    (ht : t <+: ((reconcile (operatorReconciler hmac secret veleroNs) k).run env c).trace) :
    AllConsistent (storedAfter t c.operations) := by
  intro op' hop'
  have hget : (storedAfter t c.operations).get op'.key = some op' := Store.get_of_mem hop'
  by_cases hk : op'.key = k
  · rw [hk] at hget
    obtain ⟨op, hop, -, -, ⟨hsame, -⟩ | hwritten⟩ := get_storedAfter_self ht hget
    · rw [hsame]
      exact h op (Store.mem_of_get hop)
    · obtain ⟨op₁, -, hgate, -⟩ := statusWritten_reconcile (ht.subset hwritten)
      exact consistent_of_statusWritten hgate (h op₁ (Store.mem_of_get hgate.stored))
        (horderly op₁ hgate) (ht.subset hwritten)
  · rw [get_storedAfter_of_ne ht hk] at hget
    exact h op' (Store.mem_of_get hget)

theorem allConsistent_step {a : Action} (h : AllConsistent c.operations)
    (horderly : OrderlyStep (operatorReconciler hmac secret veleroNs) c a) :
    AllConsistent (step (operatorReconciler hmac secret veleroNs) c a).operations := by
  cases a with
  | reconcile env k =>
    rw [operations_step_reconcile]
    exact allConsistent_storedAfter h horderly (List.prefix_refl _)
  | environment change =>
    intro op' hop'
    rcases horderly op' hop' with hempty | ⟨op, hop, hsame⟩
    · rw [hempty]; exact consistent_empty
    · rw [hsame]; exact h op hop

theorem consistent_of_orderly (hmac : String → String → String) (secret veleroNs : String)
    (c : Cluster) (as : List Action) (s : Store Operation) (hinit : AllConsistent c.operations)
    (horderly : Along (step (operatorReconciler hmac secret veleroNs))
      (OrderlyStep (operatorReconciler hmac secret veleroNs)) c as)
    (hs : Persisted (operatorReconciler hmac secret veleroNs) c as s) : AllConsistent s := by
  rcases hs with rfl | ⟨pre, a, post, t, rfl, ht, rfl⟩
  · exact exec_of_along (I := fun c => AllConsistent c.operations) horderly
      (fun _ _ hstep h => allConsistent_step h hstep) hinit
  · rw [along_append] at horderly
    have hpre : AllConsistent (exec (step _) c pre).operations :=
      exec_of_along (I := fun c => AllConsistent c.operations) horderly.1
        (fun _ _ hstep h => allConsistent_step h hstep) hinit
    cases a with
    | reconcile env k => exact allConsistent_storedAfter hpre horderly.2.1 ht
    | environment change =>
      rw [show t = [] from List.prefix_nil.mp ht]
      exact hpre

end runs

theorem allConsistent_beforeBackup : AllConsistent beforeBackup.operations := by
  intro op hop
  have hempty : ∀ op ∈ beforeBackup.operations.items, op.status = {} := by decide +kernel
  rw [hempty op hop]
  exact consistent_empty

theorem started_backup_consistent :
    AllConsistent (exec (step plainOperator) beforeBackup startBackup).operations := by
  refine consistent_of_orderly (fun _ _ => "") "" "velero" beforeBackup startBackup _
    allConsistent_beforeBackup ?_ (.inl rfl)
  have hfresh : ∀ c : Cluster, (∀ op ∈ c.operations.items, op.status = {}) → ∀ now,
      OrderlyStep plainOperator c (.reconcile { now } ⟨"team-a", "nightly"⟩) := by
    intro c hc now op hgate
    have hstatus := hc op (Store.mem_of_get hgate.stored)
    exact orderly_of_fresh (by rw [unstarted, hstatus]) (by rw [hstatus]; rfl) (by rw [hstatus]; rfl)
  exact ⟨hfresh _ (by decide +kernel) 100, hfresh _ (by decide +kernel) 101, trivial⟩

theorem deleted_target_leaves_running :
    let as := startBackup ++ [.environment fun c =>
        { c with instances := c.instances.erase ⟨"team-a", "app"⟩ },
      .reconcile { now := 110 } ⟨"team-a", "nightly"⟩]
    let c := exec (step plainOperator) beforeBackup as
    AllConsistent beforeBackup.operations ∧ Persisted plainOperator beforeBackup as c.operations ∧
      (statusAt c ⟨"team-a", "nightly"⟩).map (fun st => (st.phase, st.shows "Running")) =
        some (.pending, true) ∧ ¬ AllConsistent c.operations := by
  intro as c
  have hstatus : (statusAt c ⟨"team-a", "nightly"⟩).map (fun st => (st.phase, st.shows "Running")) =
      some (.pending, true) := by decide +kernel
  refine ⟨allConsistent_beforeBackup, .inl rfl, hstatus, fun h => ?_⟩
  obtain ⟨st, hst, hshows⟩ := Option.map_eq_some_iff.mp hstatus
  obtain ⟨op, hop, rfl⟩ := statusAt_eq_some_iff.mp hst
  have hrunning := (h op (Store.mem_of_get hop)).running (congrArg Prod.snd hshows)
  exact absurd (hrunning.symm.trans (congrArg Prod.fst hshows)) (by simp)

end VWorkspace
