import VWorkspaceOperator.Controller.Gate
import VWorkspaceOperator.Controller.Journal
import VWorkspaceOperator.Engines.Effects

/-!
# What a reconcile can do

The effects of a reconcile, said once for all properties that follow: every
event of its trace comes from the finalizer, from a gate that holds the
operation back, or from behind an open gate.
-/

namespace VWorkspace

open Kit Ctl Prog

variable {α : Type} {P : Cluster → Prop} {st₀ : OperationStatus} {e : Event} {op' : Operation}
  (s : Site) (st : OperationStatus)

def Reports (engine : Engine) (phase : OperationPhase) : Prop :=
  ∃ op env w es, ((engine.status op).run env w).result = .ok es ∧ es.phase = phase

/-- An event of the engine's `Materialize`, for an operation that has not been
started, or of its `Status`, for the operation with whatever status. -/
def EngineDid (env : EngineEnv) (engine : Engine) (op : Operation) (target : ApplicationInstance)
    (e : WorkloadEvent) : Prop :=
  (unstarted op = true ∧ ∃ w, e ∈ ((engine.materialize op target).run env w).trace) ∨
    ∃ st w, e ∈ ((engine.status (op.withStatus st)).run env w).trace

/-- What can happen behind an open gate: statuses of the operation are written,
with a phase that says it runs, has failed, or what the engine reports;
`Materialize` is called for an operation that has not been started; and the
engine does its work. -/
def ProceedEvent (env : EngineEnv) (engine : Engine) (op : Operation)
    (target : ApplicationInstance) : Event → Prop
  | .statusWritten op' => ∃ st, op' = op.withStatus st ∧
      (st.phase = .running ∨ st.phase = .failed ∨ Reports engine st.phase)
  | .materialize op' => op' = op ∧ unstarted op = true
  | .reported _ _ => True
  | .workload e => EngineDid env engine op target e
  | _ => False

def Holds (op : Operation) (is : Store ApplicationInstance) (c : Cluster) : Prop :=
  c.operations.get op.key = some op ∧ c.instances = is

/-- The cluster holds `op`, the instances are `is` and the workloads `w`. -/
def HoldsWith (op : Operation) (is : Store ApplicationInstance) (w : Workloads) (c : Cluster) :
    Prop :=
  Holds op is c ∧ c.workloads = w

section proceed

variable {env : Env} {op op₀ : Operation} {is : Store ApplicationInstance}
  {E : Event → Prop}

theorem run_now_bind {c : Cluster} (f : ℕ → Ctl α) :
    (now >>= f).run env c = (f env.now).run env c := rfl

theorem run_updateStatus {c : Cluster} (hget : c.operations.get op.key = some op) (s : Site)
    (st : OperationStatus) :
    (updateStatus s (op.withStatus st)).run env c =
      match env.fault s with
      | none => ⟨.ok (op.withStatus st),
          { c with operations := c.operations.put (op.withStatus st) },
          [.statusWritten (op.withStatus st)]⟩
      | some msg => ⟨.error { msg }, c, []⟩ := by
  have hkey : (op.withStatus st).key = op.key := rfl
  cases hf : env.fault s with
  | some msg => simp only [updateStatus, run_bind, run_call_of_some hf]
  | none =>
    simp only [updateStatus, run_bind, run_call_of_none hf, run_get, hkey, hget]
    rfl

theorem run_updateStatus_report {c : Cluster} (hget : c.operations.get op.key = some op) (s : Site)
    (st : OperationStatus) (f : GoError → GoError) (prev : List Condition) (res : Result) :
    (do let op' ← (updateStatus s (op.withStatus st)).mapError f
        reportConditions op' prev
        pure res : Ctl Result).run env c =
      match env.fault s with
      | none => ⟨.ok res, { c with operations := c.operations.put (op.withStatus st) },
          [.statusWritten (op.withStatus st), .reported (op.withStatus st) prev]⟩
      | some msg => ⟨.error (f { msg }), c, []⟩ := by
  simp only [run_bind, run_mapError, run_updateStatus hget]
  cases env.fault s <;> rfl

theorem triple_now : Triple env P now E (fun _ => P) :=
  fun _ hc => ⟨by simp [now, run_bind], fun _ _ => hc⟩

theorem triple_now_bind {Q : α → Cluster → Prop} {f : ℕ → Ctl α}
    (h : Triple env P (f env.now) E Q) : Triple env P (now >>= f) E Q :=
  fun c hc => by rw [run_now_bind]; exact h c hc

theorem triple_of_holdsWith {x : Ctl α} {Q : Workloads → α → Cluster → Prop}
    {Q' : α → Cluster → Prop} (h : ∀ w, Triple env (HoldsWith op is w) x E (Q w))
    (hQ : ∀ w a c, Q w a c → Q' a c) : Triple env (Holds op is) x E Q' :=
  fun c hc => ⟨(h c.workloads c ⟨hc, rfl⟩).1, fun a ha => hQ _ _ _ ((h _ c ⟨hc, rfl⟩).2 a ha)⟩

theorem triple_updateStatus_with {w : Workloads} (hE : E (.statusWritten (op.withStatus st))) :
    Triple env (HoldsWith op is w) (updateStatus s (op.withStatus st)) E
      (fun op' c => op' = op.withStatus st ∧ HoldsWith op' is w c) := by
  rintro c ⟨⟨hget, his⟩, hw⟩
  rw [run_updateStatus hget]
  cases env.fault s with
  | some msg => exact ⟨by simp, fun _ h => absurd h (by simp)⟩
  | none =>
    refine ⟨by simpa using hE, fun op' h => ?_⟩
    rw [Except.ok.injEq] at h
    exact ⟨h.symm, h ▸ ⟨⟨Store.get_put_self _ _, his⟩, hw⟩⟩

theorem triple_updateStatus (hE : E (.statusWritten (op.withStatus st))) :
    Triple env (Holds op is) (updateStatus s (op.withStatus st)) E
      (fun op' c => op' = op.withStatus st ∧ Holds op' is c) :=
  triple_of_holdsWith (fun _ => triple_updateStatus_with s st hE) fun _ _ _ h => ⟨h.1, h.2.1⟩

theorem triple_attempt_runEngine_with {w : Workloads} (x : EngineM α)
    (hE : ∀ e ∈ (x.run ⟨env.fault, is⟩ w).trace, E (.workload e)) :
    Triple env (HoldsWith op is w) (runEngine x).attempt E
      (fun res c => (x.run ⟨env.fault, is⟩ w).result = res ∧
        HoldsWith op is (x.run ⟨env.fault, is⟩ w).state c) := by
  refine .attempt fun c hc => ?_
  obtain ⟨⟨hget, rfl⟩, rfl⟩ := hc
  refine ⟨fun e he => ?_, rfl, ⟨hget, rfl⟩, rfl⟩
  obtain ⟨e', he', rfl⟩ := List.mem_map.mp he
  exact hE e' he'

theorem triple_attempt_runEngine (x : EngineM α)
    (hE : ∀ w, ∀ e ∈ (x.run ⟨env.fault, is⟩ w).trace, E (.workload e)) :
    Triple env (Holds op is) (runEngine x).attempt E
      (fun res c => (∃ w, (x.run ⟨env.fault, is⟩ w).result = res) ∧ Holds op is c) :=
  triple_of_holdsWith (fun w => triple_attempt_runEngine_with x (hE w)) fun w _ _ h =>
    ⟨⟨w, h.1⟩, h.2.1⟩

theorem triple_updateStatus_report_with {w : Workloads} (f : GoError → GoError)
    (prev : List Condition) (answer : Operation → α)
    (hwritten : E (.statusWritten (op.withStatus st))) (hreported : ∀ op', E (.reported op' prev)) :
    Triple env (HoldsWith op is w)
      (do let op' ← (updateStatus s (op.withStatus st)).mapError f
          reportConditions op' prev
          pure (answer op'))
      E (fun a c => a = answer (op.withStatus st) ∧ HoldsWith (op.withStatus st) is w c) := by
  refine .bind (.mapError (triple_updateStatus_with s st hwritten)) fun op' => ?_
  refine .bind (Q := fun _ c => op' = op.withStatus st ∧ HoldsWith op' is w c)
    (.emit (hreported op') fun _ h => h) fun _ => .pure ?_
  rintro c ⟨rfl, hc⟩
  exact ⟨rfl, hc⟩

theorem triple_updateStatus_report (f : GoError → GoError) (prev : List Condition)
    (answer : Operation → α) (hwritten : E (.statusWritten (op.withStatus st)))
    (hreported : ∀ op', E (.reported op' prev)) :
    Triple env (Holds op is)
      (do let op' ← (updateStatus s (op.withStatus st)).mapError f
          reportConditions op' prev
          pure (answer op'))
      E (fun a c => a = answer (op.withStatus st) ∧ Holds (op.withStatus st) is c) :=
  triple_of_holdsWith (fun _ => triple_updateStatus_report_with s st f prev answer hwritten
    hreported) fun _ _ _ h => ⟨h.1, h.2.1⟩

variable {engine : Engine} {target : ApplicationInstance}

theorem triple_failOperation (message : String) (hop : op = op₀.withStatus st₀) :
    Triple env (Holds op is) (failOperation op message)
      (ProceedEvent ⟨env.fault, is⟩ engine op₀ target) (fun _ _ => True) := by
  subst hop
  refine .bind triple_now fun t => ?_
  have hwritten : ProceedEvent ⟨env.fault, is⟩ engine op₀ target
      (.statusWritten (op₀.withStatus (failedStatus t message st₀))) :=
    ⟨_, rfl, .inr (.inl rfl)⟩
  exact .post (triple_updateStatus_report _ _ _ _ _ hwritten fun _ => trivial) fun _ _ _ => trivial

theorem triple_start :
    Triple env (Holds op is) (start engine op target)
      (ProceedEvent ⟨env.fault, is⟩ engine op target)
      (fun res c => match res with
        | .error _ => Holds op is c
        | .ok op' => (∃ st, op' = op.withStatus st) ∧ Holds op' is c) := by
  unfold start
  split
  · next hun =>
    refine .bind (.emit (Q := fun _ => Holds op is) ⟨rfl, hun⟩ fun _ h => h) fun _ => ?_
    refine .bind (triple_attempt_runEngine _ fun w e he => .inl ⟨hun, w, he⟩) fun res => ?_
    cases res with
    | error e => exact .pure fun _ h => h.2
    | ok u =>
      refine .bind triple_now fun t => ?_
      refine .conseq (triple_updateStatus_report _ _ _ _ _ ?_ fun _ => trivial) (fun _ h => h.2)
        (fun _ h => h) ?_
      · exact ⟨_, rfl, .inl rfl⟩
      · rintro _ c ⟨rfl, hc⟩
        exact ⟨⟨_, rfl⟩, hc⟩
  · exact .pure fun _ h => ⟨⟨op.status, rfl⟩, h⟩

theorem triple_backfillEngineRefIfNeeded (hop : op = op₀.withStatus st₀) :
    Triple env (Holds op is) (backfillEngineRefIfNeeded op target)
      (ProceedEvent ⟨env.fault, is⟩ engine op₀ target)
      (fun op' c => (∃ st, op' = op₀.withStatus st) ∧ Holds op' is c) := by
  subst hop
  unfold backfillEngineRefIfNeeded
  split
  · exact .pure fun _ h => ⟨⟨_, rfl⟩, h⟩
  next hphase =>
  have hrunning : st₀.phase = .running := Decidable.not_not.mp hphase
  split
  · exact .pure fun _ h => ⟨⟨_, rfl⟩, h⟩
  · refine .bind triple_now fun t => ?_
    refine .mapError (.post (triple_updateStatus _ _ ?_) fun op' _ h => ⟨⟨_, h.1⟩, h.2⟩)
    exact ⟨_, rfl, .inl hrunning⟩

theorem triple_handleEngineStatusError (e : GoError) (hop : op = op₀.withStatus st₀) :
    Triple env (Holds op is) (handleEngineStatusError op e)
      (ProceedEvent ⟨env.fault, is⟩ engine op₀ target) (fun _ _ => True) := by
  unfold handleEngineStatusError
  split
  · exact triple_failOperation _ hop
  · exact triple_failOperation _ hop
  · split
    · next hrunning =>
      split
      · -- the phase stays `Running`, only `startedAt` is recorded
        refine .bind triple_now fun t => ?_
        refine .bind (.mapError (triple_updateStatus _ _ ?_)) fun _ => .pure fun _ _ => trivial
        subst hop
        exact ⟨_, rfl, .inl hrunning⟩
      · refine .bind triple_now fun t => ?_
        split
        · exact .pure fun _ _ => trivial
        · exact triple_failOperation _ hop
    · exact triple_failOperation _ hop
  · exact .throw

theorem triple_observe (hop : op = op₀.withStatus st₀) :
    Triple env (Holds op is) (observe engine op)
      (ProceedEvent ⟨env.fault, is⟩ engine op₀ target) (fun _ _ => True) := by
  subst hop
  refine .bind (triple_attempt_runEngine _ fun w e he => .inr ⟨st₀, w, he⟩) fun res => ?_
  cases res with
  | error e =>
    exact .pre (triple_handleEngineStatusError e rfl) fun _ h => h.2
  | ok es =>
    rintro c ⟨⟨w, hw⟩, hc⟩
    have hreports : Reports engine es.phase := ⟨_, _, w, es, hw, rfl⟩
    suffices h : Triple env (Holds (op₀.withStatus st₀) is) _
      (ProceedEvent ⟨env.fault, is⟩ engine op₀ target) (fun _ _ => True) from h c hc
    simp only
    split
    · refine .bind triple_now fun t => ?_
      refine .post (triple_updateStatus_report _ _ _ _ _ ?_ fun _ => trivial) fun _ _ _ => trivial
      exact ⟨_, rfl, .inr (.inr hreports)⟩
    · refine .post (triple_updateStatus_report _ _ _ _ _ ?_ fun _ => trivial) fun _ _ _ => trivial
      exact ⟨_, rfl, .inr (.inr hreports)⟩

theorem proceed_events {c : Cluster} (hget : c.operations.get op.key = some op)
    (he : e ∈ ((proceed engine op target).run env c).trace) :
    ProceedEvent ⟨env.fault, c.instances⟩ engine op target e := by
  have h : Triple env (Holds op c.instances) (proceed engine op target)
      (ProceedEvent ⟨env.fault, c.instances⟩ engine op target) (fun _ _ => True) := by
    refine .bind triple_start fun res => ?_
    cases res with
    | error err => exact triple_failOperation _ (show op = op.withStatus op.status from rfl)
    | ok op' =>
      rintro c' ⟨⟨st, rfl⟩, hc'⟩
      have hrest : Triple env (Holds (op.withStatus st) c.instances)
          (do let op ← backfillEngineRefIfNeeded (op.withStatus st) target; observe engine op)
          (ProceedEvent ⟨env.fault, c.instances⟩ engine op target) (fun _ _ => True) := by
        refine .bind (triple_backfillEngineRefIfNeeded rfl) fun op'' => ?_
        rintro c'' ⟨⟨st', rfl⟩, hc''⟩
        exact triple_observe rfl c'' hc''
      exact hrest c' hc'
  exact (h c ⟨hget, rfl⟩).1 e he

end proceed

/-- A reconcile of `k` that reaches the gate with the stored operation `op`. -/
structure AtGate (env : Env) (c : Cluster) (k : ObjectKey) (op : Operation) : Prop where
  /-- The operation can be read. -/
  readable : env.fault .getOperation = none
  /-- It is the one stored under the key. -/
  stored : c.operations.get k = some op
  /-- It has its finalizer. -/
  finalizer : operationFinalizer ∈ op.metadata.finalizers
  /-- It is not being deleted. -/
  live : op.metadata.deletionTimestamp = none

/-- An event of a reconcile that does not reach the gate: the metadata changes,
the object goes, or the engine of a deleted operation cancels its work. -/
def FinalizerEvent (r : OperationReconciler) (env : EngineEnv) (op : Operation) : Event → Prop
  | .metadataWritten op' => op'.key = op.key ∧ op'.metadata.uid = op.metadata.uid ∧
      op'.spec = op.spec ∧ op'.status = op.status
  | .removed k => k = op.key ∧ op.metadata.deletionTimestamp.isSome
  | .workload e => op.metadata.deletionTimestamp.isSome ∧ ∃ engine w,
      r.engine op.spec.engine = some engine ∧ e ∈ ((engine.cancel op).run env w).trace
  | _ => False

section reconcile

variable {r : OperationReconciler} {env : Env} {c : Cluster} {k : ObjectKey} {op : Operation}

theorem AtGate.key_eq (h : AtGate env c k op) : op.key = k := Store.key_of_get h.stored

theorem run_reconcile_of_unreadable {msg : String} (h : env.fault .getOperation = some msg) :
    (reconcile r k).run env c = ⟨.error { msg }, c, []⟩ := by
  rw [reconcile, run_bind, run_getOperation, h]

theorem run_reconcile_of_absent (h : env.fault .getOperation = none)
    (hget : c.operations.get k = none) : (reconcile r k).run env c = ⟨.ok {}, c, []⟩ := by
  rw [reconcile, run_bind, run_getOperation, h, hget]
  rfl

theorem run_reconcile_of_stored (h : env.fault .getOperation = none)
    (hget : c.operations.get k = some op) :
    (reconcile r k).run env c =
      if operationFinalizer ∉ op.metadata.finalizers then (addFinalizer op).run env c
      else if op.metadata.deletionTimestamp.isSome then (finalizeOperation r op).run env c
      else ((gate r op) >>= carryOut op).run env c := by
  rw [reconcile, run_bind, run_getOperation, h, hget]
  simp only [Outcome.after, List.nil_append]
  split_ifs <;> rfl

theorem run_reconcile_of_atGate (h : AtGate env c k op) :
    (reconcile r k).run env c =
      (match admission r env c op with
        | .error e => (throw e : Ctl Result).run env c
        | .ok answer => (carryOut op answer).run env c).after (gateTrace r env c op) := by
  have hfin : ¬ operationFinalizer ∉ op.metadata.finalizers := not_not.mpr h.finalizer
  have hlive : ¬ op.metadata.deletionTimestamp.isSome = true := by simp [h.live]
  rw [run_reconcile_of_stored h.readable h.stored, if_neg hfin, if_neg hlive, run_bind, run_gate]
  cases admission r env c op with
  | error e => simp [Outcome.after]
  | ok answer => rfl

theorem triple_call {E : Event → Prop} : Triple env P (call s) E (fun _ c => P c) := by
  intro c hc
  cases hf : env.fault s with
  | some msg => rw [run_call_of_some hf]; exact ⟨by simp, fun _ h => absurd h (by simp)⟩
  | none => rw [run_call_of_none hf]; exact ⟨by simp, fun _ _ => hc⟩

theorem triple_updateMetadata {E : Event → Prop} (finalizers : List String)
    (hwritten : E (.metadataWritten
      { op with metadata := { op.metadata with finalizers := finalizers } }))
    (hremoved : op.metadata.deletionTimestamp.isSome → E (.removed op.key)) :
    Triple env (fun c => c.operations.get op.key = some op)
      (updateMetadata s { op with metadata := { op.metadata with finalizers := finalizers } }) E
      (fun _ _ => True) := by
  refine .bind (triple_call s) fun _ => .bind Idle.ask.triple fun env' => .bind (Q := fun c c' =>
    c = c' ∧ c.operations.get op.key = some op) (.get fun _ h => ⟨rfl, h⟩) fun c => ?_
  rintro c' ⟨rfl, hget⟩
  have hkey : ({ op with metadata := { op.metadata with finalizers := finalizers } } :
      Operation).key = op.key := rfl
  rw [hkey, hget]
  simp only
  suffices h : Triple env (fun _ => True) _ E (fun _ _ => True) from h c trivial
  split
  · exact .throw
  · next hanswer => exact .write (hremoved (of_answerUpdate_removed hanswer).1) fun _ _ => trivial
  · exact .write hwritten fun _ _ => trivial

theorem finalizer_events (hstored : c.operations.get op.key = some op)
    (he : e ∈ ((addFinalizer op).run env c).trace ∨
      op.metadata.deletionTimestamp.isSome ∧ e ∈ ((finalizeOperation r op).run env c).trace) :
    FinalizerEvent r ⟨env.fault, c.instances⟩ op e := by
  rcases he with he | ⟨hdel, he⟩
  · have h : Triple env (fun c => c.operations.get op.key = some op) (addFinalizer op)
        (FinalizerEvent r ⟨env.fault, c.instances⟩ op) (fun _ _ => True) :=
      .bind (.mapError (triple_updateMetadata _ _ ⟨rfl, rfl, rfl, rfl⟩ fun hdel =>
        ⟨rfl, hdel⟩)) fun _ =>
        .pure fun _ _ => trivial
    exact (h c hstored).1 e he
  · have hcancel : Triple env (Holds op c.instances) (cancelEngine r op)
        (FinalizerEvent r ⟨env.fault, c.instances⟩ op)
        (fun _ c => c.operations.get op.key = some op) := by
      unfold cancelEngine
      split
      · next engine hengine =>
        rintro c' ⟨hget, his⟩
        refine ⟨fun e he => ?_, fun _ _ => hget⟩
        obtain ⟨w, hw, rfl⟩ := List.mem_map.mp he
        simp only at hw
        rw [his] at hw
        exact ⟨hdel, engine, _, hengine, hw⟩
      · exact .pure fun _ h => h.1
    have h : Triple env (Holds op c.instances) (finalizeOperation r op)
        (FinalizerEvent r ⟨env.fault, c.instances⟩ op) (fun _ _ => True) :=
      .bind hcancel fun _ =>
        .bind (.mapError (triple_updateMetadata _ _ ⟨rfl, rfl, rfl, rfl⟩ fun hdel => ⟨rfl, hdel⟩))
        fun _ => .pure fun _ _ => trivial
    exact (h c ⟨hstored, rfl⟩).1 e he

theorem run_blockOperation (hget : c.operations.get op.key = some op) (reason message : String) :
    (blockOperation op reason message).run env c =
      match env.fault .updateBlocked with
      | none =>
          let op' := op.withStatus (blockedStatus env.now reason message op.status)
          ⟨.ok { requeueAfter := 30 }, { c with operations := c.operations.put op' },
            [.statusWritten op', .reported op' op.status.conditions]⟩
      | some msg => ⟨.error (GoError.wrap "update blocked status" { msg }), c, []⟩ := by
  rw [blockOperation, run_now_bind]
  exact run_updateStatus_report hget _ _ _ _ _

/-- An event of the gate: a claim is verified, or the operation is held back and
its status says so. -/
def GateEvent (r : OperationReconciler) (env : Env) (c : Cluster) (op : Operation) : Event → Prop
  | .verified _ _ _ | .reported _ _ => True
  | .statusWritten op' => ∃ reason message,
      admission r env c op = .ok (.blocked reason message) ∧ env.fault .updateBlocked = none ∧
        op' = op.withStatus (blockedStatus env.now reason message op.status)
  | _ => False

theorem gateEvent_of_mem_gateTrace (he : e ∈ gateTrace r env c op) : GateEvent r env c op e := by
  unfold gateTrace approvalTrace at he
  split at he
  · split at he
    · split at he
      · rw [List.mem_singleton] at he
        subst he
        trivial
      · exact absurd he (by simp)
    · exact absurd he (by simp)
  · exact absurd he (by simp)

theorem mem_trace_carryOut (hstored : c.operations.get op.key = some op) {answer : Admission}
    (hans : admission r env c op = .ok answer) (he : e ∈ ((carryOut op answer).run env c).trace) :
    GateEvent r env c op e ∨ ∃ target engine,
      admission r env c op = .ok (.proceed target engine) ∧
        ProceedEvent ⟨env.fault, c.instances⟩ engine op target e := by
  cases answer with
  | blocked reason message =>
    rw [carryOut, run_blockOperation hstored] at he
    cases hf : env.fault .updateBlocked with
    | some msg => rw [hf] at he; exact absurd he (by simp)
    | none =>
      rw [hf] at he
      simp only [List.mem_cons, List.not_mem_nil, or_false] at he
      rcases he with rfl | rfl
      · exact .inl ⟨reason, message, hans, hf, rfl⟩
      · exact .inl trivial
  | proceed target engine => exact .inr ⟨target, engine, hans, proceed_events hstored he⟩

theorem mem_trace_reconcile (he : e ∈ ((reconcile r k).run env c).trace) :
    ∃ op, c.operations.get k = some op ∧
      (¬ AtGate env c k op ∧ FinalizerEvent r ⟨env.fault, c.instances⟩ op e ∨
        AtGate env c k op ∧ (GateEvent r env c op e ∨
          ∃ target engine, admission r env c op = .ok (.proceed target engine) ∧
            ProceedEvent ⟨env.fault, c.instances⟩ engine op target e)) := by
  cases hread : env.fault .getOperation with
  | some msg => rw [run_reconcile_of_unreadable hread] at he; exact absurd he (by simp)
  | none =>
    cases hget : c.operations.get k with
    | none => rw [run_reconcile_of_absent hread hget] at he; exact absurd he (by simp)
    | some op =>
      rw [run_reconcile_of_stored hread hget] at he
      have hstored : c.operations.get op.key = some op := by
        rwa [show op.key = k from Store.key_of_get hget]
      refine ⟨op, rfl, ?_⟩
      split at he
      · next hfin =>
        exact .inl ⟨fun hgate => hfin hgate.finalizer, finalizer_events hstored (.inl he)⟩
      next hfin =>
      split at he
      · next hdel =>
        refine .inl ⟨fun hgate => ?_, finalizer_events hstored (.inr ⟨hdel, he⟩)⟩
        rw [hgate.live] at hdel
        exact absurd hdel (by simp)
      next hdel =>
      refine .inr ⟨⟨hread, hget, not_not.mp hfin, by simpa using hdel⟩, ?_⟩
      rw [mem_trace_bind, run_gate] at he
      rcases he with he | ⟨answer, hans, he⟩
      · exact .inl (gateEvent_of_mem_gateTrace he)
      · exact mem_trace_carryOut hstored hans he

theorem statusWritten_reconcile (he : .statusWritten op' ∈ ((reconcile r k).run env c).trace) :
    ∃ op st, AtGate env c k op ∧ op' = op.withStatus st ∧
      ((∃ reason message, admission r env c op = .ok (.blocked reason message) ∧
          env.fault .updateBlocked = none ∧ st = blockedStatus env.now reason message op.status) ∨
        ∃ target engine, admission r env c op = .ok (.proceed target engine) ∧
          (st.phase = .running ∨ st.phase = .failed ∨ Reports engine st.phase)) := by
  obtain ⟨op, -, ⟨-, hfin⟩ | ⟨hgate, hheld | ⟨target, engine, hopen, hev⟩⟩⟩ :=
    mem_trace_reconcile he
  · exact hfin.elim
  · obtain ⟨reason, message, hans, hf, hop'⟩ := hheld
    exact ⟨op, _, hgate, hop', .inl ⟨reason, message, hans, hf, rfl⟩⟩
  · obtain ⟨st, hop', hphase⟩ := hev
    exact ⟨op, st, hgate, hop', .inr ⟨target, engine, hopen, hphase⟩⟩

theorem materialize_reconcile (he : .materialize op' ∈ ((reconcile r k).run env c).trace) :
    ∃ target engine, AtGate env c k op' ∧ admission r env c op' = .ok (.proceed target engine) ∧
      unstarted op' = true := by
  obtain ⟨op, -, ⟨-, hfin⟩ | ⟨hgate, hheld | ⟨target, engine, hopen, hev⟩⟩⟩ :=
    mem_trace_reconcile he
  · exact hfin.elim
  · exact hheld.elim
  · obtain ⟨rfl, hun⟩ := hev
    exact ⟨target, engine, hgate, hopen, hun⟩

theorem mem_trace_of_materialize {target : ApplicationInstance} {engine : Engine}
    {e : WorkloadEvent} (hgate : AtGate env c k op)
    (hopen : admission r env c op = .ok (.proceed target engine)) (hun : unstarted op = true)
    (he : e ∈ ((engine.materialize op target).run ⟨env.fault, c.instances⟩ c.workloads).trace) :
    .workload e ∈ ((reconcile r k).run env c).trace := by
  have hstart : .workload e ∈ ((start engine op target).run env c).trace := by
    rw [start, if_pos hun]
    refine mem_trace_bind.mpr (.inr ⟨(), rfl, mem_trace_bind.mpr (.inl ?_)⟩)
    exact List.mem_map_of_mem he
  rw [run_reconcile_of_atGate hgate, hopen, Outcome.trace_after]
  refine List.mem_append_right _ ?_
  simp only [carryOut, proceed]
  exact mem_trace_bind.mpr (.inl hstart)

theorem metadataWritten_reconcile (he : .metadataWritten op' ∈ ((reconcile r k).run env c).trace) :
    ∃ op, c.operations.get k = some op ∧ ¬ AtGate env c k op ∧ op'.key = k ∧
      op'.metadata.uid = op.metadata.uid ∧ op'.spec = op.spec ∧ op'.status = op.status := by
  obtain ⟨op, hop, ⟨hgate, hfin⟩ | ⟨hgate, hheld | ⟨target, engine, hopen, hev⟩⟩⟩ :=
    mem_trace_reconcile he
  · have hkey : op.key = k := Store.key_of_get hop
    exact ⟨op, hop, hgate, hkey ▸ hfin⟩
  · exact hheld.elim
  · exact hev.elim

theorem removed_reconcile {k' : ObjectKey}
    (he : .removed k' ∈ ((reconcile r k).run env c).trace) :
    k' = k ∧ ∃ op, c.operations.get k = some op ∧ op.metadata.deletionTimestamp.isSome := by
  obtain ⟨op, hop, ⟨-, hfin⟩ | ⟨hgate, hheld | ⟨target, engine, hopen, hev⟩⟩⟩ :=
    mem_trace_reconcile he
  · have hkey : op.key = k := Store.key_of_get hop
    exact ⟨hkey ▸ hfin.1, op, hop, hfin.2⟩
  · exact hheld.elim
  · exact hev.elim

end reconcile

theorem materialized_reconcile {hmac : String → String → String} {secret veleroNs : String}
    {env : Env} {c : Cluster} {k : ObjectKey} {e : WorkloadEvent} (hput : e.isDeletion = false)
    (he : .workload e ∈
      ((reconcile (operatorReconciler hmac secret veleroNs) k).run env c).trace) :
    ∃ op target engine, AtGate env c k op ∧
      admission (operatorReconciler hmac secret veleroNs) env c op = .ok (.proceed target engine) ∧
      unstarted op = true ∧ Materialized veleroNs op target e := by
  obtain ⟨op, hop, ⟨-, -, engine, w, hengine, hmem⟩ |
      ⟨hgate, hheld | ⟨target, engine, hopen, hev⟩⟩⟩ := mem_trace_reconcile he
  · -- what an engine does when it cancels is a deletion
    have hdel := ((cancel_builtin hengine op).only _ w trivial).1 e hmem
    exact absurd (hput.symm.trans hdel) (by simp)
  · exact hheld.elim
  · have hengine := (openGate_of_admission hopen).engine
    rcases hev with ⟨hun, w, hmem⟩ | ⟨st, w, hmem⟩
    · exact ⟨op, target, engine, hgate, hopen, hun, materialize_builtin hengine hmem⟩
    · rw [(idle_status_builtin hengine _ _ w).2] at hmem
      exact absurd hmem (by simp)

/-- The program leaves the workloads alone: nothing is recorded of them. -/
abbrev KeepsWorkloads {α : Type} (x : Ctl α) : Prop := Logged Cluster.workloads (fun _ w => w) x

theorem records_workloads : Records Cluster.workloads (fun _ w => w) :=
  ⟨fun _ _ => rfl, fun _ _ => rfl, fun _ _ => rfl, fun _ _ _ => rfl⟩

section workloads

variable {env : Env} {c : Cluster}

theorem workloads_of_keeps {x : Ctl α} (h : KeepsWorkloads x) :
    (x.run env c).state.workloads = c.workloads :=
  (h env c).trans (replay_of_forall_eq fun _ _ _ => rfl)

theorem workloads_bind_of_keeps {β : Type} {x : Ctl α} {f : α → Ctl β}
    (hf : ∀ a, KeepsWorkloads (f a)) :
    ((x >>= f).run env c).state.workloads = (x.run env c).state.workloads := by
  cases h : (x.run env c).result with
  | error e => rw [run_bind_of_error h]
  | ok a => rw [run_bind_of_ok h, Outcome.state_after, workloads_of_keeps (hf a)]

theorem keepsWorkloads_runEngine {x : EngineM α} (h : Idle x) : KeepsWorkloads (runEngine x) := by
  intro env c
  rw [replay_of_forall_eq fun _ _ _ => rfl]
  exact (h ⟨env.fault, c.instances⟩ c.workloads).1

variable {engine : Engine} {op : Operation} {target : ApplicationInstance}

theorem workloads_proceed (hstatus : ∀ op, Idle (engine.status op)) :
    ((proceed engine op target).run env c).state.workloads =
      if unstarted op then
        ((engine.materialize op target).run ⟨env.fault, c.instances⟩ c.workloads).state
      else c.workloads := by
  have hstart : ((proceed engine op target).run env c).state.workloads =
      ((start engine op target).run env c).state.workloads := by
    refine workloads_bind_of_keeps fun res => ?_
    cases res with
    | error e => exact logged_failOperation records_workloads _ _
    | ok op' =>
      exact logged_backfill_observe records_workloads
        (fun op => keepsWorkloads_runEngine (hstatus op)) _ _
  rw [hstart, start]
  split
  · -- what comes after the call of the engine writes a status, if anything
    exact workloads_bind_of_keeps (x := (runEngine (engine.materialize op target)).attempt)
      fun res => logged_started records_workloads op target res
  · rfl

theorem workloads_reconcile (hmac : String → String → String) (secret veleroNs : String)
    (env : Env) (c : Cluster) (k : ObjectKey) :
    ((reconcile (operatorReconciler hmac secret veleroNs) k).run env c).state.workloads =
        c.workloads ∨
      (∃ op engine, c.operations.get k = some op ∧
        (builtinRegistry veleroNs).get op.spec.engine = some engine ∧
        ((reconcile (operatorReconciler hmac secret veleroNs) k).run env c).state.workloads =
          ((engine.cancel op).run ⟨env.fault, c.instances⟩ c.workloads).state) ∨
      ∃ op target engine, AtGate env c k op ∧
        admission (operatorReconciler hmac secret veleroNs) env c op =
          .ok (.proceed target engine) ∧ unstarted op = true ∧
        ((reconcile (operatorReconciler hmac secret veleroNs) k).run env c).state.workloads =
          ((engine.materialize op target).run ⟨env.fault, c.instances⟩ c.workloads).state := by
  cases hread : env.fault .getOperation with
  | some msg => rw [run_reconcile_of_unreadable hread]; exact .inl rfl
  | none =>
    cases hget : c.operations.get k with
    | none => rw [run_reconcile_of_absent hread hget]; exact .inl rfl
    | some op =>
      by_cases hfin : operationFinalizer ∈ op.metadata.finalizers
      swap
      · rw [run_reconcile_of_stored hread hget, if_pos hfin]
        exact .inl (workloads_of_keeps (.bind
          (.mapError (logged_updateMetadata records_workloads _ _)) fun _ => logged_pure _))
      cases hdel : op.metadata.deletionTimestamp with
      | some t =>
        rw [run_reconcile_of_stored hread hget, if_neg (not_not.mpr hfin), hdel,
          if_pos Option.isSome_some, finalizeOperation, workloads_bind_of_keeps fun _ =>
            .bind (.mapError (logged_updateMetadata records_workloads _ _)) fun _ => logged_pure _]
        unfold cancelEngine
        split
        · next engine hengine => exact .inr (.inl ⟨op, engine, rfl, hengine, rfl⟩)
        · exact .inl rfl
      | none =>
        have hgate : AtGate env c k op := ⟨hread, hget, hfin, hdel⟩
        rw [run_reconcile_of_atGate hgate, Outcome.state_after]
        cases hans : admission (operatorReconciler hmac secret veleroNs) env c op with
        | error e => exact .inl rfl
        | ok answer =>
          cases answer with
          | blocked reason message =>
            exact .inl (workloads_of_keeps (logged_blockOperation records_workloads _ _ _))
          | proceed target engine =>
            have hstatus := idle_status_builtin (openGate_of_admission hans).engine
            simp only [carryOut, workloads_proceed hstatus]
            split
            · next hun => exact .inr (.inr ⟨op, target, engine, hgate, hans, hun, rfl⟩)
            · exact .inl rfl

end workloads

theorem engaged_of_reports {hmac : String → String → String} {secret veleroNs : String}
    {engine : Engine} {name : OperationEngine} {phase : OperationPhase}
    (hengine : (operatorReconciler hmac secret veleroNs).engine name = some engine)
    (h : phase = .running ∨ phase = .failed ∨ Reports engine phase) : phase.engaged = true := by
  rcases h with rfl | rfl | ⟨op, env, w, es, hes, rfl⟩
  · rfl
  · rfl
  · exact (phase_of_status_builtin hengine op env w trivial).2 es hes

def storeStatus (env : Env) (s : Site) (op : Operation) (st : OperationStatus)
    (ops : Store Operation) : Store Operation :=
  if env.fault s = none then ops.put (op.withStatus st) else ops

section written

variable {env : Env} {c : Cluster} {op : Operation} {engine : Engine}

theorem operations_updateStatus_report (hget : c.operations.get op.key = some op) (s : Site)
    (st : OperationStatus) (f : GoError → GoError) (prev : List Condition) (res : Result) :
    ((do let op' ← (updateStatus s (op.withStatus st)).mapError f
         reportConditions op' prev
         pure res : Ctl Result).run env c).state.operations =
      storeStatus env s op st c.operations := by
  rw [run_updateStatus_report hget, storeStatus]
  cases env.fault s <;> rfl

theorem operations_failOperation (hget : c.operations.get op.key = some op) (message : String) :
    ((failOperation op message).run env c).state.operations =
      storeStatus env .updateFailed op (failedStatus env.now message op.status) c.operations := by
  rw [failOperation, run_now_bind]
  exact operations_updateStatus_report hget _ _ _ _ _

theorem operations_blockOperation (hget : c.operations.get op.key = some op)
    (reason message : String) :
    ((blockOperation op reason message).run env c).state.operations =
      storeStatus env .updateBlocked op (blockedStatus env.now reason message op.status)
        c.operations := by
  rw [blockOperation, run_now_bind]
  exact operations_updateStatus_report hget _ _ _ _ _

def afterStatus (env : Env) (c : Cluster) (engine : Engine) (op : Operation) : Cluster :=
  { c with workloads := ((engine.status op).run ⟨env.fault, c.instances⟩ c.workloads).state }

theorem operations_observe_of_ok (hget : c.operations.get op.key = some op) {es : EngineStatus}
    (hstatus : ((engine.status op).run ⟨env.fault, c.instances⟩ c.workloads).result = .ok es) :
    ((observe engine op).run env c).state.operations =
      if es.done then
        storeStatus env .updateTerminal op (terminalStatus env.now es op.status) c.operations
      else storeStatus env .updateInFlight op (inFlightStatus es op.status) c.operations := by
  have hrun : ((runEngine (engine.status op)).attempt.run env c).result = .ok (.ok es) :=
    congrArg Except.ok hstatus
  rw [observe, run_bind_of_ok hrun, Outcome.state_after]
  have hget' : (afterStatus env c engine op).operations.get op.key = some op := hget
  simp only
  split
  · rw [run_now_bind]
    exact operations_updateStatus_report hget' _ _ _ _ _
  · exact operations_updateStatus_report hget' _ _ _ _ _

theorem operations_observe_of_error {e : GoError}
    (hstatus : ((engine.status op).run ⟨env.fault, c.instances⟩ c.workloads).result = .error e) :
    ((observe engine op).run env c).state.operations =
      ((handleEngineStatusError op e).run env (afterStatus env c engine op)).state.operations := by
  have hrun : ((runEngine (engine.status op)).attempt.run env c).result = .ok (.error e) :=
    congrArg Except.ok hstatus
  rw [observe, run_bind_of_ok hrun]
  rfl

end written

end VWorkspace
