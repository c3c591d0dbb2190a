import VWorkspaceOperator.Controller.Reconcile
import VWorkspaceOperator.Kit.Rules

/-!
# The trace of a reconcile is a journal

Every write of a reconcile stands in its trace, in order, whether or not the
reconcile succeeds.  The stored operations after any part of a reconcile can
therefore be read off the events so far, and statements about what was ever
persisted are statements about prefixes of traces.
-/

namespace VWorkspace

open Kit Ctl Prog

def Event.applyOperations : Event → Store Operation → Store Operation
  | .statusWritten op, s => s.put op
  | .metadataWritten op, s => s.put op
  | .removed k, s => s.erase k
  | _, s => s

/-- The part of the cluster the journal is about: operations and instances. -/
def Cluster.journaled (c : Cluster) : Store Operation × Store ApplicationInstance :=
  (c.operations, c.instances)

/-- What an event does to the journaled part; no event changes an instance. -/
def Event.apply (e : Event) (s : Store Operation × Store ApplicationInstance) :
    Store Operation × Store ApplicationInstance :=
  (e.applyOperations s.1, s.2)

abbrev Journaled {α : Type} (x : Ctl α) : Prop := Logged Cluster.journaled Event.apply x

/-! ### Going through a reconcile

What a trace records of a reconcile is settled by its writes, so one walk
through the reconciler serves every part of the cluster a trace may record. -/

def Event.isSilent : Event → Bool
  | .verified _ _ _ | .materialize _ | .reported _ _ => true
  | _ => false

/-- Each write of the controller does to the part `view` shows what `apply` says
of its event. -/
structure Records {τ : Type} (view : Cluster → τ) (apply : Event → τ → τ) : Prop where
  statusWritten : ∀ c op,
    view { c with operations := c.operations.put op } = apply (.statusWritten op) (view c)
  metadataWritten : ∀ c op,
    view { c with operations := c.operations.put op } = apply (.metadataWritten op) (view c)
  removed : ∀ c k,
    view { c with operations := c.operations.erase k } = apply (.removed k) (view c)
  silent : ∀ e, e.isSilent = true → ∀ t, apply e t = t

section walk

theorem idle_ctl_call (s : Site) : Idle (call s) := by
  intro env c
  simp only [call]
  cases env.fault s <;> exact ⟨rfl, rfl⟩

theorem idle_now : Idle now := .bind .ask fun _ => .pure _

theorem idle_ctl_read {α : Type} (s : Site) (f : Cluster → α) :
    Idle (do call s; let c ← Prog.get; pure (f c) : Ctl α) :=
  .bind (idle_ctl_call s) fun _ => .bind .get fun _ => .pure _

variable {τ : Type} {view : Cluster → τ} {apply : Event → τ → τ}

theorem logged_pure {α : Type} (a : α) : Logged view apply (pure a : Ctl α) := .of_idle (.pure a)

theorem logged_now : Logged view apply now := .of_idle idle_now

variable (h : Records view apply) (s : Site) (op : Operation) (target : ApplicationInstance)

include h

theorem logged_updateStatus : Logged view apply (updateStatus s op) := by
  refine .bind (.of_idle (idle_ctl_call s)) fun _ => .bind (.of_idle .get) fun c => ?_
  split
  · exact .of_idle (.throw _)
  · exact .bind (.write fun _ => h.statusWritten _ _) fun _ => logged_pure _

theorem logged_updateMetadata : Logged view apply (updateMetadata s op) := by
  refine .bind (.of_idle (idle_ctl_call s)) fun _ => .bind (.of_idle .ask) fun env =>
    .bind (.of_idle .get) fun c => ?_
  split
  · exact .of_idle (.throw _)
  · split
    · exact .of_idle (.throw _)
    · exact .write fun _ => h.removed _ _
    · exact .write fun _ => h.metadataWritten _ _

theorem logged_reportConditions (prev : List Condition) :
    Logged view apply (reportConditions op prev) := .emit (h.silent _ rfl)

theorem logged_updateStatus_report {α : Type} (f : GoError → GoError) (prev : List Condition)
    (answer : Operation → α) :
    Logged view apply (do
      let op' ← (updateStatus s op).mapError f
      reportConditions op' prev
      pure (answer op')) :=
  .bind (.mapError (logged_updateStatus h _ _)) fun _ =>
    .bind (logged_reportConditions h _ _) fun _ => logged_pure _

theorem logged_blockOperation (reason message : String) :
    Logged view apply (blockOperation op reason message) :=
  .bind logged_now fun _ => logged_updateStatus_report h _ _ _ _ _

theorem logged_failOperation (message : String) : Logged view apply (failOperation op message) :=
  .bind logged_now fun _ => logged_updateStatus_report h _ _ _ _ _

theorem logged_backfillEngineRefIfNeeded :
    Logged view apply (backfillEngineRefIfNeeded op target) := by
  unfold backfillEngineRefIfNeeded
  split
  · exact logged_pure _
  · split
    · exact logged_pure _
    · exact .bind logged_now fun _ => .mapError (logged_updateStatus h _ _)

theorem logged_handleEngineStatusError (e : GoError) :
    Logged view apply (handleEngineStatusError op e) := by
  unfold handleEngineStatusError
  split
  · exact logged_failOperation h _ _
  · exact logged_failOperation h _ _
  · split
    · split
      · exact .bind logged_now fun _ => .bind (.mapError (logged_updateStatus h _ _)) fun _ =>
          logged_pure _
      · refine .bind logged_now fun _ => ?_
        split
        · exact logged_pure _
        · exact logged_failOperation h _ _
    · exact logged_failOperation h _ _
  · exact .of_idle (.throw _)

theorem logged_observe {engine : Engine}
    (hstatus : ∀ op, Logged view apply (runEngine (engine.status op))) (op : Operation) :
    Logged view apply (observe engine op) := by
  refine .bind (.attempt (hstatus op)) fun res => ?_
  cases res with
  | error e => exact logged_handleEngineStatusError h op e
  | ok es =>
    simp only
    split
    · exact .bind logged_now fun _ => logged_updateStatus_report h _ _ _ _ _
    · exact logged_updateStatus_report h _ _ _ _ _

theorem logged_backfill_observe {engine : Engine}
    (hstatus : ∀ op, Logged view apply (runEngine (engine.status op))) (op : Operation)
    (target : ApplicationInstance) :
    Logged view apply (do let op ← backfillEngineRefIfNeeded op target; observe engine op) :=
  .bind (logged_backfillEngineRefIfNeeded h _ _) fun _ => logged_observe h hstatus _

theorem logged_gate (r : OperationReconciler) (op : Operation) :
    Logged view apply (gate r op) := by
  unfold gate
  split
  · exact logged_pure _
  · refine .bind (.mapError (.of_idle (idle_ctl_read _ _))) fun target => ?_
    cases target with
    | none => exact logged_pure _
    | some target =>
      refine .bind ?_ fun reason => ?_
      · unfold awaitingApproval
        split
        · refine .bind logged_now fun t => ?_
          split
          · exact logged_pure _
          · exact .bind (.emit (h.silent _ rfl)) fun _ => logged_pure _
          · exact logged_pure _
        · exact logged_pure _
      cases reason with
      | some reason => exact logged_pure _
      | none =>
        refine .bind (.bind (.mapError (.of_idle (idle_ctl_read _ _))) fun _ => logged_pure _)
          fun conflict => ?_
        cases conflict with
        | some conflict => exact logged_pure _
        | none => simp only; split <;> exact logged_pure _

theorem logged_started (res : Except GoError Unit) :
    Logged view apply (match res with
      | .error e => pure (.error e)
      | .ok _ => do
        let ref := newEngineResourceRef op target (engineResourceKind op.spec.engine)
        let st := runningStatus (← now) ref op.status
        let op' ← (updateStatus .updateRunning (op.withStatus st)).mapError
          (·.wrap "update running status")
        reportConditions op' op.status.conditions
        pure (.ok op') : Ctl (Except GoError Operation)) := by
  cases res with
  | error e => exact logged_pure _
  | ok _ => exact .bind logged_now fun _ => logged_updateStatus_report h _ _ _ _ _

variable (hengine : ∀ {α : Type} (x : EngineM α), Logged view apply (runEngine x))

include hengine

theorem logged_start (engine : Engine) (op : Operation) (target : ApplicationInstance) :
    Logged view apply (start engine op target) := by
  unfold start
  split
  · exact .bind (.emit (h.silent _ rfl)) fun _ => .bind (.attempt (hengine _)) fun res =>
      logged_started h op target res
  · exact logged_pure _

theorem logged_proceed (engine : Engine) (op : Operation) (target : ApplicationInstance) :
    Logged view apply (proceed engine op target) := by
  refine .bind (logged_start h hengine _ _ _) fun res => ?_
  cases res with
  | error e => exact logged_failOperation h _ _
  | ok op => exact logged_backfill_observe h (fun _ => hengine _) _ _

theorem logged_reconcile (r : OperationReconciler) (k : ObjectKey) :
    Logged view apply (reconcile r k) := by
  refine .bind (.of_idle (idle_ctl_read _ _)) fun stored => ?_
  cases stored with
  | none => exact logged_pure _
  | some op =>
    simp only
    split
    · exact .bind (.mapError (logged_updateMetadata h _ _)) fun _ => logged_pure _
    · split
      · refine .bind ?_ fun _ => .bind (.mapError (logged_updateMetadata h _ _)) fun _ =>
          logged_pure _
        unfold cancelEngine
        split
        · exact .mapError (hengine _)
        · exact logged_pure _
      · refine .bind (logged_gate h r op) fun admission => ?_
        cases admission with
        | blocked reason message => exact logged_blockOperation h _ _ _
        | proceed target engine => exact logged_proceed h hengine _ _ _

end walk

theorem journaled_runEngine {α : Type} (x : EngineM α) : Journaled (runEngine x) := by
  intro env c
  rw [runEngine, run_lift, replay_of_forall_eq]
  · rfl
  · intro e he t
    obtain ⟨w, -, rfl⟩ := List.mem_map.mp he
    rfl

theorem records_journaled : Records Cluster.journaled Event.apply where
  statusWritten _ _ := rfl
  metadataWritten _ _ := rfl
  removed _ _ := rfl
  silent e he _ := by cases e <;> first | rfl | cases he

theorem journaled_reconcile (r : OperationReconciler) (k : ObjectKey) :
    Journaled (reconcile r k) :=
  logged_reconcile records_journaled journaled_runEngine r k

end VWorkspace
