import VWorkspaceOperator.Agent.Faithful
import VWorkspaceOperator.Controller.Runs

/-!
# The reports of operations

A reconcile of an operation may write its status more than once: the start of the engine, the
backfill and the observation each do.  All writes that change conditions are followed by a
report against the conditions right before them.
-/

namespace VWorkspace

open Kit Prog
open Agent (ConditionMap conditionMap replayed DistinctTypes conditionTransitions)

variable {st : OperationStatus} (r : OperationReconciler)

/-- The reference to an operation in the reports about it. -/
def operationRef (generation : Operation → ℕ) (op : Operation) : Agent.AppliedRef :=
  Agent.resourceRefFromMeta opsGroupVersion "Operation" op.metadata (generation op)

/-- What an event of a reconcile makes `ReportConditionTransitions` enqueue for the operation
under a key. -/
def operationReports (generation : Operation → ℕ) (k : ObjectKey) (now : ℕ) :
    Event → List Agent.Event
  | .reported op prev =>
      if op.key = k then
        conditionTransitions now (operationRef generation op) prev op.status.conditions
      else []
  | _ => []

/-- The reports of a step about the operation under a key. -/
def reportsOfAction (r : OperationReconciler) (generation : Operation → ℕ) (k : ObjectKey)
    (c : Cluster) (a : Action) : List Agent.Event :=
  match a with
  | .reconcile env _ => (a.trace r c).flatMap (operationReports generation k env.now)
  | .environment _ => []

def operationConditions (k : ObjectKey) (c : Cluster) : Option (List Condition) :=
  (c.operations.get k).map fun op => op.status.conditions

/-- Others may change everything but the conditions of the operation, and may remove it. -/
def LeavesOperation (k : ObjectKey) (c : Cluster) : Action → Prop
  | .reconcile _ _ => True
  | .environment change =>
      ∀ cs, operationConditions k (change c) = some cs → operationConditions k c = some cs

/-- The reports of operations reproduce their conditions: after every run of reconciles, of any
operations and with any faults, from a cluster where the operation has no conditions. -/
def OperationsFaithful (r : OperationReconciler) : Prop :=
  ∀ generation k c run,
    (∀ op, c.operations.get k = some op → op.status.conditions = []) →
    Along (step r) (LeavesOperation k) c run →
    Faithful (replayed (gathered (step r) (reportsOfAction r generation k) c run) fun _ => none)
      (operationConditions k (exec (step r) c run))

section operations

open Ctl

variable {generation : Operation → ℕ} {k : ObjectKey} {env : Env} {op : Operation}
  {t : ConditionMap} {c : Cluster}

/-- What the reports so far give is what is stored under the key. -/
def FaithfulAt (k : ObjectKey) (t : ConditionMap) (c : Cluster) : Prop :=
  Faithful t (operationConditions k c)

/-- The operation is the stored one, and what the reports so far give is what is stored under
the key. -/
def Told (k : ObjectKey) (op : Operation) (t : ConditionMap) (c : Cluster) : Prop :=
  c.operations.get op.key = some op ∧ FaithfulAt k t c

def heard (generation : Operation → ℕ) (k : ObjectKey) (now : ℕ) (e : Event) (t : ConditionMap) :
    ConditionMap := replayed (operationReports generation k now e) t

variable (generation k env op) in
/-- The program starts with the stored operation, and in the end the reports give what is
stored. -/
abbrev Tells {α : Type} (x : Ctl α) : Prop :=
  Follows (heard generation k env.now) env (Told k op) x (fun _ => FaithfulAt k) (FaithfulAt k)

theorem operationConditions_put (op : Operation) :
    operationConditions k { c with operations := c.operations.put op } =
      if op.key = k then some op.status.conditions else operationConditions k c := by
  split
  · next hk =>
    subst hk
    exact congrArg (Option.map _) (Store.get_put_self c.operations op)
  · next hk => exact congrArg (Option.map _) (Store.get_put_of_ne (Ne.symm hk))

theorem FaithfulAt.put {op' : Operation} (h : FaithfulAt k t c)
    (hget : c.operations.get op'.key = some op)
    (hsame : op'.status.conditions = op.status.conditions) :
    FaithfulAt k t { c with operations := c.operations.put op' } := by
  rw [FaithfulAt, operationConditions_put]
  split
  · next hk =>
    rw [hsame, ← Option.map_some (f := fun op : Operation => op.status.conditions), ← hget, hk]
    exact h
  · exact h

theorem FaithfulAt.erase {k' : ObjectKey} (h : FaithfulAt k t c) :
    FaithfulAt k t { c with operations := c.operations.erase k' } := by
  by_cases hk : k = k'
  · subst hk
    have hgone : operationConditions k { c with operations := c.operations.erase k } = none :=
      congrArg (Option.map _) (Store.get_erase_self c.operations k)
    rw [FaithfulAt, hgone]
    exact .none
  · have hother : operationConditions k { c with operations := c.operations.erase k' } =
        operationConditions k c := congrArg (Option.map _) (Store.get_erase_of_ne hk)
    rw [FaithfulAt, hother]
    exact h

theorem Told.report (h : Told k op t c) (hgrow : Grows op.status.conditions st.conditions)
    (now : ℕ) :
    Told k (op.withStatus st)
      (heard generation k now (.reported (op.withStatus st) op.status.conditions) t)
      { c with operations := c.operations.put (op.withStatus st) } := by
  refine ⟨Store.get_put_self _ _, ?_⟩
  rw [FaithfulAt, operationConditions_put, heard, operationReports]
  split
  · next hk =>
    have hstored : Faithful t (some op.status.conditions) := by
      have hfaithful := h.2
      rwa [FaithfulAt, operationConditions, ← hk, Operation.key_withStatus, h.1,
        Option.map_some] at hfaithful
    exact hstored.grow hgrow now _
  · exact h.2

theorem follows_updateStatus (s : Site) (st : OperationStatus) :
    Follows (heard generation k env.now) env (Told k op) (updateStatus s (op.withStatus st))
      (fun op' t c => op' = op.withStatus st ∧ ∃ c₀, Told k op t c₀ ∧
        c = { c₀ with operations := c₀.operations.put (op.withStatus st) })
      (FaithfulAt k) := by
  intro t c h
  rw [run_updateStatus h.1]
  cases env.fault s with
  | some msg => exact ⟨fun _ ha => absurd ha (by simp), fun _ _ => h.2⟩
  | none =>
    refine ⟨fun op' hop' => ⟨(Except.ok.inj hop').symm, c, h, rfl⟩, fun _ he => absurd he (by simp)⟩

theorem follows_updateStatus_same (s : Site) (hsame : st.conditions = op.status.conditions) :
    Follows (heard generation k env.now) env (Told k op) (updateStatus s (op.withStatus st))
      (Told k) (FaithfulAt k) :=
  (follows_updateStatus s st).conseq (fun _ _ h => h)
    (fun _ _ _ ⟨hop, _, htold, hc⟩ => by
      subst hop hc
      exact ⟨Store.get_put_self _ _, htold.2.put htold.1 hsame⟩) fun _ _ h => h

theorem follows_updateStatus_report {α : Type} (s : Site) (f : GoError → GoError)
    (answer : Operation → α) (hgrow : Grows op.status.conditions st.conditions) :
    Follows (heard generation k env.now) env (Told k op)
      (do let op' ← (updateStatus s (op.withStatus st)).mapError f
          reportConditions op' op.status.conditions
          pure (answer op'))
      (fun a t c => a = answer (op.withStatus st) ∧ Told k (op.withStatus st) t c)
      (FaithfulAt k) := by
  refine .bind (.mapError (follows_updateStatus s st)) fun op' => ?_
  refine .bind (Q := fun _ t c => op' = op.withStatus st ∧ Told k op' t c) (.emit ?_) fun _ =>
    .pure fun t c ⟨hop, htold⟩ => ⟨congrArg answer hop, hop ▸ htold⟩
  rintro t c ⟨rfl, c₀, htold, rfl⟩
  exact ⟨rfl, htold.report hgrow env.now⟩

theorem follows_written (s : Site) (f : GoError → GoError) (res : Result)
    (hgrow : Grows op.status.conditions st.conditions) :
    Tells generation k env op (do
      let op' ← (updateStatus s (op.withStatus st)).mapError f
      reportConditions op' op.status.conditions
      pure res) :=
  (follows_updateStatus_report s f (fun _ => res) hgrow).post (fun _ _ _ h => h.2.2)

theorem told_faithful {t : ConditionMap} {c : Cluster} (h : Told k op t c) : FaithfulAt k t c := h.2

theorem told_runEngine {α : Type} (x : EngineM α) (h : Told k op t c) :
    Told k op (replay (heard generation k env.now) ((runEngine x).run env c).trace t)
      ((runEngine x).run env c).state := by
  rw [replay_of_forall_eq]
  · exact h
  · intro e he t
    obtain ⟨w, -, rfl⟩ := List.mem_map.mp he
    rfl

theorem follows_blockOperation (reason message : String) :
    Tells generation k env op (blockOperation op reason message) :=
  .bind (.of_idle idle_now fun _ _ => told_faithful) fun _ =>
    follows_written _ _ _ (.set (.set (.refl _)))

theorem follows_failOperation (message : String) :
    Tells generation k env op (failOperation op message) :=
  .bind (.of_idle idle_now fun _ _ => told_faithful) fun _ =>
    follows_written _ _ _ (.set (.refl _))

theorem follows_start (engine : Engine) (target : ApplicationInstance) :
    Follows (heard generation k env.now) env (Told k op) (start engine op target)
      (fun res t c => match res with
        | .ok op' => Told k op' t c
        | .error _ => Told k op t c) (FaithfulAt k) := by
  unfold start
  split
  · refine .bind (Q := fun _ => Told k op) (.emit fun t c h => h) fun _ => ?_
    refine .bind (.of_kept (x := (runEngine (engine.materialize op target)).attempt)
      (fun _ _ => told_runEngine _) fun _ _ => told_faithful) fun res => ?_
    cases res with
    | error e => exact .pure fun _ _ h => h
    | ok u =>
      refine .bind (.of_idle idle_now fun _ _ => told_faithful) fun now => ?_
      refine (follows_updateStatus_report _ _ Except.ok (.set (.set (.set (.refl _))))).post ?_
      rintro _ t c ⟨rfl, h⟩
      exact h
  · exact .pure fun _ _ h => h

theorem follows_backfillEngineRefIfNeeded (target : ApplicationInstance) :
    Follows (heard generation k env.now) env (Told k op) (backfillEngineRefIfNeeded op target)
      (Told k) (FaithfulAt k) := by
  unfold backfillEngineRefIfNeeded
  split
  · exact .pure fun _ _ h => h
  · split
    · exact .pure fun _ _ h => h
    · exact .bind (.of_idle idle_now fun _ _ => told_faithful) fun _ =>
        .mapError (follows_updateStatus_same _ rfl)

theorem follows_handleEngineStatusError (e : GoError) :
    Tells generation k env op (handleEngineStatusError op e) := by
  unfold handleEngineStatusError
  split
  · exact follows_failOperation _
  · exact follows_failOperation _
  · split
    · split
      · refine .bind (.of_idle idle_now fun _ _ => told_faithful) fun now => ?_
        exact .bind (.mapError (follows_updateStatus_same _ rfl)) fun op' =>
          .pure fun _ _ => told_faithful
      · refine .bind (.of_idle idle_now fun _ _ => told_faithful) fun now => ?_
        split
        · exact .pure fun _ _ => told_faithful
        · exact follows_failOperation _
    · exact follows_failOperation _
  · exact .throw fun _ _ => told_faithful

theorem follows_observe (engine : Engine) : Tells generation k env op (observe engine op) := by
  refine .bind (.of_kept (x := (runEngine (engine.status op)).attempt)
    (fun _ _ => told_runEngine _) fun _ _ => told_faithful) fun res => ?_
  cases res with
  | error e => exact follows_handleEngineStatusError e
  | ok es =>
    simp only
    split
    · refine .bind (.of_idle idle_now fun _ _ => told_faithful) fun now => ?_
      refine follows_written _ _ _ (.set ?_)
      split
      · exact .set (.refl _)
      · exact .set (.refl _)
    · exact follows_written _ _ _ (.refl _)

theorem follows_proceed (engine : Engine) (target : ApplicationInstance) :
    Tells generation k env op (proceed engine op target) := by
  refine .bind (follows_start engine target) fun res => ?_
  cases res with
  | error e => exact follows_failOperation _
  | ok op' =>
    exact .bind (follows_backfillEngineRefIfNeeded target) fun op'' => follows_observe engine

theorem follows_updateMetadata (s : Site) (op : Operation) :
    Follows (heard generation k env.now) env (FaithfulAt k) (updateMetadata s op)
      (fun _ => FaithfulAt k) (FaithfulAt k) := by
  refine .bind (.of_idle (idle_ctl_call s) fun _ _ h => h) fun _ => ?_
  refine .bind .ask fun env' => .bind (Q := fun c' t c => FaithfulAt k t c ∧ c' = c)
    (.get fun _ _ h => ⟨h, rfl⟩) fun c' => ?_
  split
  · exact .throw fun _ _ h => h.1
  · next stored hget =>
    split
    · exact .throw fun _ _ h => h.1
    · exact .write fun t c h => h.1.erase
    · refine .write ?_
      rintro t c ⟨h, rfl⟩
      exact h.put hget rfl

theorem follows_finalizeOperation : Tells generation k env op (finalizeOperation r op) := by
  refine .bind (Q := fun _ => FaithfulAt k) ?_ fun _ =>
    .bind (.mapError (follows_updateMetadata _ _)) fun _ => .pure fun _ _ h => h
  unfold cancelEngine
  split
  · exact (Follows.of_kept (fun _ _ => told_runEngine _) fun _ _ => told_faithful).mapError.post (fun _ _ _ => told_faithful)
  · exact .pure fun _ _ => told_faithful

theorem heard_gateTrace : replay (heard generation k env.now) (gateTrace r env c op) t = t := by
  refine replay_of_forall_eq fun e he t => ?_
  unfold gateTrace approvalTrace at he
  split at he
  · split at he
    · split at he
      · obtain rfl := List.mem_singleton.mp he
        rfl
      · exact absurd he List.not_mem_nil
    · exact absurd he List.not_mem_nil
  · exact absurd he List.not_mem_nil

theorem follows_reconcile (k' : ObjectKey) :
    Follows (heard generation k env.now) env (FaithfulAt k) (reconcile r k')
      (fun _ => FaithfulAt k) (FaithfulAt k) := by
  have hread : Follows (heard generation k env.now) env (FaithfulAt k) (getOperation k')
      (fun found t c => FaithfulAt k t c ∧ found = c.operations.get k') (FaithfulAt k) :=
    .bind (.of_idle (idle_ctl_call _) fun _ _ h => h) fun _ =>
      .bind (Q := fun c' t c => FaithfulAt k t c ∧ c' = c) (.get fun _ _ h => ⟨h, rfl⟩) fun c' =>
        .pure fun _ _ h => ⟨h.1, h.2 ▸ rfl⟩
  refine .bind hread fun found => ?_
  cases found with
  | none => exact .pure fun _ _ h => h.1
  | some op =>
    have htold : ∀ t c, FaithfulAt k t c ∧ some op = c.operations.get k' → Told k op t c := by
      rintro t c ⟨h, hget⟩
      have hkey : op.key = k' := Store.key_of_get hget.symm
      exact ⟨hkey ▸ hget.symm, h⟩
    simp only
    split
    · exact .bind (.mapError ((follows_updateMetadata _ _).pre (fun _ _ h => h.1))) fun _ => .pure fun _ _ h => h
    · split
      · exact (follows_finalizeOperation r).pre htold
      · refine .bind (Q := fun _ => Told k op) ?_ fun admission => ?_
        · refine (Follows.of_kept (P := Told k op) ?_ fun _ _ => told_faithful).pre htold
          intro t c h
          rw [run_gate, heard_gateTrace]
          exact h
        · cases admission with
          | blocked reason message => exact follows_blockOperation reason message
          | proceed target engine => exact follows_proceed engine target

theorem operationsFaithful : OperationsFaithful r := by
  intro generation k c run hstart hrun
  refine faithful_of_run (hrun.mono fun c a ha => ?_) ?_
  · cases a with
    | reconcile env k' =>
      intro m hm
      rw [reportsOfAction, replayed_flatMap]
      exact (follows_reconcile r k').state hm
    | environment change => exact faithfulStep_of_silent rfl ha
  · cases hget : c.operations.get k with
    | none => rw [operationConditions, hget]; exact .none
    | some op =>
      rw [operationConditions, hget, Option.map_some, hstart op hget]
      exact faithful_nil

end operations

end VWorkspace
