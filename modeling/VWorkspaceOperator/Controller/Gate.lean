import VWorkspaceOperator.Controller.Reconcile

/-!
# The gate, as a function of the cluster

The gate reads: it validates the spec, looks for the target, checks the
approval, lists the other operations and looks up the engine, and leaves the
cluster as it is.  `admission` is its answer as a function of the cluster, the
clock and the faults, and `gateTrace` what it leaves in the trace, the claim it
verified.
-/

namespace VWorkspace

open Kit Ctl Prog

section gate

variable {r : OperationReconciler} {env : Env} {c : Cluster} {op : Operation}

theorem run_call_of_none {s : Site} (h : env.fault s = none) :
    (call s).run env c = ⟨.ok (), c, []⟩ := by
  simp [call, h]

theorem run_call_of_some {s : Site} {msg : String} (h : env.fault s = some msg) :
    (call s).run env c = ⟨.error { msg }, c, []⟩ := by
  simp [call, h]

theorem run_read {α : Type} (s : Site) (f : Cluster → α) :
    (do call s; let c ← Prog.get; pure (f c) : Ctl α).run env c =
      ⟨match env.fault s with
        | none => .ok (f c)
        | some msg => .error { msg }, c, []⟩ := by
  cases h : env.fault s with
  | none => rw [run_bind, run_call_of_none h]; rfl
  | some msg => rw [run_bind, run_call_of_some h]

/-- The reason an approval gives to hold the operation back, if there is one. -/
def heldForApproval (r : OperationReconciler) (now : ℕ) (op : Operation) : Option String :=
  if needsApprovalCheck op then
    match checkApproval r.hmacSHA256Hex now op r.approvalClaimSecret with
    | .blocked reason => some reason
    | _ => none
  else none

/-- What an approval check leaves in the trace: the claim it verified. -/
def approvalTrace (r : OperationReconciler) (now : ℕ) (op : Operation) : List Event :=
  if needsApprovalCheck op then
    match checkApproval r.hmacSHA256Hex now op r.approvalClaimSecret with
    | .verified secret claim => [.verified secret claim op.metadata.name]
    | _ => []
  else []

theorem run_awaitingApproval (r : OperationReconciler) (env : Env) (c : Cluster) (op : Operation) :
    (awaitingApproval r op).run env c =
      ⟨.ok (heldForApproval r env.now op), c, approvalTrace r env.now op⟩ := by
  unfold awaitingApproval heldForApproval approvalTrace
  split
  · have hnow : now.run env c = ⟨.ok env.now, c, []⟩ := rfl
    simp only [run_bind, hnow]
    cases checkApproval r.hmacSHA256Hex env.now op r.approvalClaimSecret <;> rfl
  · rfl

/-- The operations of a namespace, as `List` returns them. -/
def operationsIn (c : Cluster) (ns : String) : List Operation :=
  c.operations.items.filter fun op => op.metadata.ns = ns

def admission (r : OperationReconciler) (env : Env) (c : Cluster) (op : Operation) :
    Except GoError Admission :=
  match validateOperationSpec op with
  | .error e => .ok (.blocked "ValidationFailed" e.msg)
  | .ok _ =>
      match env.fault .getTarget with
      | some msg => .error (GoError.wrap "get target" { msg })
      | none =>
          match c.instances.get ⟨op.metadata.ns, op.spec.targetRef.name⟩ with
          | none => .ok (.blocked "TargetNotReady" "target ApplicationInstance not found")
          | some target =>
              match heldForApproval r env.now op with
              | some reason => .ok (.blocked "AwaitingApproval" reason)
              | none =>
                  match env.fault .listOperations with
                  | some msg => .error (GoError.wrap "list operations" { msg })
                  | none =>
                      match findConflict (operationsIn c op.metadata.ns) op with
                      | some conflict =>
                          .ok (.blocked "ConflictingOperation" (formatConflict conflict))
                      | none =>
                          match r.engine op.spec.engine with
                          | none => .ok (.blocked "DependencyMissing"
                              ("engine " ++ goQuote op.spec.engine.text ++ " is not registered"))
                          | some engine => .ok (.proceed target engine)

theorem run_getOperation (k : ObjectKey) :
    (getOperation k).run env c =
      ⟨match env.fault .getOperation with
        | none => .ok (c.operations.get k)
        | some msg => .error { msg }, c, []⟩ := run_read _ _

theorem run_getTarget (k : ObjectKey) :
    (getTarget k).run env c =
      ⟨match env.fault .getTarget with
        | none => .ok (c.instances.get k)
        | some msg => .error { msg }, c, []⟩ := run_read _ _

theorem run_hasConflictingOperation :
    (hasConflictingOperation op).run env c =
      ⟨match env.fault .listOperations with
        | none => .ok (findConflict (operationsIn c op.metadata.ns) op)
        | some msg => .error (GoError.wrap "list operations" { msg }), c, []⟩ := by
  have hlist : (listOperations op.metadata.ns).run env c =
      ⟨match env.fault .listOperations with
        | none => .ok (operationsIn c op.metadata.ns)
        | some msg => .error { msg }, c, []⟩ := run_read _ _
  simp only [hasConflictingOperation, run_bind, run_mapError, hlist]
  cases env.fault .listOperations <;> rfl

def gateTrace (r : OperationReconciler) (env : Env) (c : Cluster) (op : Operation) : List Event :=
  match validateOperationSpec op, env.fault .getTarget,
      c.instances.get ⟨op.metadata.ns, op.spec.targetRef.name⟩ with
  | .ok _, none, some _ => approvalTrace r env.now op
  | _, _, _ => []

theorem run_gate :
    (gate r op).run env c = ⟨admission r env c op, c, gateTrace r env c op⟩ := by
  unfold gate admission gateTrace
  cases validateOperationSpec op with
  | error e => rfl
  | ok u =>
    simp only [run_bind, run_mapError, run_getTarget]
    cases env.fault .getTarget with
    | some msg => rfl
    | none =>
      simp only [Except.mapError]
      cases c.instances.get ⟨op.metadata.ns, op.spec.targetRef.name⟩ with
      | none => rfl
      | some target =>
        simp only [run_bind, run_awaitingApproval]
        cases heldForApproval r env.now op with
        | some reason => simp [Outcome.after]
        | none =>
          simp only [run_bind, run_hasConflictingOperation]
          cases env.fault .listOperations with
          | some msg => simp [Outcome.after]
          | none =>
            simp only
            cases findConflict (operationsIn c op.metadata.ns) op with
            | some conflict => simp [Outcome.after]
            | none =>
              simp only
              cases r.engine op.spec.engine <;> simp [Outcome.after]

/-- Nothing holds the operation back: its gate is open to the target and the
engine. -/
structure OpenGate (r : OperationReconciler) (env : Env) (c : Cluster) (op : Operation)
    (target : ApplicationInstance) (engine : Engine) : Prop where
  /-- The spec is valid. -/
  valid : validateOperationSpec op = .ok ()
  /-- The target can be read. -/
  readable : env.fault .getTarget = none
  /-- It is the one stored. -/
  target : c.instances.get ⟨op.metadata.ns, op.spec.targetRef.name⟩ = some target
  /-- No approval is outstanding. -/
  approved : heldForApproval r env.now op = none
  /-- The operations can be listed. -/
  listable : env.fault .listOperations = none
  /-- None of them is in the way. -/
  free : findConflict (operationsIn c op.metadata.ns) op = none
  /-- The engine is registered. -/
  engine : r.engine op.spec.engine = some engine

theorem openGate_of_admission {target : ApplicationInstance} {engine : Engine}
    (h : admission r env c op = .ok (.proceed target engine)) :
    OpenGate r env c op target engine := by
  unfold admission at h
  split at h
  · exact absurd h (by simp)
  next hvalid =>
  split at h
  · exact absurd h (by simp)
  next hread =>
  split at h
  · exact absurd h (by simp)
  next target' htarget =>
  split at h
  · exact absurd h (by simp)
  next happroved =>
  split at h
  · exact absurd h (by simp)
  next hlist =>
  split at h
  · exact absurd h (by simp)
  next hfree =>
  split at h
  · exact absurd h (by simp)
  next engine' hengine =>
  simp only [Except.ok.injEq, Admission.proceed.injEq] at h
  obtain ⟨rfl, rfl⟩ := h
  exact ⟨hvalid, hread, htarget, happroved, hlist, hfree, hengine⟩

theorem OpenGate.admission_eq {target : ApplicationInstance} {engine : Engine}
    (h : OpenGate r env c op target engine) :
    admission r env c op = .ok (.proceed target engine) := by
  simp only [admission, h.valid, h.readable, h.target, h.approved, h.listable, h.free, h.engine]

end gate

end VWorkspace
