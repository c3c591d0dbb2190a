import VWorkspaceOperator.Controller.Runs

/-!
# No work without the approval it requires

The approval is checked while an operation has not been started, and
`Materialize` is called only for such an operation: both guards read the same
phase, so an edit of the phase between two reconciles opens neither without the
other.  Whatever the rest of the world does, then, an operation that requires an
approval is materialized only in a reconcile that verified its claim.
-/

namespace VWorkspace

open Kit Prog

/-- The claim of the operation was verified at `now` under the secret of the
operator, which is not blank, and the trace `t` says so. -/
def Approved (r : OperationReconciler) (now : ℕ) (op : Operation) (t : List Event) : Prop :=
  let secret := trimSpace r.approvalClaimSecret
  trimSpace secret ≠ "" ∧ .verified secret (approvalClaim op) op.metadata.name ∈ t ∧
    verify r.hmacSHA256Hex now secret (approvalClaim op) op.metadata.name = .ok ()

/-- What a step materializes is approved if it requires an approval, and a restore
object is created only for an approved operation of its name. -/
def Gated (r : OperationReconciler) (c : Cluster) : Action → Prop
  | .environment _ => True
  | .reconcile env k =>
      let t := Action.trace r c (.reconcile env k)
      (∀ op, .materialize op ∈ t → approvalRequired op = true → Approved r env.now op t) ∧
        ∀ o, .workload (.created .restore o) ∈ t →
          ∃ op, c.operations.get k = some op ∧ op.metadata.name = o.metadata.name ∧
            Approved r env.now op t

section gate

variable {r : OperationReconciler} {env : Env} {c : Cluster} {k : ObjectKey} {op : Operation}
  {target : ApplicationInstance} {engine : Engine}

theorem needsApprovalCheck_eq_unstarted (op : Operation) :
    needsApprovalCheck op = unstarted op := by
  unfold needsApprovalCheck unstarted
  cases op.status.phase <;> rfl

theorem gateTrace_subset (hgate : AtGate env c k op) :
    gateTrace r env c op ⊆ ((reconcile r k).run env c).trace := by
  rw [run_reconcile_of_atGate hgate]
  cases admission r env c op <;> simp

theorem approved_of_open (hgate : AtGate env c k op)
    (hopen : admission r env c op = .ok (.proceed target engine)) (hun : unstarted op = true)
    (hrequired : approvalRequired op = true) :
    Approved r env.now op ((reconcile r k).run env c).trace := by
  obtain ⟨hvalid, hread, htarget, hheld, -⟩ := openGate_of_admission hopen
  have hneeds : needsApprovalCheck op = true := (needsApprovalCheck_eq_unstarted op).trans hun
  cases hcheck : checkApproval r.hmacSHA256Hex env.now op r.approvalClaimSecret with
  | notRequired =>
    exact absurd (hrequired.symm.trans (approvalRequired_of_checkApproval hcheck)) (by simp)
  | blocked reason => simp [heldForApproval, hneeds, hcheck] at hheld
  | verified secret claim =>
    obtain ⟨rfl, rfl, -, hverify⟩ := verify_of_checkApproval hcheck
    refine ⟨secret_ne_of_verify _ hverify, gateTrace_subset hgate ?_, hverify⟩
    simp [gateTrace, hvalid, hread, htarget, approvalTrace, hneeds, hcheck]

end gate

theorem approvalRequired_of_created_restore {veleroNs : String} {op : Operation}
    {target : ApplicationInstance} {o : Unstructured}
    (h : Materialized veleroNs op target (.created .restore o)) :
    approvalRequired op = true ∧ op.metadata.name = o.metadata.name := by
  unfold Materialized at h
  split at h
  · obtain ⟨_, _, h⟩ := h; exact absurd h (by simp)
  · obtain ⟨_, _, h⟩ := h; exact absurd h (by simp)
  · obtain ⟨_, _, _, _, h⟩ := h; exact absurd h (by simp)
  · obtain ⟨_, _, _, ⟨_, _, h⟩ | ⟨_, _, _, _, h⟩⟩ := h <;> exact absurd h (by simp)
  · next hname =>
    obtain ⟨params, -, ⟨-, ⟨_, _, h⟩ | ⟨_, _, _, _, h⟩⟩ |
      ⟨htype, -, ⟨o', hmut, h⟩ | ⟨_, _, _, _, h⟩⟩⟩ := h
    · exact absurd h (by simp)
    · exact absurd h (by simp)
    · obtain rfl : o = o' := (WorkloadEvent.created.inj h).2
      have hkey := congrArg ObjectMeta.key (metadata_of_mutateRestore hmut)
      rw [key_veleroMeta] at hkey
      exact ⟨approvalRequired_of_restore htype hname, (congrArg ObjectKey.name hkey).symm⟩
    · exact absurd h (by simp)
  · exact h.elim

theorem materialize_only_approved (hmac : String → String → String) (secret veleroNs : String)
    (c : Cluster) (as : List Action) :
    Along (step (operatorReconciler hmac secret veleroNs))
      (Gated (operatorReconciler hmac secret veleroNs)) c as := by
  refine along_of_forall fun c a => ?_
  cases a with
  | environment change => trivial
  | reconcile env k =>
    constructor
    · intro op hmat hrequired
      obtain ⟨target, engine, hgate, hopen, hun⟩ := materialize_reconcile hmat
      exact approved_of_open hgate hopen hun hrequired
    · intro o ho
      obtain ⟨op, target, engine, hgate, hopen, hun, hmat⟩ := materialized_reconcile rfl ho
      obtain ⟨hrequired, hname⟩ := approvalRequired_of_created_restore hmat
      exact ⟨op, hgate.stored, hname, approved_of_open hgate hopen hun hrequired⟩

end VWorkspace
