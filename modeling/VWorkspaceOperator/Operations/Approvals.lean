import VWorkspaceOperator.Api
import VWorkspaceOperator.Operations.ApprovalClaim

/-!
# Templates and the approval gate

The built-in operation templates pair a verb with an engine; one of them, the
Velero restore, requires an approval.  An operation that requires one, through
its template or its own spec, is held back until its claim verifies.
-/

namespace VWorkspace

open Kit

structure Template where
  ref : String
  type : OperationType
  engine : OperationEngine
  capabilityVerb : String
  requiresApproval : Bool := false
  deriving DecidableEq, Repr

def builtin : List Template :=
  [⟨"backup.velero", .backup, .velero, "backup", false⟩,
    ⟨"restore.velero", .restore, .velero, "restore", true⟩,
    ⟨"upgrade.helm", .upgrade, .helm, "upgrade", false⟩,
    ⟨"migration.helmHookJob", .migration, .helmHookJob, "migration", false⟩,
    ⟨"runCommand.job", .runCommand, .job, "runcommand", false⟩,
    ⟨"runbook.workflow", .runbook, .workflow, "runbook", false⟩]

def lookupTemplate (type : OperationType) (engine : OperationEngine) : Option Template :=
  builtin.find? fun tpl => tpl.type = type ∧ tpl.engine = engine

/-- `approvals.Required`: the spec asks for an approval, or the template does. -/
def approvalRequired (op : Operation) : Bool :=
  (match op.spec.approvals with
    | some a => a.required
    | none => false) ||
  match lookupTemplate op.spec.type op.spec.engine with
  | some tpl => tpl.requiresApproval
  | none => false

theorem approvalRequired_of_restore {op : Operation} (htype : op.spec.type = .restore)
    (hengine : op.spec.engine = .velero) : approvalRequired op = true := by
  rw [approvalRequired, htype, hengine]
  exact Bool.or_true _

def approvalClaim (op : Operation) : String :=
  match op.spec.approvals with
  | some a => trimSpace a.claim
  | none => ""

/-- `approvals.NeedsApprovalCheck`: only before the operation has started. -/
def needsApprovalCheck (op : Operation) : Bool :=
  match op.status.phase with
  | .unset | .pending => true
  | _ => false

/-- What the gate says: nothing to check, a claim verified, or a reason to hold
the operation back. -/
inductive ApprovalCheck where
  | notRequired
  | verified (secret claim : String)
  | blocked (reason : String)
  deriving DecidableEq, Repr

section check

variable (hmacSHA256Hex : String → String → String)

def checkApproval (now : ℤ) (op : Operation) (secret : String) : ApprovalCheck :=
  if !approvalRequired op then .notRequired
  else
    let claim := approvalClaim op
    if claim = "" then .blocked "approval claim required"
    else
      let secret := trimSpace secret
      if secret = "" then
        .blocked "approval claim present but operator approval-claim-secret is not configured"
      else
        match verify hmacSHA256Hex now secret claim op.metadata.name with
        | .error e => .blocked ("invalid approval claim: " ++ e)
        | .ok _ => .verified secret claim

variable {hmacSHA256Hex} {now : ℤ} {op : Operation} {secret : String}

theorem approvalRequired_of_checkApproval
    (h : checkApproval hmacSHA256Hex now op secret = .notRequired) :
    approvalRequired op = false := by
  unfold checkApproval at h
  cases hr : approvalRequired op with
  | false => rfl
  | true =>
    rw [hr] at h
    simp only [Bool.not_true, Bool.false_eq_true, if_false] at h
    split at h
    · exact absurd h (by simp)
    · split at h
      · exact absurd h (by simp)
      · split at h <;> exact absurd h (by simp)

theorem verify_of_checkApproval {s c : String}
    (h : checkApproval hmacSHA256Hex now op secret = .verified s c) :
    s = trimSpace secret ∧ c = approvalClaim op ∧ s ≠ "" ∧
      verify hmacSHA256Hex now s c op.metadata.name = .ok () := by
  unfold checkApproval at h
  split at h
  · exact absurd h (by simp)
  · simp only at h
    split at h
    · exact absurd h (by simp)
    · split at h
      · exact absurd h (by simp)
      · next hs =>
        split at h
        · exact absurd h (by simp)
        · next hv =>
          simp only [ApprovalCheck.verified.injEq] at h
          obtain ⟨rfl, rfl⟩ := h
          exact ⟨rfl, rfl, hs, hv⟩

end check

end VWorkspace
