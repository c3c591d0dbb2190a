import VWorkspaceOperator.Operations.Approvals
import VWorkspaceOperator.Operations.ClaimIssue

/-!
# What an approval claim binds

A claim that is issued for a payload verifies for the name in the payload until its expiry, and a
claim that verifies was made of such a payload.  The payload has the name of an operation and not
its namespace, so one claim opens the gate to every operation of that name.
-/

namespace VWorkspace

open Kit

section binding

variable {hmacSHA256 : Bytes → Bytes → Vector UInt8 32}

theorem verify_of_issue {now : ℤ} {secret claim name : String} {payload : Payload}
    (hrange : payload.InRange) (hclaim : issue (hmacHex hmacSHA256) secret payload = .ok claim) :
    verify (hmacHex hmacSHA256) now secret claim name = checkPayload now name payload := by
  have hsecret : trimSpace secret ≠ "" := by
    intro hblank
    rw [issue, if_pos hblank] at hclaim
    exact absurd hclaim (by simp)
  exact verify_of_parts hsecret (splitOn_of_issue hclaim) (decodePayload_body hrange)

theorem claims_round_trip_and_bind (hmacSHA256 : Bytes → Bytes → Vector UInt8 32) :
    (∀ (secret name : String) (payload : Payload) (now : ℤ), trimSpace secret ≠ "" →
      payload.version = 1 → payload.InRange →
      ∃ claim, issue (hmacHex hmacSHA256) secret payload = .ok claim ∧
        (verify (hmacHex hmacSHA256) now secret claim name = .ok () ↔
          trimSpace payload.operationName = trimSpace name ∧ now ≤ payload.expiresAt)) ∧
    ∀ (secret claim name : String) (now : ℤ),
      verify (hmacHex hmacSHA256) now secret claim name = .ok () →
      ∃ body digest payload, splitOn '.' (trimSpace claim) = ["vws1", body, digest] ∧
        digest = hmacHex hmacSHA256 (trimSpace secret) body ∧ decodePayload body = .ok payload ∧
        payload.version = 1 ∧ trimSpace payload.operationName = trimSpace name ∧
        now ≤ payload.expiresAt := by
  constructor
  · intro secret name payload now hsecret hversion hrange
    obtain ⟨claim, hclaim⟩ : ∃ claim, issue (hmacHex hmacSHA256) secret payload = .ok claim := by
      rw [issue, if_neg hsecret]
      exact ⟨_, rfl⟩
    refine ⟨claim, hclaim, ?_⟩
    rw [verify_of_issue hrange hclaim, checkPayload_eq_ok_iff, and_iff_right hversion]
  · intro secret claim name now hverify
    obtain ⟨body, payload, hparts, hpayload, hchecked⟩ := parts_of_verify hverify
    exact ⟨body, _, payload, hparts, rfl, hpayload, checkPayload_eq_ok_iff.mp hchecked⟩

def samplePayload : Payload where
  version := 1
  requestID := 7
  operationName := "restore-1"
  approvedBy := "admin"
  approvedAt := "2026-01-01T00:00:00Z"
  expiresAt := 1800000000

theorem inRange_samplePayload : samplePayload.InRange := ⟨by decide, by decide, by decide⟩

theorem sample_claim_round_trip :
    ∃ claim, issue (hmacHex fun _ _ => Vector.replicate 32 0) " s3cret" samplePayload = .ok claim ∧
      verify (hmacHex fun _ _ => Vector.replicate 32 0) 1800000000 " s3cret" claim "restore-1 " =
        .ok () := by
  obtain ⟨claim, hclaim, hiff⟩ := (claims_round_trip_and_bind fun _ _ => Vector.replicate 32 0).1
    " s3cret" "restore-1 " samplePayload 1800000000 (by decide) rfl inRange_samplePayload
  exact ⟨claim, hclaim, hiff.mpr ⟨by decide, by decide⟩⟩

end binding

def Operation.presenting (op : Operation) (claim : String) : Operation :=
  { op with spec.approvals := some { op.spec.approvals.getD {} with claim := claim } }

def Unlocked (hmacSHA256Hex : String → String → String) (now : ℤ) (op : Operation)
    (secret : String) : Prop :=
  ∀ reason, checkApproval hmacSHA256Hex now op secret ≠ .blocked reason

section unlocked

variable {hmacSHA256 : Bytes → Bytes → Vector UInt8 32} {now : ℤ} {op : Operation}
  {secret claim : String}

@[simp] theorem approvalRequired_presenting :
    approvalRequired (op.presenting claim) = approvalRequired op := by
  simp only [approvalRequired, Operation.presenting]
  cases op.spec.approvals <;> rfl

theorem unlocked_presenting_iff {hmacSHA256Hex : String → String → String}
    (hrequired : approvalRequired op = true) :
    Unlocked hmacSHA256Hex now (op.presenting claim) secret ↔
      verify hmacSHA256Hex now secret claim op.metadata.name = .ok () := by
  have htrim : verify hmacSHA256Hex now (trimSpace secret) (trimSpace claim) op.metadata.name =
      verify hmacSHA256Hex now secret claim op.metadata.name := by
    simp only [verify, trimSpace_trimSpace]
  have hclaim : approvalClaim (op.presenting claim) = trimSpace claim := rfl
  have hname : (op.presenting claim).metadata.name = op.metadata.name := rfl
  unfold Unlocked checkApproval
  rw [approvalRequired_presenting, hrequired, hclaim, hname]
  simp only [htrim, Bool.not_true, Bool.false_eq_true, if_false]
  constructor
  · intro h
    split at h
    · exact absurd rfl (h _)
    · split at h
      · exact absurd rfl (h _)
      · cases hverify : verify hmacSHA256Hex now secret claim op.metadata.name with
        | ok _ => rfl
        | error e =>
          rw [hverify] at h
          exact absurd rfl (h _)
  · intro h reason
    have hsecret := secret_ne_of_verify _ h
    have hblank : trimSpace claim ≠ "" := by
      intro hblank
      rw [verify, if_neg hsecret, if_pos hblank] at h
      exact absurd h (by simp)
    rw [if_neg hblank, if_neg hsecret, h]
    simp

def sampleRestore (ns name : String) : Operation where
  metadata := { ns := ns, name := name }
  spec := { targetRef := ⟨"vworkspace.io/v1alpha1", "ApplicationInstance", "shop"⟩, type := .restore,
            engine := .velero }

theorem claim_unlocks_one_iff (hmacSHA256 : Bytes → Bytes → Vector UInt8 32) {op₁ op₂ : Operation}
    (hrequired₁ : approvalRequired op₁ = true) (hrequired₂ : approvalRequired op₂ = true) :
    (∀ (secret claim : String) (now₁ now₂ : ℤ),
      ¬ (Unlocked (hmacHex hmacSHA256) now₁ (op₁.presenting claim) secret ∧
        Unlocked (hmacHex hmacSHA256) now₂ (op₂.presenting claim) secret)) ↔
      trimSpace op₁.metadata.name ≠ trimSpace op₂.metadata.name := by
  constructor
  · intro hone hnames
    have hrange : ({ version := 1, operationName := op₁.metadata.name } : Payload).InRange :=
      ⟨by simp, by simp, by simp⟩
    obtain ⟨claim, hclaim⟩ : ∃ claim, issue (hmacHex hmacSHA256) "s"
        { version := 1, operationName := op₁.metadata.name } = .ok claim := ⟨_, rfl⟩
    refine hone "s" claim 0 0 ⟨?_, ?_⟩
    · rw [unlocked_presenting_iff hrequired₁, verify_of_issue hrange hclaim,
        checkPayload_eq_ok_iff]
      exact ⟨rfl, rfl, Int.le_refl _⟩
    · rw [unlocked_presenting_iff hrequired₂, verify_of_issue hrange hclaim,
        checkPayload_eq_ok_iff]
      exact ⟨rfl, hnames, Int.le_refl _⟩
  · rintro hnames secret claim now₁ now₂ ⟨h₁, h₂⟩
    obtain ⟨body₁, payload₁, hparts₁, hpayload₁, hchecked₁⟩ :=
      parts_of_verify ((unlocked_presenting_iff hrequired₁).mp h₁)
    obtain ⟨body₂, payload₂, hparts₂, hpayload₂, hchecked₂⟩ :=
      parts_of_verify ((unlocked_presenting_iff hrequired₂).mp h₂)
    obtain rfl : body₁ = body₂ := by
      rw [hparts₁] at hparts₂
      exact (List.cons.inj (List.cons.inj hparts₂).2).1
    obtain rfl : payload₁ = payload₂ := Except.ok.inj (hpayload₁.symm.trans hpayload₂)
    obtain ⟨-, hname₁, -⟩ := checkPayload_eq_ok_iff.mp hchecked₁
    obtain ⟨-, hname₂, -⟩ := checkPayload_eq_ok_iff.mp hchecked₂
    exact hnames (hname₁.symm.trans hname₂)

theorem restores_claim_unlocks_one_iff :
    (∀ (secret claim : String) (now₁ now₂ : ℤ),
      ¬ (Unlocked (hmacHex fun _ _ => Vector.replicate 32 0) now₁
          ((sampleRestore "team" "restore-1").presenting claim) secret ∧
        Unlocked (hmacHex fun _ _ => Vector.replicate 32 0) now₂
          ((sampleRestore "team" "restore-2").presenting claim) secret)) ↔
      trimSpace "restore-1" ≠ trimSpace "restore-2" :=
  claim_unlocks_one_iff _ (by decide) (by decide)

theorem claim_unlocks_both_restores :
    (sampleRestore "team-a" "restore-1").metadata.key ≠
      (sampleRestore "team-b" "restore-1").metadata.key ∧
    ∃ claim, issue (hmacHex fun _ _ => Vector.replicate 32 0) "s3cret" samplePayload = .ok claim ∧
      Unlocked (hmacHex fun _ _ => Vector.replicate 32 0) 1700000000
        ((sampleRestore "team-a" "restore-1").presenting claim) "s3cret" ∧
      Unlocked (hmacHex fun _ _ => Vector.replicate 32 0) 1700000000
        ((sampleRestore "team-b" "restore-1").presenting claim) "s3cret" := by
  obtain ⟨claim, hclaim⟩ : ∃ claim, issue (hmacHex fun _ _ => Vector.replicate 32 0) "s3cret"
      samplePayload = .ok claim := ⟨_, rfl⟩
  have hboth : ∀ ns, Unlocked (hmacHex fun _ _ => Vector.replicate 32 0) 1700000000
      ((sampleRestore ns "restore-1").presenting claim) "s3cret" := by
    intro ns
    rw [unlocked_presenting_iff (by rfl), verify_of_issue inRange_samplePayload hclaim,
      checkPayload_eq_ok_iff]
    exact ⟨rfl, rfl, by decide⟩
  exact ⟨by decide, claim, hclaim, hboth _, hboth _⟩

end unlocked

end VWorkspace
