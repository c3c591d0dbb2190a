import VWorkspaceOperator.Kit.JsonObject
import VWorkspaceOperator.Operations.ApprovalClaim

/-!
# Issuing approval claims

The other side of `approvalclaim.Verify`: the canonical form of a payload, and the claim that is
built from it.  The keyed digest is opaque; its text is the hexadecimal form of 32 bytes, so it
has neither a dot nor a blank, and a claim comes apart where it was put together.
-/

namespace VWorkspace

open Kit

def hmacHex (hmacSHA256 : Bytes → Bytes → Vector UInt8 32) (secret body : String) : String :=
  hexEncode (hmacSHA256 (bytesOf secret) (bytesOf body)).toList

def Payload.members (p : Payload) : List (String × List Char) :=
  [("at", encodeString p.approvedAt), ("by", encodeString p.approvedBy),
    ("exp", encodeInt p.expiresAt), ("op", encodeString p.operationName),
    ("rid", encodeInt p.requestID), ("v", encodeInt p.version)]

/-- The canonical JSON form of a payload: sorted keys, no blanks. -/
def marshalCanonicalPayload (p : Payload) : Bytes := utf8 (encodeObject p.members)

def Payload.body (p : Payload) : String := base64Encode (marshalCanonicalPayload p)

def issue (hmacSHA256Hex : String → String → String) (secret : String) (payload : Payload) :
    Except String String :=
  if trimSpace secret = "" then .error "secret is required"
  else
    .ok (claimPrefix ++ "." ++ payload.body ++ "." ++
      hmacSHA256Hex (trimSpace secret) payload.body)

structure Payload.InRange (p : Payload) : Prop where
  version : -(2 ^ 63) ≤ p.version ∧ p.version < 2 ^ 63
  requestID : -(2 ^ 63) ≤ p.requestID ∧ p.requestID < 2 ^ 63
  expiresAt : -(2 ^ 63) ≤ p.expiresAt ∧ p.expiresAt < 2 ^ 63

def Payload.parsed (p : Payload) : Fields :=
  [("at", .str p.approvedAt), ("by", .str p.approvedBy),
    ("exp", .num (String.ofList (encodeInt p.expiresAt))), ("op", .str p.operationName),
    ("rid", .num (String.ofList (encodeInt p.requestID))),
    ("v", .num (String.ofList (encodeInt p.version)))]

theorem Payload.writtenMembers (p : Payload) : WrittenMembers p.members p.parsed :=
  .cons ⟨rfl, written_encodeString _⟩ <| .cons ⟨rfl, written_encodeString _⟩ <|
    .cons ⟨rfl, written_encodeInt _⟩ <| .cons ⟨rfl, written_encodeString _⟩ <|
    .cons ⟨rfl, written_encodeInt _⟩ <| .cons ⟨rfl, written_encodeInt _⟩ .nil

theorem decodeMembers_parsed {p : Payload} (h : p.InRange) :
    decodeMembers "Payload" Payload.fields p.parsed {} = .ok p := by
  have hint : ∀ (goType : String) (i cur : ℤ), -(2 ^ 63) ≤ i ∧ i < 2 ^ 63 →
      decodeInt 64 goType (.num (String.ofList (encodeInt i))) cur = .ok i :=
    fun goType _ cur hi => decodeInt_encodeInt goType cur hi
  refine (decodeMembers_cons rfl rfl).trans ((decodeMembers_cons rfl rfl).trans ?_)
  refine (decodeMembers_cons rfl (hint _ _ _ h.expiresAt)).trans ?_
  refine (decodeMembers_cons rfl rfl).trans ?_
  refine (decodeMembers_cons rfl (hint _ _ _ h.requestID)).trans ?_
  exact (decodeMembers_cons rfl (hint _ _ _ h.version)).trans rfl

theorem decodePayload_body {p : Payload} (h : p.InRange) : decodePayload p.body = .ok p := by
  have hparse : parseJson (marshalCanonicalPayload p) = some (.obj p.parsed) :=
    parseJson_encodeObject p.writtenMembers (by simp [Payload.members])
  have hunmarshal : unmarshal "Payload" Payload.fields (marshalCanonicalPayload p) {} = .ok p := by
    rw [unmarshal, hparse]
    exact decodeMembers_parsed h
  rw [decodePayload, Payload.body, base64Decode_base64Encode]
  simp only [hunmarshal]

section parts

variable {hmacSHA256Hex : String → String → String} {now : ℤ} {secret claim name : String}

theorem verify_of_parts {body : String} {payload : Payload} (hsecret : trimSpace secret ≠ "")
    (hparts : splitOn '.' (trimSpace claim) =
      [claimPrefix, body, hmacSHA256Hex (trimSpace secret) body])
    (hpayload : decodePayload body = .ok payload) :
    verify hmacSHA256Hex now secret claim name = checkPayload now name payload := by
  have hclaim : trimSpace claim ≠ "" := by
    intro hempty
    have hblank : splitOn '.' "" = [""] := by decide
    rw [hempty, hblank] at hparts
    exact absurd (congrArg List.length hparts) (by simp)
  have hsplit : splitClaim (trimSpace claim) =
      .ok (claimPrefix, body, hmacSHA256Hex (trimSpace secret) body) := by
    rw [splitClaim, hparts]
  rw [verify, if_neg hsecret, if_neg hclaim, hsplit]
  simp only [ne_eq, not_true_eq_false, if_false, hpayload]

theorem parts_of_verify (h : verify hmacSHA256Hex now secret claim name = .ok ()) :
    ∃ body payload,
      splitOn '.' (trimSpace claim) =
        [claimPrefix, body, hmacSHA256Hex (trimSpace secret) body] ∧
      decodePayload body = .ok payload ∧ checkPayload now name payload = .ok () := by
  have hsecret := secret_ne_of_verify _ h
  rw [verify, if_neg hsecret] at h
  split at h
  · exact absurd h (by simp)
  · cases hsplit : splitClaim (trimSpace claim) with
    | error e =>
      rw [hsplit] at h
      exact absurd h (by simp)
    | ok parts =>
      obtain ⟨pre, body, digest⟩ := parts
      have hparts : splitOn '.' (trimSpace claim) = [pre, body, digest] := by
        unfold splitClaim at hsplit
        split at hsplit
        · next hlist =>
          simp only [Except.ok.injEq, Prod.mk.injEq] at hsplit
          obtain ⟨rfl, rfl, rfl⟩ := hsplit
          exact hlist
        · exact absurd hsplit (by simp)
      rw [hsplit] at h
      simp only at h
      split at h
      · exact absurd h (by simp)
      · next hpre =>
        split at h
        · exact absurd h (by simp)
        · next hdigest =>
          rw [not_not] at hpre hdigest
          cases hpayload : decodePayload body with
          | error e =>
            rw [hpayload] at h
            exact absurd h (by simp)
          | ok payload =>
            rw [hpayload] at h
            exact ⟨body, payload, by rw [hparts, hpre, hdigest], hpayload, h⟩

theorem checkPayload_eq_ok_iff {payload : Payload} :
    checkPayload now name payload = .ok () ↔
      payload.version = 1 ∧ trimSpace payload.operationName = trimSpace name ∧
        now ≤ payload.expiresAt := by
  unfold checkPayload
  split
  · next hversion => simp [hversion]
  · next hversion =>
    split
    · next hname => simp [hname]
    · next hname =>
      split
      · next hexpired => simp [hexpired]
      · next hexpired =>
        rw [not_not] at hversion hname
        exact ⟨fun _ => ⟨hversion, hname, Int.not_lt.mp hexpired⟩, fun _ => rfl⟩

end parts

section issued

variable {hmacSHA256 : Bytes → Bytes → Vector UInt8 32} {secret claim : String} {payload : Payload}

theorem isSpace_of_mem_claim (secret : String) (payload : Payload) :
    ∀ c ∈ (claimPrefix ++ "." ++ payload.body ++ "." ++
      hmacHex hmacSHA256 (trimSpace secret) payload.body).toList, isSpace c = false := by
  have hletters : ∀ v : Fin 64, isSpace (base64Char v) = false := by decide +kernel
  have hdigits : ∀ n : Fin 16, isSpace (lowerHexDigit n) = false := by decide +kernel
  have hpre : ∀ c ∈ claimPrefix.toList ++ ".".toList, isSpace c = false := by
    simp [claimPrefix, isSpace]
  intro c hc
  simp only [String.toList_append, List.mem_append] at hc hpre
  rcases hc with ((hc | hc) | hc) | hc
  · exact hpre c hc
  · obtain ⟨v, hv, rfl⟩ := exists_of_mem_base64Encode hc
    exact hletters ⟨v, hv⟩
  · exact hpre c (.inr hc)
  · by_contra hspace
    refine notMem_hexEncode (c := c) (fun n hn heq => ?_) _ hc
    exact hspace (heq ▸ hdigits ⟨n, hn⟩)

theorem splitOn_of_issue (h : issue (hmacHex hmacSHA256) secret payload = .ok claim) :
    splitOn '.' (trimSpace claim) =
      [claimPrefix, payload.body, hmacHex hmacSHA256 (trimSpace secret) payload.body] := by
  have hdigest : '.' ∉ (hmacHex hmacSHA256 (trimSpace secret) payload.body).toList :=
    notMem_hexEncode (by decide) _
  unfold issue at h
  split at h
  · exact absurd h (by simp)
  · rw [Except.ok.injEq] at h
    subst h
    have hdot : "." = String.singleton '.' := by decide
    have hpre : splitOn '.' claimPrefix = [claimPrefix] := by decide
    have hbody : '.' ∉ payload.body.toList := notMem_base64Encode (by decide) _
    rw [trimSpace_of_forall (isSpace_of_mem_claim secret payload), hdot, splitOn_append,
      splitOn_append, splitOn_of_notMem hdigest, splitOn_of_notMem hbody, hpre]
    rfl

end issued

end VWorkspace
