import VWorkspaceOperator.Kit.Base64
import VWorkspaceOperator.Kit.JsonDecode

/-!
# Approval claims

A claim is a text of three parts: the prefix `vws1`, the base64url form of a
JSON payload, and the keyed digest of the middle part.  `verify` accepts a claim
for one operation name under one secret until the payload's expiry.  The digest
is opaque: it is a parameter, the function `hmacSHA256Hex`.
-/

namespace VWorkspace

open Kit

def claimPrefix : String := "vws1"

structure Payload where
  version : Int := 0
  requestID : Int := 0
  operationName : String := ""
  approvedBy : String := ""
  approvedAt : String := ""
  expiresAt : Int := 0
  deriving DecidableEq, Repr

def Payload.fields : List (StructField Payload) :=
  [.of "v" (decodeInt 64 "int") version fun x p => { p with version := x },
    .of "rid" (decodeInt 64 "int") requestID fun x p => { p with requestID := x },
    .of "op" decodeString operationName fun x p => { p with operationName := x },
    .of "by" decodeString approvedBy fun x p => { p with approvedBy := x },
    .of "at" decodeString approvedAt fun x p => { p with approvedAt := x },
    .of "exp" (decodeInt 64 "int64") expiresAt fun x p => { p with expiresAt := x }]

def splitClaim (claim : String) : Except String (String × String × String) :=
  match splitOn '.' claim with
  | [pre, body, digest] => .ok (pre, body, digest)
  | _ => .error "malformed approval claim"

def decodePayload (body : String) : Except String Payload :=
  match base64Decode body with
  | none => .error "decode approval claim payload: illegal base64 data"
  | some raw =>
      match unmarshal "Payload" Payload.fields raw {} with
      | .error e => .error ("parse approval claim payload: " ++ e)
      | .ok payload => .ok payload

section verify

variable (hmacSHA256Hex : String → String → String)

def checkPayload (now : ℤ) (operationName : String) (payload : Payload) : Except String Unit :=
  if payload.version ≠ 1 then
    .error ("unsupported approval claim version " ++ toString payload.version)
  else if trimSpace payload.operationName ≠ trimSpace operationName then
    .error ("approval claim operation " ++ goQuote payload.operationName ++ " does not match " ++
      goQuote operationName)
  else if now > payload.expiresAt then .error "approval claim expired"
  else .ok ()

/-- `approvalclaim.Verify`: format, digest, version, name and expiry, in this
order. -/
def verify (now : ℤ) (secret claim operationName : String) : Except String Unit :=
  if trimSpace secret = "" then
    .error "approval claim verification requires a configured secret"
  else if trimSpace claim = "" then .error "approval claim is empty"
  else
    match splitClaim (trimSpace claim) with
    | .error e => .error e
    | .ok (pre, body, digest) =>
        if pre ≠ claimPrefix then .error ("unsupported approval claim prefix " ++ goQuote pre)
        else if hmacSHA256Hex (trimSpace secret) body ≠ digest then
          .error "approval claim signature mismatch"
        else
          match decodePayload body with
          | .error e => .error e
          | .ok payload => checkPayload now operationName payload

theorem secret_ne_of_verify {now : ℤ} {secret claim operationName : String}
    (h : verify hmacSHA256Hex now secret claim operationName = .ok ()) : trimSpace secret ≠ "" := by
  intro hs
  rw [verify, if_pos hs] at h
  exact absurd h (by simp)

end verify

end VWorkspace
