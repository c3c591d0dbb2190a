import VWorkspaceOperator.Api
import VWorkspaceOperator.Kit.JsonDecode
import VWorkspaceOperator.Kit.JsonLeaves
import VWorkspaceOperator.Kit.Prog

/-!
# Secrets in inline values

The webhook of the instances walks the inline values of a chart and turns down those with a
string that looks like a secret, by the name of the member it is the value of or by the header
of a private key.  A string that is an element of an array is passed over, whatever encloses it.

The members of an object are visited in the order of the list.  In the source they are a map,
and the order is any.
-/

namespace VWorkspace

open Kit

def hasSuffix (s suffix : String) : Bool := suffix.toList.isSuffixOf s.toList

def inlineSecretPlaceholders : List String :=
  ["<set via externalsecret>", "<set via external-secret>"]

def sensitiveExactKeys : List String := ["accesskey", "secretkey", "apikey", "token"]

/-- `pemPrivateKeyPattern`: what stands between the two parts is on one line. -/
def pemPrivateKeyPattern (s : String) : Bool :=
  let begin := "-----BEGIN "
  hasPrefix s begin &&
    contains (String.ofList ((s.toList.drop begin.length).takeWhile (· ≠ '\n'))) "PRIVATE KEY-----"

/-- The first part of `checkSensitiveLeaf`: a text that is not looked at. -/
def passedOver (s : String) : Bool :=
  trimSpace s = "" || toLower (trimSpace s) ∈ inlineSecretPlaceholders

def sensitiveKey (key : String) : Bool :=
  hasSuffix (toLower key) "password" || hasSuffix (toLower key) "secret" ||
    toLower key ∈ sensitiveExactKeys

/-- A string is a secret, by the key that encloses it most closely or by its header. -/
def offends (key : Option String) (s : String) : Bool :=
  !passedOver s && (key.any sensitiveKey || pemPrivateKeyPattern (trimSpace s))

def checkSensitiveLeaf (path key : String) : Json → Except GoError Unit
  | .str s =>
      if passedOver s then .ok ()
      else if sensitiveKey key then
        .error { msg := "inline secret material rejected at " ++ goQuote path ++
          ": use secretRef or configMapRef" }
      else if pemPrivateKeyPattern (trimSpace s) then
        .error { msg := "inline secret material rejected at " ++ goQuote path ++
          ": PEM private key not allowed inline" }
      else .ok ()
  | _ => .ok ()

def memberPath (path key : String) : String := if path = "" then key else path ++ "." ++ key

def elemPath (path : String) (i : ℕ) : String := path ++ "[" ++ i.repr ++ "]"

mutual

def walkInlineSecret (path : String) : Json → Except GoError Unit
  | .obj fs => walkMembers path fs
  | .arr vs => walkElems path 0 vs
  | .null => .ok ()
  | .bool _ => .ok ()
  | .num _ => .ok ()
  | .str _ => .ok ()
termination_by structural v => v

def walkMembers (path : String) : Fields → Except GoError Unit
  | [] => .ok ()
  | (key, child) :: fs => do
      checkSensitiveLeaf (memberPath path key) key child
      walkInlineSecret (memberPath path key) child
      walkMembers path fs
termination_by structural fs => fs

def walkElems (path : String) (i : ℕ) : List Json → Except GoError Unit
  | [] => .ok ()
  | child :: vs => do
      walkInlineSecret (elemPath path i) child
      walkElems path (i + 1) vs
termination_by structural vs => vs

end

def detectInlineSecret (raw : Bytes) : Except GoError Unit :=
  if raw = [] then .ok ()
  else
    match unmarshalAny raw with
    | .error e => .error { msg := "decode inline values: " ++ e }
    | .ok root => walkInlineSecret "" root

theorem checkSensitiveLeaf_eq_ok_iff {path key : String} {v : Json} :
    checkSensitiveLeaf path key v = .ok () ↔ ∀ s, v = .str s → offends (some key) s = false := by
  cases v with
  | str s =>
    have hstr : (∀ s', Json.str s = .str s' → offends (some key) s' = false) ↔
        offends (some key) s = false := by simp
    rw [hstr, checkSensitiveLeaf, offends, Option.any_some]
    cases passedOver s with
    | true => simp
    | false =>
      cases sensitiveKey key with
      | true => simp
      | false => cases pemPrivateKeyPattern (trimSpace s) <;> simp
  | _ => simp [checkSensitiveLeaf]

/-- A document has no secret that is the value of a member. -/
def Unexposed (v : Json) : Prop := ∀ k s, MemberLeaf v k s → offends (some k) s = false

theorem unexposed_arr_iff {vs : List Json} : Unexposed (.arr vs) ↔ ∀ v ∈ vs, Unexposed v := by
  constructor
  · exact fun h v hv k s hleaf => h k s (.elem hv hleaf)
  · intro h k s hleaf
    cases hleaf with
    | elem hv hleaf => exact h _ hv k s hleaf

theorem unexposed_obj_iff {fs : Fields} : Unexposed (.obj fs) ↔
    ∀ m ∈ fs, (∀ s, m.2 = .str s → offends (some m.1) s = false) ∧ Unexposed m.2 := by
  constructor
  · rintro h ⟨k, v⟩ hm
    refine ⟨fun s hs => h k s (.here ?_), fun k' s hleaf => h k' s (.member hm hleaf)⟩
    subst hs
    exact hm
  · intro h k s hleaf
    cases hleaf with
    | here hm => exact (h _ hm).1 s rfl
    | member hm hleaf => exact (h _ hm).2 k s hleaf

theorem unexposed_of_scalar {v : Json} (hobj : ∀ fs, v ≠ .obj fs) (harr : ∀ vs, v ≠ .arr vs) :
    Unexposed v := by
  intro k s hleaf
  cases hleaf with
  | here | member => exact absurd rfl (hobj _)
  | elem => exact absurd rfl (harr _)

mutual

theorem walkInlineSecret_eq_ok_iff (path : String) :
    ∀ v, walkInlineSecret path v = .ok () ↔ Unexposed v
  | .obj fs => by
      rw [walkInlineSecret, unexposed_obj_iff]
      exact walkMembers_eq_ok_iff path fs
  | .arr vs => by
      rw [walkInlineSecret, unexposed_arr_iff]
      exact walkElems_eq_ok_iff path 0 vs
  | .null => by
      rw [walkInlineSecret]
      exact iff_of_true rfl (unexposed_of_scalar (by simp) (by simp))
  | .bool _ => by
      rw [walkInlineSecret]
      exact iff_of_true rfl (unexposed_of_scalar (by simp) (by simp))
  | .num _ => by
      rw [walkInlineSecret]
      exact iff_of_true rfl (unexposed_of_scalar (by simp) (by simp))
  | .str _ => by
      rw [walkInlineSecret]
      exact iff_of_true rfl (unexposed_of_scalar (by simp) (by simp))
termination_by structural v => v

theorem walkMembers_eq_ok_iff (path : String) :
    ∀ fs, walkMembers path fs = .ok () ↔
      ∀ m ∈ fs, (∀ s, m.2 = .str s → offends (some m.1) s = false) ∧ Unexposed m.2
  | [] => by simp [walkMembers]
  | (key, child) :: fs => by
      rw [walkMembers, check_bind_eq_ok_iff, check_bind_eq_ok_iff, checkSensitiveLeaf_eq_ok_iff,
        walkInlineSecret_eq_ok_iff _ child, walkMembers_eq_ok_iff path fs, List.forall_mem_cons]
      exact and_assoc.symm
termination_by structural fs => fs

theorem walkElems_eq_ok_iff (path : String) (i : ℕ) :
    ∀ vs, walkElems path i vs = .ok () ↔ ∀ v ∈ vs, Unexposed v
  | [] => by simp [walkElems]
  | child :: vs => by
      rw [walkElems, check_bind_eq_ok_iff, walkInlineSecret_eq_ok_iff _ child,
        walkElems_eq_ok_iff path (i + 1) vs, List.forall_mem_cons]
termination_by structural vs => vs

end

end VWorkspace
