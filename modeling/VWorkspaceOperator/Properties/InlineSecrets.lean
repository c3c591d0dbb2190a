import VWorkspaceOperator.Webhook.InlineSecrets

/-!
# Which inline secrets are found

The rule the webhook documents is about strings at any depth, through objects and arrays, with
the key that encloses them most closely.  The walk looks at the values of members only.  A
password in a list of passwords, or a private key in a list of keys, goes through, unless the
same document has a secret that is the value of a member.  A document with a number that cannot
be decoded is turned down without a look at its strings.

## Main results

* `detection_iff`: when the verdict is that of the rule.
-/

namespace VWorkspace

open Kit

def Exposed (v : Json) : Prop := ∃ key s, StringLeaf v key s ∧ offends key s = true

/-- A secret is an element of an array, or the whole document. -/
def ExposedLoosely (v : Json) : Prop := ∃ key s, LooseLeaf v key s ∧ offends key s = true

def ExposedInMember (v : Json) : Prop := ∃ k s, MemberLeaf v k s ∧ offends (some k) s = true

theorem exposed_iff {v : Json} : Exposed v ↔ ExposedLoosely v ∨ ExposedInMember v := by
  constructor
  · rintro ⟨key, s, hleaf, hs⟩
    rcases stringLeaf_iff.mp hleaf with hloose | ⟨k, rfl, hmember⟩
    · exact .inl ⟨key, s, hloose, hs⟩
    · exact .inr ⟨k, s, hmember, hs⟩
  · rintro (⟨key, s, hloose, hs⟩ | ⟨k, s, hmember, hs⟩)
    · exact ⟨key, s, stringLeaf_iff.mpr (.inl hloose), hs⟩
    · exact ⟨some k, s, stringLeaf_iff.mpr (.inr ⟨k, rfl, hmember⟩), hs⟩

theorem walkInlineSecret_error_iff {path : String} {v : Json} :
    (∃ e, walkInlineSecret path v = .error e) ↔ ExposedInMember v := by
  have hok := walkInlineSecret_eq_ok_iff path v
  cases hwalk : walkInlineSecret path v with
  | ok u =>
    refine iff_of_false (by simp) ?_
    rintro ⟨k, s, hleaf, hs⟩
    exact absurd (hok.mp hwalk k s hleaf) (by simp [hs])
  | error e =>
    refine iff_of_true ⟨e, rfl⟩ ?_
    by_contra hnone
    have hunexposed : Unexposed v := fun k s hleaf => by
      by_contra hs
      exact hnone ⟨k, s, hleaf, by simpa using hs⟩
    exact absurd ((hok.mpr hunexposed).symm.trans hwalk) (by simp)

theorem detectInlineSecret_error_iff {raw : Bytes} {doc : Json} (h : parseJson raw = some doc) :
    (∃ e, detectInlineSecret raw = .error e) ↔
      doc.outOfRange ≠ none ∨ ExposedInMember (toAny doc.toFloats) := by
  have hraw : raw ≠ [] := by
    rintro rfl
    have hempty : parseJson [] = none := by decide
    rw [hempty] at h
    exact absurd h (by simp)
  rw [detectInlineSecret, if_neg hraw, unmarshalAny, h]
  cases hrange : doc.outOfRange with
  | none => simp [walkInlineSecret_error_iff, hrange]
  | some lit => simp [hrange]

theorem detection_iff {raw : Bytes} {doc : Json} (h : parseJson raw = some doc) :
    (((∃ e, detectInlineSecret raw = .error e) ↔ Exposed (toAny doc.toFloats)) ↔
      (ExposedLoosely (toAny doc.toFloats) →
        doc.outOfRange ≠ none ∨ ExposedInMember (toAny doc.toFloats)) ∧
      (doc.outOfRange ≠ none → Exposed (toAny doc.toFloats))) ∧
    ∀ v, Reordered (toAny doc.toFloats) v →
      ((doc.outOfRange ≠ none ∨ ∃ e, walkInlineSecret "" v = .error e) ↔
        ∃ e, detectInlineSecret raw = .error e) := by
  rw [detectInlineSecret_error_iff h, exposed_iff]
  refine ⟨by tauto, fun v hv => or_congr_right ?_⟩
  rw [walkInlineSecret_error_iff]
  constructor
  · rintro ⟨k, s, hleaf, hs⟩
    exact ⟨k, s, memberLeaf_of_reordered hv.symm k s hleaf, hs⟩
  · rintro ⟨k, s, hleaf, hs⟩
    exact ⟨k, s, memberLeaf_of_reordered hv k s hleaf, hs⟩

def databaseValues : Json := .obj [("db", .obj [("rootPassword", .str "hunter2")])]

theorem exposedInMember_databaseValues : ExposedInMember (toAny databaseValues.toFloats) := by
  have hmember : ("db", Json.obj [("rootPassword", .str "hunter2")]) ∈
      [("db", Json.obj [("rootPassword", .str "hunter2")])] := List.mem_cons_self
  exact ⟨"rootPassword", "hunter2", .member hmember (.here (by decide)), by decide⟩

theorem database_values_rejected : (∃ e, detectInlineSecret
      (bytesOf "\x7b\"db\":\x7b\"rootPassword\":\"hunter2\"\x7d\x7d") = .error e) ∧
    Exposed (toAny databaseValues.toFloats) := by
  have hparse : parseJson (bytesOf "\x7b\"db\":\x7b\"rootPassword\":\"hunter2\"\x7d\x7d") =
      some databaseValues := by decide +kernel
  have hexposed := exposed_iff.mpr (.inr exposedInMember_databaseValues)
  exact ⟨((detection_iff hparse).1.mpr ⟨fun _ => .inr exposedInMember_databaseValues,
    fun _ => hexposed⟩).mpr hexposed, hexposed⟩

def passwordList : Json := .obj [("password", .arr [.str "hunter2"])]

theorem password_list_accepted :
    detectInlineSecret (bytesOf "\x7b\"password\":[\"hunter2\"]\x7d") = .ok () ∧
      parseJson (bytesOf "\x7b\"password\":[\"hunter2\"]\x7d") = some passwordList ∧
      Exposed (toAny passwordList.toFloats) :=
  ⟨by decide +kernel, by decide +kernel, _, _,
    .member (k := "password") (v := .arr [.str "hunter2"]) (by decide)
      (.elem List.mem_cons_self (.here "hunter2")), by decide⟩

end VWorkspace
