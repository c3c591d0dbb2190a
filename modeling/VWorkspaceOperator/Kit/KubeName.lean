import Mathlib.Algebra.GroupWithZero.Nat
import Mathlib.Data.List.Basic
import VWorkspaceOperator.Kit.Text

/-!
# Names the API server accepts

Labels and subdomains as RFC 1123 has them, and the text of a UUID.  Two texts that are joined by
two hyphens can be told apart only as far as neither has two hyphens inside.
-/

namespace Kit

def isLabelChar (c : Char) : Bool := ('a' ≤ c && c ≤ 'z') || ('0' ≤ c && c ≤ '9')

/-- Letters, digits and hyphens, with a letter or digit at both ends. -/
def isLabel (cs : List Char) : Bool :=
  cs.all (fun c => isLabelChar c || c == '-') && cs.head?.any isLabelChar &&
    cs.getLast?.any isLabelChar

def isDNS1123Label (s : String) : Bool := s.length ≤ 63 && isLabel s.toList

def isDNS1123Subdomain (s : String) : Bool :=
  s.length ≤ 253 && (splitList '.' s.toList).all isLabel

theorem getLast?_ne_hyphen_of_isLabel {cs : List Char} (h : isLabel cs = true) :
    cs.getLast? ≠ some '-' := by
  intro hlast
  rw [isLabel, hlast] at h
  simp only [Option.any_some, Bool.and_eq_true] at h
  exact absurd h.2 (by decide)

theorem getLast?_ne_hyphen_of_isDNS1123Label {s : String} (h : isDNS1123Label s = true) :
    s.toList.getLast? ≠ some '-' := by
  rw [isDNS1123Label, Bool.and_eq_true] at h
  exact getLast?_ne_hyphen_of_isLabel h.2

theorem length_le_utf8ByteSize (s : String) : s.length ≤ s.utf8ByteSize := by
  have hlist : ∀ cs : List Char, cs.length ≤ (String.ofList cs).utf8ByteSize := by
    intro cs
    induction cs with
    | nil => simp
    | cons c cs ih =>
      have hc := c.utf8Size_pos
      have hcons : String.ofList (c :: cs) = String.singleton c ++ String.ofList cs := by
        rw [← String.toList_inj]
        simp
      rw [hcons, String.utf8ByteSize_append, String.utf8ByteSize_singleton, List.length_cons]
      omega
  rw [← String.length_toList]
  simpa using hlist s.toList

theorem append_hyphens_inj {as as' bs bs' : List Char} (has : as.getLast? ≠ some '-')
    (has' : as'.getLast? ≠ some '-')
    (heq : as ++ '-' :: '-' :: bs = as' ++ '-' :: '-' :: bs') :
    (as = as' ∧ bs = bs') ∨
      (∃ xs, as' = as ++ '-' :: '-' :: xs ∧ bs = xs ++ '-' :: '-' :: bs') ∨
      ∃ xs, as = as' ++ '-' :: '-' :: xs ∧ bs' = xs ++ '-' :: '-' :: bs := by
  have hlonger : ∀ {as as' bs bs' ts : List Char}, as'.getLast? ≠ some '-' → as' = as ++ ts →
      '-' :: '-' :: bs = ts ++ '-' :: '-' :: bs' →
      (as = as' ∧ bs = bs') ∨
        ∃ xs, as' = as ++ '-' :: '-' :: xs ∧ bs = xs ++ '-' :: '-' :: bs' := by
    intro as as' bs bs' ts hlast has' hts
    match ts with
    | [] => exact .inl ⟨by simp [has'], by simpa using hts⟩
    | [t] =>
      obtain rfl : '-' = t := (List.cons.inj hts).1
      exact absurd (by simp [has']) hlast
    | t :: t' :: ts =>
      simp only [List.cons_append, List.cons.injEq] at hts
      obtain ⟨rfl, rfl, rfl⟩ := hts
      exact .inr ⟨ts, has', rfl⟩
  rcases List.append_eq_append_iff.mp heq with ⟨ts, has₁, hts⟩ | ⟨ts, has₁, hts⟩
  · rcases hlonger has' has₁ hts with h | h
    · exact .inl h
    · exact .inr (.inl h)
  · rcases hlonger has has₁ hts with h | h
    · exact .inl ⟨h.1.symm, h.2.symm⟩
    · exact .inr (.inr h)

def isUUIDDigit (c : Char) : Bool := ('a' ≤ c && c ≤ 'f') || ('0' ≤ c && c ≤ '9')

def isUUID (s : String) : Bool :=
  let groups := splitList '-' s.toList
  groups.map List.length == [8, 4, 4, 4, 12] && groups.all fun g => g.all isUUIDDigit

theorem sum_length_splitList (sep : Char) (cs : List Char) :
    ((splitList sep cs).map List.length).sum + (splitList sep cs).length = cs.length + 1 := by
  induction cs with
  | nil => rfl
  | cons c cs ih =>
    rw [splitList]
    split
    · simp only [List.map_cons, List.length_nil, List.sum_cons, List.length_cons]
      omega
    · cases hparts : splitList sep cs with
      | nil => exact absurd hparts (splitList_ne_nil cs)
      | cons part parts =>
        rw [hparts] at ih
        simp only [List.map_cons, List.sum_cons, List.length_cons] at ih ⊢
        omega

theorem map_length_of_isUUID {s : String} (h : isUUID s = true) :
    (splitList '-' s.toList).map List.length = [8, 4, 4, 4, 12] := by
  simp only [isUUID, Bool.and_eq_true, beq_iff_eq] at h
  exact h.1

theorem length_of_isUUID {s : String} (h : isUUID s = true) : s.length = 36 := by
  have hgroups := map_length_of_isUUID h
  have hsum := sum_length_splitList '-' s.toList
  have hcount : (splitList '-' s.toList).length = 5 := by
    rw [← List.length_map (f := List.length), hgroups]
    rfl
  rw [hgroups, hcount, String.length_toList] at hsum
  simp only [List.sum_cons, List.sum_nil] at hsum
  omega

theorem ne_append_hyphens_of_isUUID {s : String} (h : isUUID s = true) (as bs : List Char) :
    s.toList ≠ as ++ '-' :: '-' :: bs := by
  intro heq
  have hgroups := map_length_of_isUUID h
  have hempty : [] ∈ splitList '-' s.toList := by
    rw [heq, splitList_append_cons, splitList, if_pos rfl]
    exact List.mem_append_right _ List.mem_cons_self
  have hzero := List.mem_map_of_mem (f := List.length) hempty
  rw [hgroups] at hzero
  exact absurd hzero (by decide)

end Kit
