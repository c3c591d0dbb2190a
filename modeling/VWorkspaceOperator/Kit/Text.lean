import Mathlib.Data.List.DropRight
import Mathlib.Data.List.Infix

/-!
# Strings as the Go standard library handles them

The few functions of Go's `strings`, `strconv` and `encoding/json` packages
that decide what a controller reads out of a text.
-/

namespace Kit

/-- `unicode.IsSpace`: the ASCII and Latin-1 blanks and the space separators. -/
def isSpace (c : Char) : Bool :=
  let n := c.toNat
  (9 ≤ n && n ≤ 13) || n == 0x20 || n == 0x85 || n == 0xA0 || n == 0x1680 ||
    (0x2000 ≤ n && n ≤ 0x200A) || n == 0x2028 || n == 0x2029 || n == 0x202F ||
    n == 0x205F || n == 0x3000

def trimSpace (s : String) : String :=
  String.ofList ((s.toList.dropWhile isSpace).rdropWhile isSpace)

section trim

variable {s : String}

private theorem dropWhile_trimmed {α : Type*} (p : α → Bool) (l : List α) :
    ((l.dropWhile p).rdropWhile p).dropWhile p = (l.dropWhile p).rdropWhile p := by
  obtain ⟨t, ht⟩ := List.rdropWhile_prefix p (l.dropWhile p)
  cases hl : (l.dropWhile p).rdropWhile p with
  | nil => rfl
  | cons a as =>
    rw [hl, List.cons_append] at ht
    have hne : l.dropWhile p ≠ [] := by rw [← ht]; simp
    have ha := List.head_dropWhile_not p hne
    simp only [← ht, List.head_cons] at ha
    rw [List.dropWhile_cons, if_neg (by simp [ha])]

@[simp] theorem trimSpace_trimSpace (s : String) : trimSpace (trimSpace s) = trimSpace s := by
  unfold trimSpace
  rw [String.toList_ofList, dropWhile_trimmed, List.rdropWhile_idempotent]

theorem trimSpace_eq_empty_iff : trimSpace s = "" ↔ ∀ c ∈ s.toList, isSpace c = true := by
  have hempty : trimSpace s = "" ↔ (s.toList.dropWhile isSpace).rdropWhile isSpace = [] := by
    rw [trimSpace, ← String.toList_inj, String.toList_ofList]
    rfl
  rw [hempty, List.rdropWhile_eq_nil_iff]
  constructor
  · intro h
    rw [← List.dropWhile_eq_nil_iff]
    by_contra hne
    have hhead := List.head_dropWhile_not isSpace hne
    simp [h _ (List.head_mem hne)] at hhead
  · intro h c hc
    exact h c ((List.dropWhile_suffix isSpace).subset hc)

theorem isSpace_of_isDigit {c : Char} (h : c.isDigit = true) : isSpace c = false := by
  have hrange : 48 ≤ c.toNat ∧ c.toNat ≤ 57 := by
    simp only [Char.isDigit, ge_iff_le, Bool.and_eq_true, decide_eq_true_eq] at h
    exact ⟨h.1, h.2⟩
  unfold isSpace
  dsimp only
  simp only [Bool.or_eq_false_iff, Bool.and_eq_false_iff, decide_eq_false_iff_not,
    beq_eq_false_iff_ne]
  omega

theorem trimSpace_eq_self {a b : Char} (hhead : s.toList.head? = some a) (ha : isSpace a = false)
    (hlast : s.toList.getLast? = some b) (hb : isSpace b = false) : trimSpace s = s := by
  have hfront : s.toList.dropWhile isSpace = s.toList := by
    cases hcs : s.toList with
    | nil => rfl
    | cons c cs =>
      rw [hcs, List.head?_cons, Option.some.injEq] at hhead
      rw [List.dropWhile_cons, if_neg (by simp [hhead, ha])]
  have hback : s.toList.rdropWhile isSpace = s.toList := by
    rw [List.rdropWhile_eq_self_iff]
    intro hne
    rw [List.getLast?_eq_some_getLast hne, Option.some.injEq] at hlast
    simp [hlast, hb]
  rw [trimSpace, hfront, hback, String.ofList_toList]

theorem trimSpace_of_forall (h : ∀ c ∈ s.toList, isSpace c = false) : trimSpace s = s := by
  by_cases hnil : s.toList = []
  · rw [String.toList_eq_nil_iff.mp hnil]
    rfl
  · exact trimSpace_eq_self (List.head?_eq_some_head hnil) (h _ (List.head_mem hnil))
      (List.getLast?_eq_some_getLast hnil) (h _ (List.getLast_mem hnil))

end trim

def contains (s sub : String) : Bool := decide (sub.toList <:+: s.toList)

theorem contains_append_self (pre s : String) : contains (pre ++ s) s = true :=
  decide_eq_true ⟨pre.toList, [], by simp⟩

/-- `unicode.ToLower`, as far as the result is an ASCII letter: the capital i with
a dot and the Kelvin sign have one, too. -/
def lowerRune (c : Char) : Char :=
  if 'A' ≤ c && c ≤ 'Z' then Char.ofNat (c.toNat + 32)
  else if c.toNat == 0x130 then 'i'
  else if c.toNat == 0x212A then 'k'
  else c

def toLower (s : String) : String := String.ofList (s.toList.map lowerRune)

def trimRight (c : Char) (s : String) : String := String.ofList (s.toList.rdropWhile (· == c))

/-- The least character with the same simple case folding.  Only characters
that can fold to an ASCII letter matter to ASCII field names: the letters
themselves, the long s and the Kelvin sign. -/
def foldRune (c : Char) : Char :=
  if 'a' ≤ c && c ≤ 'z' then Char.ofNat (c.toNat - 32)
  else if c.toNat == 0x17F then 'S'
  else if c.toNat == 0x212A then 'K'
  else c

/-- `foldName` of `encoding/json`: the form in which keys are compared when no
field has exactly the key's name. -/
def foldName (s : String) : List Char := s.toList.map foldRune

def quoteRune (c : Char) : String :=
  match c with
  | '"' => "\\\""
  | '\\' => "\\\\"
  | '\n' => "\\n"
  | '\r' => "\\r"
  | '\t' => "\\t"
  | c => c.toString

/-- `strconv.Quote` for the printable texts that occur in messages. -/
def goQuote (s : String) : String :=
  "\"" ++ (s.toList.map quoteRune).foldr (· ++ ·) "\""

def splitList (sep : Char) : List Char → List (List Char)
  | [] => [[]]
  | c :: cs =>
      if c = sep then [] :: splitList sep cs
      else
        match splitList sep cs with
        | [] => [[c]]
        | part :: parts => (c :: part) :: parts

def splitOn (sep : Char) (s : String) : List String :=
  (splitList sep s.toList).map String.ofList

section split

variable {sep : Char}

theorem splitList_ne_nil (cs : List Char) : splitList sep cs ≠ [] := by
  cases cs with
  | nil => simp [splitList]
  | cons c cs =>
    rw [splitList]
    split
    · exact List.cons_ne_nil _ _
    · split <;> exact List.cons_ne_nil _ _

theorem splitList_append_cons (as bs : List Char) :
    splitList sep (as ++ sep :: bs) = splitList sep as ++ splitList sep bs := by
  induction as with
  | nil => simp [splitList]
  | cons a as ih =>
    by_cases ha : a = sep
    · simp [splitList, ha, ih]
    · simp only [List.cons_append, splitList, if_neg ha, ih]
      cases hparts : splitList sep as with
      | nil => exact absurd hparts (splitList_ne_nil as)
      | cons part parts => rfl

theorem eq_of_splitList_eq_singleton {cs part : List Char} (h : splitList sep cs = [part]) :
    part = cs := by
  induction cs generalizing part with
  | nil => simpa [splitList] using h.symm
  | cons c cs ih =>
    by_cases hc : c = sep
    · rw [splitList, if_pos hc, List.cons.injEq] at h
      exact absurd h.2 (splitList_ne_nil cs)
    · cases hparts : splitList sep cs with
      | nil => exact absurd hparts (splitList_ne_nil cs)
      | cons part' parts =>
        simp only [splitList, if_neg hc, hparts, List.cons.injEq] at h
        have hpart : part' = cs := ih (by rw [hparts, h.2])
        rw [← h.1, hpart]

theorem splitOn_append (s t : String) :
    splitOn sep (s ++ String.singleton sep ++ t) = splitOn sep s ++ splitOn sep t := by
  simp [splitOn, splitList_append_cons]

theorem splitOn_ne_nil (s : String) : splitOn sep s ≠ [] := by
  simpa [splitOn] using splitList_ne_nil s.toList

theorem eq_of_splitOn_eq_singleton {s part : String} (h : splitOn sep s = [part]) : part = s := by
  obtain ⟨cs, hcs, rfl⟩ := List.map_eq_singleton_iff.mp h
  rw [eq_of_splitList_eq_singleton hcs, String.ofList_toList]

theorem splitOn_of_notMem {s : String} (h : sep ∉ s.toList) : splitOn sep s = [s] := by
  have hlist : ∀ cs : List Char, sep ∉ cs → splitList sep cs = [cs] := by
    intro cs hcs
    induction cs with
    | nil => rfl
    | cons c cs ih =>
      rw [List.mem_cons, not_or] at hcs
      rw [splitList, if_neg (Ne.symm hcs.1), ih hcs.2]
  rw [splitOn, hlist _ h, List.map_singleton, String.ofList_toList]

theorem append_cons_inj_of_notMem_left {as as' bs bs' : List Char} (h : sep ∉ as) (h' : sep ∉ as')
    (heq : as ++ sep :: bs = as' ++ sep :: bs') : as = as' ∧ bs = bs' := by
  induction as generalizing as' with
  | nil =>
    cases as' with
    | nil => simpa using heq
    | cons a' as' =>
      rw [List.nil_append, List.cons_append, List.cons.injEq] at heq
      exact absurd (heq.1 ▸ List.mem_cons_self) h'
  | cons a as ih =>
    cases as' with
    | nil =>
      rw [List.nil_append, List.cons_append, List.cons.injEq] at heq
      exact absurd (heq.1 ▸ List.mem_cons_self) h
    | cons a' as' =>
      simp only [List.cons_append, List.cons.injEq] at heq
      simp only [List.mem_cons, not_or] at h h'
      obtain ⟨hhead, htail⟩ := ih h.2 h'.2 heq.2
      exact ⟨by rw [heq.1, hhead], htail⟩

theorem append_cons_inj_of_notMem_right {as as' bs bs' : List Char} (h : sep ∉ bs) (h' : sep ∉ bs')
    (heq : as ++ sep :: bs = as' ++ sep :: bs') : as = as' ∧ bs = bs' := by
  have hreverse := congrArg List.reverse heq
  simp only [List.reverse_append, List.reverse_cons, List.append_assoc, List.singleton_append]
    at hreverse
  obtain ⟨hback, hfront⟩ := append_cons_inj_of_notMem_left (by simpa using h) (by simpa using h')
    hreverse
  exact ⟨List.reverse_inj.mp hfront, List.reverse_inj.mp hback⟩

end split

def hasPrefix (s pre : String) : Bool := pre.toList.isPrefixOf s.toList

theorem hasPrefix_append_self (pre t : String) : hasPrefix (pre ++ t) pre = true := by
  rw [hasPrefix, String.toList_append, List.isPrefixOf_iff_prefix]
  exact List.prefix_append _ _

theorem hasPrefix_append_eq_false {s pre : String} (t : String) (hs : s.toList ≠ [])
    (hpre : pre.toList ≠ []) (hne : s.toList.head? ≠ pre.toList.head?) :
    hasPrefix (s ++ t) pre = false := by
  rw [hasPrefix, String.toList_append]
  cases hcs : s.toList with
  | nil => exact absurd hcs hs
  | cons c cs =>
    cases hps : pre.toList with
    | nil => exact absurd hps hpre
    | cons p ps =>
      have hpc : p ≠ c := by
        rintro rfl
        exact hne (by rw [hcs, hps]; rfl)
      simp [List.isPrefixOf, hpc]

end Kit
