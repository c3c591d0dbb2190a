import VWorkspaceOperator.Kit.JsonEncode

/-!
# Writing JSON numbers and objects

`json.Marshal` of integers, and an object that is written member by member, without blanks.
Reading the bytes of what was written gives the members back, in their order.
-/

namespace Kit

def encodeInt : ℤ → List Char
  | .ofNat n => Nat.toDigits 10 n
  | .negSucc n => '-' :: Nat.toDigits 10 (n + 1)

def encodeMember (m : String × List Char) : List Char := encodeString m.1 ++ ':' :: m.2

def encodeMembers : List (String × List Char) → List Char
  | [] => []
  | [m] => encodeMember m
  | m :: ms => encodeMember m ++ ',' :: encodeMembers ms

def encodeObject (ms : List (String × List Char)) : List Char := '\x7b' :: encodeMembers ms ++ ['\x7d']

/-- What follows a value in an object: a comma, or the brace. -/
def Closes (rest : Bytes) : Prop := rest.head? = some 0x2C ∨ rest.head? = some 0x7D

def Written (text : List Char) (v : Json) : Prop :=
  ∀ n depth rest, Closes rest → parseValue (n + 1) depth (utf8 text ++ rest) = some (v, rest)

theorem written_encodeString (s : String) : Written (encodeString s) (.str s) :=
  fun n depth rest _ => parseValue_encodeString n depth s rest

theorem exists_byte_of_isDigit {c : Char} (h : c.isDigit = true) :
    ∃ b, String.utf8EncodeChar c = [b] ∧ isDigit b = true ∧ asciiChar b = c := by
  have hall : ∀ d : Fin 10, String.utf8EncodeChar (Char.ofNat (48 + d)) = [UInt8.ofNat (48 + d)] ∧
      isDigit (UInt8.ofNat (48 + d)) = true ∧
      asciiChar (UInt8.ofNat (48 + d)) = Char.ofNat (48 + d) := by decide
  have hrange : 48 ≤ c.toNat ∧ c.toNat ≤ 57 := by
    simp only [Char.isDigit, ge_iff_le, Bool.and_eq_true, decide_eq_true_eq] at h
    exact ⟨h.1, h.2⟩
  have hc : Char.ofNat (48 + (c.toNat - 48)) = c := by
    rw [Nat.add_sub_cancel' hrange.1, Char.ofNat_toNat]
  have hdigit := hall ⟨c.toNat - 48, by omega⟩
  simp only [hc] at hdigit
  exact ⟨_, hdigit⟩

theorem exists_bytes_of_isDigit {ds : List Char} (h : ∀ c ∈ ds, c.isDigit = true) :
    ∃ bs, utf8 ds = bs ∧ (∀ b ∈ bs, isDigit b = true) ∧ bs.map asciiChar = ds := by
  induction ds with
  | nil => exact ⟨[], rfl, by simp, rfl⟩
  | cons c ds ih =>
    obtain ⟨b, hb, hdigit, hchar⟩ := exists_byte_of_isDigit (h c List.mem_cons_self)
    obtain ⟨bs, hbs, hdigits, hchars⟩ := ih fun c hc => h c (List.mem_cons_of_mem _ hc)
    refine ⟨b :: bs, by rw [utf8_cons, hb, hbs]; rfl, ?_, by rw [List.map_cons, hchar, hchars]⟩
    exact List.forall_mem_cons.mpr ⟨hdigit, hdigits⟩

theorem Closes.number {rest : Bytes} (h : Closes rest) :
    rest.takeWhile isDigit = [] ∧ rest.dropWhile isDigit = rest ∧ fracPart rest = some ([], rest) ∧
      expPart rest = some ([], rest) := by
  cases rest with
  | nil => exact absurd h (by simp [Closes])
  | cons b rest =>
    have hb : b = 0x2C ∨ b = 0x7D := by simpa [Closes] using h
    rcases hb with rfl | rfl
    · exact ⟨rfl, rfl, rfl, rfl⟩
    · exact ⟨rfl, rfl, rfl, rfl⟩

theorem someDigits_append {bs rest : Bytes} (hne : bs ≠ []) (hbs : ∀ b ∈ bs, isDigit b = true)
    (hrest : Closes rest) : someDigits (bs ++ rest) = some (bs, rest) := by
  obtain ⟨htake, hdrop, -⟩ := hrest.number
  have hspan : (bs ++ rest).span isDigit = (bs, rest) := by
    rw [List.span_eq_takeWhile_dropWhile, List.takeWhile_append_of_pos hbs,
      List.dropWhile_append_of_pos hbs, htake, hdrop, List.append_nil]
  rw [someDigits, hspan]
  cases bs with
  | nil => exact absurd rfl hne
  | cons b bs => rfl

theorem head?_toDigits_ne {n : ℕ} (h : 0 < n) : (Nat.toDigits 10 n).head? ≠ some '0' := by
  induction n using Nat.strongRecOn with
  | ind n ih =>
    rw [Nat.toDigits_eq_if (by decide)]
    split
    · simp only [List.head?_cons, ne_eq, Option.some.injEq, Nat.digitChar_eq_zero]
      omega
    · next hge =>
      have htens := ih (n / 10) (by omega) (by omega)
      rw [List.head?_append_of_ne_nil _ Nat.toDigits_ne_nil]
      exact htens

theorem unsignedNumber_toDigits (n : ℕ) {rest : Bytes} (hrest : Closes rest) :
    ∃ bs, utf8 (Nat.toDigits 10 n) = bs ∧ bs.map asciiChar = Nat.toDigits 10 n ∧ bs ≠ [] ∧
      (∀ b ∈ bs, isDigit b = true) ∧ unsignedNumber (bs ++ rest) = some (bs, rest) := by
  have hdigit : ∀ c ∈ Nat.toDigits 10 n, c.isDigit = true := fun c =>
    Nat.isDigit_of_mem_toDigits (by decide) (by decide)
  obtain ⟨bs, hbs, hdigits, hchars⟩ := exists_bytes_of_isDigit hdigit
  have hne : bs ≠ [] := by
    rintro rfl
    exact Nat.toDigits_ne_nil hchars.symm
  obtain ⟨-, -, hfrac, hexp⟩ := hrest.number
  have hint : intPart (bs ++ rest) = some (bs, rest) := by
    rcases Nat.eq_zero_or_pos n with rfl | hpos
    · obtain rfl : [0x30] = bs := by
        rw [← hbs]
        rfl
      rfl
    · have hhead := head?_toDigits_ne hpos
      rw [← someDigits_append hne hdigits hrest]
      cases bs with
      | nil => exact absurd rfl hne
      | cons b bs =>
        have hb : b ≠ 0x30 := by
          rintro rfl
          rw [← hchars] at hhead
          exact hhead rfl
        rw [List.cons_append, intPart]
        rintro rest' heq
        exact absurd (List.cons.inj heq).1 hb
  refine ⟨bs, hbs, hchars, hne, hdigits, ?_⟩
  simp only [unsignedNumber, hint, hfrac, hexp, Option.bind_eq_bind, Option.bind_some,
    List.append_nil]

theorem parseValue_number {n depth : ℕ} {b : UInt8} {bs rest : Bytes} {lit : String}
    (hb : isDigit b = true ∨ b = 0x2D)
    (h : parseNumber (b :: bs) = some (lit, rest)) :
    parseValue (n + 1) depth (b :: bs) = some (.num lit, rest) := by
  have hbyte : isJsonSpace b = false ∧ (b == 0x7B) = false ∧ (b == 0x5B) = false ∧
      (b == 0x22) = false ∧ (b == 0x74) = false ∧ (b == 0x66) = false ∧ (b == 0x6E) = false := by
    rcases hb with hb | rfl
    · have hrange : 48 ≤ b.toNat ∧ b.toNat ≤ 57 := by
        simp only [isDigit, Bool.and_eq_true, decide_eq_true_eq] at hb
        exact ⟨UInt8.le_iff_toNat_le.mp hb.1, UInt8.le_iff_toNat_le.mp hb.2⟩
      have hall : ∀ d : Fin 10, isJsonSpace (UInt8.ofNat (48 + d)) = false ∧
          (UInt8.ofNat (48 + d) == 0x7B) = false ∧ (UInt8.ofNat (48 + d) == 0x5B) = false ∧
          (UInt8.ofNat (48 + d) == 0x22) = false ∧ (UInt8.ofNat (48 + d) == 0x74) = false ∧
          (UInt8.ofNat (48 + d) == 0x66) = false ∧ (UInt8.ofNat (48 + d) == 0x6E) = false := by decide
      have hb' : UInt8.ofNat (48 + (b.toNat - 48)) = b := by
        rw [Nat.add_sub_cancel' hrange.1, UInt8.ofNat_toNat]
      have hdigit := hall ⟨b.toNat - 48, by omega⟩
      simp only [hb'] at hdigit
      exact hdigit
    · decide
  have hskip : skipSpace (b :: bs) = b :: bs := by
    rw [skipSpace, List.dropWhile_cons, if_neg (by simp [hbyte.1])]
  rw [parseValue, hskip]
  simp only [hbyte, Bool.false_eq_true, if_false, h, Option.map_some]

theorem written_encodeInt (i : ℤ) : Written (encodeInt i) (.num (String.ofList (encodeInt i))) := by
  intro n depth rest hrest
  cases i with
  | ofNat m =>
    obtain ⟨bs, hbs, hchars, hne, hdigits, hnumber⟩ := unsignedNumber_toDigits m hrest
    rw [encodeInt, hbs]
    cases bs with
    | nil => exact absurd rfl hne
    | cons b bs =>
      have hsign : b ≠ 0x2D := by
        rintro rfl
        exact absurd (hdigits _ List.mem_cons_self) (by decide)
      rw [List.cons_append] at hnumber ⊢
      refine parseValue_number (.inl (hdigits _ List.mem_cons_self)) ?_
      rw [parseNumber]
      · rw [hnumber, ← hchars]
        rfl
      · exact fun rest' heq => hsign (List.cons.inj heq).1
  | negSucc m =>
    obtain ⟨bs, hbs, hchars, -, -, hnumber⟩ := unsignedNumber_toDigits (m + 1) hrest
    have hsign : String.utf8EncodeChar '-' = [0x2D] := by decide
    rw [encodeInt, utf8_cons, hbs, hsign, List.append_assoc, List.singleton_append]
    refine parseValue_number (.inr rfl) ?_
    rw [parseNumber, hnumber, ← hchars]
    rfl

theorem digitsValue_toDigits (n : ℕ) : digitsValue (Nat.toDigits 10 n) = some n := by
  have hfold : ∀ (ds : List Char) (a : ℕ), (∀ c ∈ ds, c.isDigit = true) →
      ds.foldl (fun acc c => if c.isDigit then acc.map fun n => n * 10 + (c.toNat - '0'.toNat)
        else none) (some a) = some (Nat.ofDigitChars 10 ds a) := by
    intro ds
    induction ds with
    | nil => exact fun a _ => rfl
    | cons c ds ih =>
      intro a h
      rw [List.foldl_cons, if_pos (h c List.mem_cons_self), Option.map_some,
        ih _ fun c hc => h c (List.mem_cons_of_mem _ hc), Nat.ofDigitChars_eq_foldl,
        Nat.ofDigitChars_eq_foldl, List.foldl_cons, Nat.mul_comm]
  rw [digitsValue, if_neg Nat.toDigits_ne_nil, hfold _ _ fun c =>
    Nat.isDigit_of_mem_toDigits (by decide) (by decide), Nat.ofDigitChars_ten_toDigits]

theorem literalInt_encodeInt (i : ℤ) : literalInt (String.ofList (encodeInt i)) = some i := by
  rw [literalInt, String.toList_ofList]
  cases i with
  | ofNat n =>
    rw [encodeInt]
    split
    · next ds heq =>
      have hsign : '-' ∈ Nat.toDigits 10 n := heq ▸ List.mem_cons_self
      exact absurd (Nat.isDigit_of_mem_toDigits (by decide) (by decide) hsign) (by decide)
    · rw [digitsValue_toDigits]
      rfl
  | negSucc n =>
    simp only [encodeInt, digitsValue_toDigits]
    rfl

theorem decodeInt_encodeInt {bits : ℕ} {i : ℤ} (goType : String) (cur : ℤ)
    (h : -(2 ^ (bits - 1) : ℤ) ≤ i ∧ i < 2 ^ (bits - 1)) :
    decodeInt bits goType (.num (String.ofList (encodeInt i))) cur = .ok i := by
  rw [decodeInt, literalInt_encodeInt]
  exact if_pos h

abbrev WrittenMembers (ms : List (String × List Char)) (fs : Fields) : Prop :=
  List.Forall₂ (fun m f => m.1 = f.1 ∧ Written m.2 f.2) ms fs

theorem utf8_encodeMember (m : String × List Char) :
    utf8 (encodeMember m) =
      0x22 :: (m.1.toList.flatMap runeBytes ++ 0x22 :: 0x3A :: utf8 m.2) := by
  have hcolon : utf8 [':'] = [0x3A] := by decide
  change utf8 (encodeString m.1 ++ ([':'] ++ m.2)) = _
  rw [utf8_append, utf8_append, hcolon, utf8_encodeString, List.cons_append, List.append_assoc]
  rfl

theorem parseMembers_encodeMember {n depth : ℕ} {m : String × List Char} {v : Json} {rest : Bytes}
    (hm : Written m.2 v) (hrest : Closes rest) :
    parseMembers (n + 1 + 1) depth (utf8 (encodeMember m) ++ rest) =
      match skipSpace rest with
      | 0x2C :: rest' => (parseMembers (n + 1) depth rest').map fun (ms, rest) => ((m.1, v) :: ms, rest)
      | 0x7D :: rest' => some ([(m.1, v)], rest')
      | _ => none := by
  rw [utf8_encodeMember, List.cons_append, List.append_assoc, List.cons_append, List.cons_append]
  have hquote : skipSpace (0x22 :: (m.1.toList.flatMap runeBytes ++
      0x22 :: 0x3A :: (utf8 m.2 ++ rest))) =
      0x22 :: (m.1.toList.flatMap runeBytes ++ 0x22 :: 0x3A :: (utf8 m.2 ++ rest)) := rfl
  have hcolon : skipSpace (0x3A :: (utf8 m.2 ++ rest)) = 0x3A :: (utf8 m.2 ++ rest) := rfl
  rw [parseMembers, hquote]
  simp only [parseString_flatMap, hcolon]
  rewrite [hm n depth rest hrest]
  rfl

theorem parseMembers_encodeMembers {n depth : ℕ} {ms : List (String × List Char)} {fs : Fields}
    (h : WrittenMembers ms fs) (hne : ms ≠ []) (hn : ms.length < n) (rest : Bytes) :
    parseMembers n depth (utf8 (encodeMembers ms) ++ 0x7D :: rest) = some (fs, rest) := by
  induction h generalizing n with
  | nil => exact absurd rfl hne
  | @cons m f ms fs hm hms ih =>
    obtain ⟨k, v⟩ := f
    obtain ⟨rfl, hv⟩ : m.1 = k ∧ Written m.2 v := hm
    rw [List.length_cons] at hn
    obtain ⟨n, rfl⟩ : ∃ n', n = n' + 1 + 1 := ⟨n - 2, by omega⟩
    cases hms with
    | nil =>
      rw [encodeMembers, parseMembers_encodeMember hv (.inr rfl)]
      rfl
    | @cons m' f' ms fs hm' hms =>
      have hcomma : utf8 [','] = [0x2C] := by decide
      have htext : utf8 (encodeMembers (m :: m' :: ms)) =
          utf8 (encodeMember m) ++ 0x2C :: utf8 (encodeMembers (m' :: ms)) := by
        change utf8 (encodeMember m ++ ([','] ++ encodeMembers (m' :: ms))) = _
        rw [utf8_append, utf8_append, hcomma]
        rfl
      rw [htext, List.append_assoc, List.cons_append, parseMembers_encodeMember hv (.inl rfl)]
      change (parseMembers (n + 1) depth (utf8 (encodeMembers (m' :: ms)) ++ 0x7D :: rest)).map _ = _
      rw [ih (by simp) (by rw [List.length_cons] at hn ⊢; omega)]
      rfl

theorem length_le_length_encodeMembers (ms : List (String × List Char)) :
    ms.length ≤ (utf8 (encodeMembers ms)).length := by
  induction ms with
  | nil => simp
  | cons m ms ih =>
    have hmember := congrArg List.length (utf8_encodeMember m)
    simp only [List.length_cons, List.length_append] at hmember
    cases ms with
    | nil =>
      rw [encodeMembers, hmember, List.length_singleton]
      omega
    | cons m' ms =>
      rw [encodeMembers, utf8_append, List.length_append, utf8_cons, List.length_append, hmember]
      · rw [List.length_cons]
        omega
      · simp

theorem parseJson_encodeObject {ms : List (String × List Char)} {fs : Fields}
    (h : WrittenMembers ms fs) (hne : ms ≠ []) :
    parseJson (utf8 (encodeObject ms)) = some (.obj fs) := by
  have hbytes : utf8 (encodeObject ms) = 0x7B :: (utf8 (encodeMembers ms) ++ [0x7D]) := by
    have hopen : utf8 ['\x7b'] = [0x7B] := by decide
    have hclose : utf8 ['\x7d'] = [0x7D] := by decide
    change utf8 (['\x7b'] ++ encodeMembers ms ++ ['\x7d']) = _
    rw [utf8_append, utf8_append, hopen, hclose]
    rfl
  obtain ⟨bs, hbs⟩ : ∃ bs, utf8 (encodeMembers ms) = 0x22 :: bs := by
    cases ms with
    | nil => exact absurd rfl hne
    | cons m ms =>
      have hmember := utf8_encodeMember m
      cases ms with
      | nil => exact ⟨_, hmember⟩
      | cons m' ms =>
        rw [encodeMembers, utf8_append, hmember, List.cons_append]
        · exact ⟨_, rfl⟩
        · simp
  have hfuel := length_le_length_encodeMembers ms
  have hvalue : ∀ n, ms.length < n →
      parseValue (n + 1) 0 (0x7B :: (utf8 (encodeMembers ms) ++ [0x7D])) = some (.obj fs, []) := by
    intro n hn
    have hmembers : parseMembers n 1 (utf8 (encodeMembers ms) ++ [0x7D]) = some (fs, []) :=
      parseMembers_encodeMembers h hne hn []
    rw [hbs] at hmembers ⊢
    change Option.map _ (parseMembers n 1 (0x22 :: bs ++ [0x7D])) = _
    rw [hmembers]
    rfl
  rw [parseJson, hbytes, hvalue _ (by simp only [List.length_cons, List.length_append]; omega)]
  rfl

example : String.ofList (encodeObject [("a", encodeInt (-12)), ("b", encodeString "c")]) =
    "\x7b\"a\":-12,\"b\":\"c\"\x7d" := by decide +kernel

end Kit
