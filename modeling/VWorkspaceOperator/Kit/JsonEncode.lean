import VWorkspaceOperator.Kit.JsonDecode

/-!
# Writing JSON

`json.Marshal` of a list of strings, with the escapes Go writes: the quote, the
backslash and the control characters, the three characters that matter to HTML,
and the two line separators JavaScript does not take inside a string.  Reading
the bytes of what was written gives the strings back, whatever characters they
have.
-/

namespace Kit

variable {c : Char} (cs : List Char) (ss : List String)

/-- The characters with an escape of their own, and its letter. -/
def shortEscapes : List (Char × Char) :=
  [('"', '"'), ('\\', '\\'), (Char.ofNat 8, 'b'), (Char.ofNat 12, 'f'), ('\n', 'n'), ('\r', 'r'),
    ('\t', 't')]

def isEscaped (c : Char) : Bool :=
  c.toNat < 0x20 || c == '<' || c == '>' || c == '&' || c.toNat == 0x2028 || c.toNat == 0x2029

def hexChar (n : ℕ) : Char := if n < 10 then Char.ofNat (0x30 + n) else Char.ofNat (0x57 + n)

def hexChars (n : ℕ) : List Char :=
  [hexChar (n / 4096 % 16), hexChar (n / 256 % 16), hexChar (n / 16 % 16), hexChar (n % 16)]

def encodeRune (c : Char) : List Char :=
  match shortEscapes.lookup c with
  | some e => ['\\', e]
  | none => if isEscaped c then '\\' :: 'u' :: hexChars c.toNat else [c]

def encodeString (s : String) : List Char := '"' :: s.toList.flatMap encodeRune ++ ['"']

def encodeElems : List String → List Char
  | [] => []
  | [s] => encodeString s
  | s :: ss => encodeString s ++ ',' :: encodeElems ss

def marshalStrings (ss : List String) : String := String.ofList ('[' :: encodeElems ss ++ [']'])

def unmarshalStrings (raw : Bytes) : Except String (List String) :=
  match parseJson raw with
  | none => .error "invalid JSON input"
  | some doc =>
      (decodeStringSlice doc []).mapError fun m =>
        "json: cannot unmarshal " ++ m.value ++ " into Go value of type " ++ m.goType

theorem toNat_ofNat_of_lt {n : ℕ} (h : n < 256) : (UInt8.ofNat n).toNat = n := by
  rw [UInt8.toNat_ofNat']
  omega

theorem contByte_iff {lo hi b : UInt8} :
    contByte lo hi b = true ↔ lo.toNat ≤ b.toNat ∧ b.toNat ≤ hi.toNat := by
  simp [contByte, UInt8.le_iff_toNat_le]

theorem not_ascii {b : UInt8} (h : 0x80 ≤ b.toNat) : ¬b < 0x80 := by
  rw [UInt8.lt_iff_toNat_lt]
  exact Nat.not_lt.mpr h

theorem toNat_ite_beq {b b' x y : UInt8} {m : ℕ} (h : b.toNat = m) :
    (if b == b' then x else y).toNat = if m = b'.toNat then x.toNat else y.toNat := by
  have hiff : (b == b') = true ↔ m = b'.toNat := by
    rw [beq_iff_eq, ← UInt8.toNat_inj, h]
  by_cases hb : (b == b') = true
  · rw [if_pos hb, if_pos (hiff.mp hb)]
  · rw [if_neg hb, if_neg fun hm => hb (hiff.mpr hm)]

section runes

variable {n : ℕ} {b0 b1 b2 b3 : UInt8} (rest : Bytes)

theorem decodeRune_one (h0 : b0.toNat = n) (hn : n < 0x80) :
    decodeRune (b0 :: rest) = (Char.ofNat n, rest) := by
  have hascii : b0 < 0x80 := by
    rw [UInt8.lt_iff_toNat_lt, h0]
    exact hn
  simp only [decodeRune, if_pos hascii, asciiChar, h0]

theorem decodeRune_two (h0 : b0.toNat = n / 64 + 0xC0) (h1 : b1.toNat = n % 64 + 0x80)
    (hlow : 0x80 ≤ n) (hhigh : n < 0x800) :
    decodeRune (b0 :: b1 :: rest) = (Char.ofNat n, rest) := by
  have hlead : contByte 0xC2 0xDF b0 = true := by
    rw [contByte_iff, h0]
    simp only [UInt8.reduceToNat]
    omega
  have hcont : contByte 0x80 0xBF b1 = true := by
    rw [contByte_iff, h1]
    simp only [UInt8.reduceToNat]
    omega
  have hvalue : (b0.toNat - 0xC0) * 64 + contBits b1 = n := by
    rw [contBits, h0, h1]
    omega
  rw [contByte] at hlead
  simp only [decodeRune, if_neg (not_ascii (b := b0) (by omega)), if_pos hlead, if_pos hcont,
    hvalue]

theorem decodeRune_three (h0 : b0.toNat = n / 4096 + 0xE0) (h1 : b1.toNat = n / 64 % 64 + 0x80)
    (h2 : b2.toNat = n % 64 + 0x80) (hlow : 0x800 ≤ n) (hhigh : n < 0x10000)
    (hvalid : n < 0xD800 ∨ 0xDFFF < n) :
    decodeRune (b0 :: b1 :: b2 :: rest) = (Char.ofNat n, rest) := by
  have htwo : ¬contByte 0xC2 0xDF b0 = true := by
    rw [contByte_iff, h0]
    simp only [UInt8.reduceToNat]
    omega
  have hlead : contByte 0xE0 0xEF b0 = true := by
    rw [contByte_iff, h0]
    simp only [UInt8.reduceToNat]
    omega
  have hcont : (contByte (if b0 == 0xE0 then 0xA0 else 0x80) (if b0 == 0xED then 0x9F else 0xBF) b1
      && contByte 0x80 0xBF b2) = true := by
    rw [Bool.and_eq_true, contByte_iff, contByte_iff, h1, h2, toNat_ite_beq h0, toNat_ite_beq h0]
    simp only [UInt8.reduceToNat]
    split_ifs <;> omega
  have hvalue : ((b0.toNat - 0xE0) * 64 + contBits b1) * 64 + contBits b2 = n := by
    rw [contBits, contBits, h0, h1, h2]
    omega
  rw [contByte] at htwo hlead
  simp only [decodeRune, if_neg (not_ascii (b := b0) (by omega)), if_neg htwo, if_pos hlead,
    if_pos hcont, hvalue]

theorem decodeRune_four (h0 : b0.toNat = n / 262144 + 0xF0) (h1 : b1.toNat = n / 4096 % 64 + 0x80)
    (h2 : b2.toNat = n / 64 % 64 + 0x80) (h3 : b3.toNat = n % 64 + 0x80) (hlow : 0x10000 ≤ n)
    (hhigh : n < 0x110000) :
    decodeRune (b0 :: b1 :: b2 :: b3 :: rest) = (Char.ofNat n, rest) := by
  have htwo : ¬contByte 0xC2 0xDF b0 = true := by
    rw [contByte_iff, h0]
    simp only [UInt8.reduceToNat]
    omega
  have hthree : ¬contByte 0xE0 0xEF b0 = true := by
    rw [contByte_iff, h0]
    simp only [UInt8.reduceToNat]
    omega
  have hlead : contByte 0xF0 0xF4 b0 = true := by
    rw [contByte_iff, h0]
    simp only [UInt8.reduceToNat]
    omega
  have hcont : (contByte (if b0 == 0xF0 then 0x90 else 0x80) (if b0 == 0xF4 then 0x8F else 0xBF) b1
      && contByte 0x80 0xBF b2 && contByte 0x80 0xBF b3) = true := by
    rw [Bool.and_eq_true, Bool.and_eq_true, contByte_iff, contByte_iff, contByte_iff, h1, h2, h3,
      toNat_ite_beq h0, toNat_ite_beq h0]
    simp only [UInt8.reduceToNat]
    split_ifs <;> omega
  have hvalue : (((b0.toNat - 0xF0) * 64 + contBits b1) * 64 + contBits b2) * 64 + contBits b3 =
      n := by
    rw [contBits, contBits, contBits, h0, h1, h2, h3]
    omega
  rw [contByte] at htwo hthree hlead
  simp only [decodeRune, if_neg (not_ascii (b := b0) (by omega)), if_neg htwo, if_neg hthree,
    if_pos hlead, if_pos hcont, hvalue]

end runes

theorem toNat_valid (c : Char) : c.toNat < 0xD800 ∨ 0xDFFF < c.toNat ∧ c.toNat < 0x110000 :=
  c.valid

theorem decodeRune_utf8EncodeChar (c : Char) (rest : Bytes) :
    decodeRune (String.utf8EncodeChar c ++ rest) = (c, rest) := by
  have hvalid := toNat_valid c
  have hcode : c.val.toNat = c.toNat := rfl
  suffices h : decodeRune (String.utf8EncodeChar c ++ rest) = (Char.ofNat c.toNat, rest) by
    rwa [Char.ofNat_toNat] at h
  unfold String.utf8EncodeChar
  simp only [hcode]
  generalize c.toNat = n at hvalid
  split
  · refine decodeRune_one rest ?_ (by omega)
    exact toNat_ofNat_of_lt (by omega)
  · split
    · refine decodeRune_two rest ?_ ?_ (by omega) (by omega)
      · rw [toNat_ofNat_of_lt (by omega)]
        omega
      · exact toNat_ofNat_of_lt (by omega)
    · split
      · refine decodeRune_three rest ?_ ?_ ?_ (by omega) (by omega) (by omega)
        · rw [toNat_ofNat_of_lt (by omega)]
          omega
        · exact toNat_ofNat_of_lt (by omega)
        · exact toNat_ofNat_of_lt (by omega)
      · refine decodeRune_four rest ?_ ?_ ?_ ?_ (by omega) (by omega)
        · rw [toNat_ofNat_of_lt (by omega)]
          omega
        · exact toNat_ofNat_of_lt (by omega)
        · exact toNat_ofNat_of_lt (by omega)
        · exact toNat_ofNat_of_lt (by omega)

theorem exists_utf8EncodeChar_cons (hctl : 0x20 ≤ c.toNat) (hquote : c.toNat ≠ 0x22)
    (hback : c.toNat ≠ 0x5C) :
    ∃ b bs, String.utf8EncodeChar c = b :: bs ∧ (b == 0x22) = false ∧ ¬b < 0x20 ∧
      (b == 0x5C) = false := by
  have hcode : c.val.toNat = c.toNat := rfl
  have hvalid := toNat_valid c
  suffices h : ∃ b bs, String.utf8EncodeChar c = b :: bs ∧ b.toNat ≠ 0x22 ∧ 0x20 ≤ b.toNat ∧
      b.toNat ≠ 0x5C by
    obtain ⟨b, bs, hb, hb₁, hb₂, hb₃⟩ := h
    refine ⟨b, bs, hb, ?_, ?_, ?_⟩
    · exact beq_false_of_ne fun he => hb₁ (congrArg UInt8.toNat he)
    · rw [UInt8.lt_iff_toNat_lt]
      exact Nat.not_lt.mpr hb₂
    · exact beq_false_of_ne fun he => hb₃ (congrArg UInt8.toNat he)
  unfold String.utf8EncodeChar
  simp only [hcode]
  split
  · refine ⟨_, _, rfl, ?_⟩
    rw [toNat_ofNat_of_lt (by omega)]
    omega
  · split
    · refine ⟨_, _, rfl, ?_⟩
      rw [toNat_ofNat_of_lt (by omega)]
      omega
    · split
      · refine ⟨_, _, rfl, ?_⟩
        rw [toNat_ofNat_of_lt (by omega)]
        omega
      · refine ⟨_, _, rfl, ?_⟩
        rw [toNat_ofNat_of_lt (by omega)]
        omega

def utf8 (cs : List Char) : Bytes := cs.flatMap String.utf8EncodeChar

@[simp] theorem utf8_nil : utf8 [] = [] := rfl

theorem utf8_cons (c : Char) (cs : List Char) :
    utf8 (c :: cs) = String.utf8EncodeChar c ++ utf8 cs := rfl

@[simp] theorem utf8_append (cs' : List Char) : utf8 (cs ++ cs') = utf8 cs ++ utf8 cs' :=
  List.flatMap_append

theorem bytesOf_ofList : bytesOf (String.ofList cs) = utf8 cs := by
  rw [bytesOf, String.toList_ofList, utf8]

theorem exists_hexChar {d : ℕ} (h : d < 16) :
    ∃ b, String.utf8EncodeChar (hexChar d) = [b] ∧ hexDigit b = some d := by
  have hall : ∀ d : Fin 16,
      String.utf8EncodeChar (hexChar d) = [UInt8.ofNat (hexChar d).toNat] ∧
        hexDigit (UInt8.ofNat (hexChar d).toNat) = some d.val := by decide
  exact ⟨_, hall ⟨d, h⟩⟩

theorem hex4_hexChars {n : ℕ} (h : n < 65536) (rest : Bytes) :
    hex4 (utf8 (hexChars n) ++ rest) = some (n, rest) := by
  obtain ⟨a, ha, ha'⟩ := exists_hexChar (d := n / 4096 % 16) (by omega)
  obtain ⟨b, hb, hb'⟩ := exists_hexChar (d := n / 256 % 16) (by omega)
  obtain ⟨c, hc, hc'⟩ := exists_hexChar (d := n / 16 % 16) (by omega)
  obtain ⟨d, hd, hd'⟩ := exists_hexChar (d := n % 16) (by omega)
  have hvalue : ((n / 4096 % 16 * 16 + n / 256 % 16) * 16 + n / 16 % 16) * 16 + n % 16 = n := by
    omega
  simp only [hexChars, utf8_cons, utf8_nil, ha, hb, hc, hd, List.append_nil, List.cons_append,
    List.nil_append, hex4, ha', hb', hc', hd', Option.bind_eq_bind, Option.bind_some, hvalue]

theorem parseEscape_hexChars (h : c.toNat < 0xD800) (rest : Bytes) :
    parseEscape (0x75 :: (utf8 (hexChars c.toNat) ++ rest)) = some (c, rest) := by
  have hsurrogate : (decide (0xD800 ≤ c.toNat) && decide (c.toNat < 0xE000)) = false := by
    simp only [Bool.and_eq_false_iff, decide_eq_false_iff_not]
    omega
  change unicodeEscape _ = _
  simp only [unicodeEscape, hex4_hexChars (n := c.toNat) (by omega), Option.bind_eq_bind,
    Option.bind_some, hsurrogate, Char.ofNat_toNat, Bool.false_eq_true, if_false]

theorem parseEscape_short {e : Char} (h : (c, e) ∈ shortEscapes) (rest : Bytes) :
    parseEscape (utf8 [e] ++ rest) = some (c, rest) := by
  simp only [shortEscapes, List.mem_cons, Prod.mk.injEq, List.not_mem_nil, or_false] at h
  rcases h with ⟨rfl, rfl⟩ | ⟨rfl, rfl⟩ | ⟨rfl, rfl⟩ | ⟨rfl, rfl⟩ | ⟨rfl, rfl⟩ | ⟨rfl, rfl⟩ |
    ⟨rfl, rfl⟩ <;> rfl

def runeBytes (c : Char) : Bytes := utf8 (encodeRune c)

theorem parseChars_escape {n : ℕ} {bs rest : Bytes} (h : parseEscape bs = some (c, rest)) :
    parseChars (n + 1) (0x5C :: bs) =
      (parseChars n rest).map fun (cs, rest) => (c :: cs, rest) := by
  have hquote : ((0x5C : UInt8) == 0x22) = false := by decide
  have hctl : ¬(0x5C : UInt8) < 0x20 := by decide
  rw [parseChars, if_neg (by simp [hquote]), if_neg hctl, if_pos (by decide), h]

theorem parseChars_runeBytes (n : ℕ) (c : Char) (rest : Bytes) :
    parseChars (n + 1) (runeBytes c ++ rest) =
      (parseChars n rest).map fun (cs, rest) => (c :: cs, rest) := by
  unfold runeBytes encodeRune
  cases hshort : shortEscapes.lookup c with
  | some e =>
    have hmem : (c, e) ∈ shortEscapes := by
      obtain ⟨l₁, l₂, hl, -⟩ := List.lookup_eq_some_iff.mp hshort
      rw [hl]
      exact List.mem_append_right _ List.mem_cons_self
    exact parseChars_escape (parseEscape_short hmem rest)
  | none =>
    by_cases hesc : isEscaped c = true
    · have hlow : c.toNat < 0xD800 := by
        simp only [isEscaped, Bool.or_eq_true, decide_eq_true_eq, beq_iff_eq] at hesc
        rcases hesc with ((((h | rfl) | rfl) | rfl) | h) | h
        · omega
        · decide
        · decide
        · decide
        · omega
        · omega
      simp only [hesc, if_true]
      exact parseChars_escape (parseEscape_hexChars hlow rest)
    · have hplain : 0x20 ≤ c.toNat := by
        simp only [isEscaped, Bool.or_eq_true, decide_eq_true_eq, not_or] at hesc
        omega
      have hquote : c.toNat ≠ 0x22 := fun h => by
        have : c = '"' := by rw [← Char.ofNat_toNat c, h]
        subst this
        simp [shortEscapes] at hshort
      have hback : c.toNat ≠ 0x5C := fun h => by
        have : c = '\\' := by rw [← Char.ofNat_toNat c, h]
        subst this
        simp [shortEscapes] at hshort
      obtain ⟨b, bs, hb, hb₁, hb₂, hb₃⟩ := exists_utf8EncodeChar_cons hplain hquote hback
      have hdecode := decodeRune_utf8EncodeChar c rest
      rw [hb] at hdecode
      simp only [hesc, Bool.false_eq_true, if_false, utf8_cons, utf8_nil, List.append_nil, hb,
        List.cons_append] at hdecode ⊢
      rw [parseChars]
      simp only [hb₁, hb₂, hb₃, Bool.false_eq_true, if_false, hdecode]

theorem runeBytes_ne_nil (c : Char) : runeBytes c ≠ [] := by
  have hne : ∀ c, String.utf8EncodeChar c ≠ [] := fun c h => by
    have := String.length_utf8EncodeChar c
    rw [h, List.length_nil] at this
    have := Char.utf8Size_pos c
    omega
  unfold runeBytes encodeRune
  split
  · simp [utf8_cons, hne]
  · split <;> simp [utf8_cons, hne]

theorem length_le_length_flatMap_runeBytes : cs.length ≤ (cs.flatMap runeBytes).length := by
  induction cs with
  | nil => simp
  | cons c cs ih =>
    have := List.length_pos_iff.mpr (runeBytes_ne_nil c)
    rw [List.flatMap_cons, List.length_append, List.length_cons]
    omega

theorem parseChars_flatMap {n : ℕ} (hn : cs.length < n) (rest : Bytes) :
    parseChars n (cs.flatMap runeBytes ++ 0x22 :: rest) = some (cs, rest) := by
  induction cs generalizing n with
  | nil =>
    obtain ⟨m, rfl⟩ : ∃ m, n = m + 1 := ⟨n - 1, by rw [List.length_nil] at hn; omega⟩
    rw [List.flatMap_nil, List.nil_append, parseChars, if_pos (by decide)]
  | cons c cs ih =>
    rw [List.length_cons] at hn
    obtain ⟨m, rfl⟩ : ∃ m, n = m + 1 := ⟨n - 1, by omega⟩
    rw [List.flatMap_cons, List.append_assoc, parseChars_runeBytes, ih (by omega)]
    rfl

theorem utf8_encodeString (s : String) :
    utf8 (encodeString s) = 0x22 :: (s.toList.flatMap runeBytes ++ [0x22]) := by
  have hquote : utf8 ['"'] = [0x22] := by decide
  have hbody : utf8 (s.toList.flatMap encodeRune) = s.toList.flatMap runeBytes :=
    List.flatMap_assoc
  calc utf8 (encodeString s) = utf8 (['"'] ++ s.toList.flatMap encodeRune ++ ['"']) := rfl
    _ = 0x22 :: (s.toList.flatMap runeBytes ++ [0x22]) := by
      rw [utf8_append, utf8_append, hquote, hbody]
      rfl

theorem parseString_flatMap (s : String) (rest : Bytes) :
    parseString (s.toList.flatMap runeBytes ++ 0x22 :: rest) = some (s, rest) := by
  have hlen := length_le_length_flatMap_runeBytes s.toList
  rw [parseString, parseChars_flatMap]
  · simp
  · rw [List.length_append]
    omega

theorem parseValue_encodeString (n depth : ℕ) (s : String) (rest : Bytes) :
    parseValue (n + 1) depth (utf8 (encodeString s) ++ rest) = some (.str s, rest) := by
  rw [utf8_encodeString, List.cons_append, List.append_assoc, List.singleton_append]
  change (parseString _).map _ = _
  rw [parseString_flatMap]
  rfl

theorem parseElems_encodeElems {n : ℕ} (depth : ℕ) {ss : List String} (hne : ss ≠ [])
    (hn : ss.length < n) (rest : Bytes) :
    parseElems n depth (utf8 (encodeElems ss) ++ 0x5D :: rest) = some (ss.map .str, rest) := by
  induction ss generalizing n with
  | nil => exact absurd rfl hne
  | cons s ss ih =>
    rw [List.length_cons] at hn
    obtain ⟨m, rfl⟩ : ∃ m, n = m + 1 + 1 := ⟨n - 2, by omega⟩
    cases ss with
    | nil =>
      rw [encodeElems, parseElems, parseValue_encodeString]
      rfl
    | cons s' ss =>
      have hcomma : utf8 [','] = [0x2C] := by decide
      have htext : utf8 (encodeElems (s :: s' :: ss)) =
          utf8 (encodeString s) ++ 0x2C :: utf8 (encodeElems (s' :: ss)) := by
        change utf8 (encodeString s ++ ([','] ++ encodeElems (s' :: ss))) = _
        rw [utf8_append, utf8_append, hcomma]
        rfl
      rw [htext, List.append_assoc, parseElems, parseValue_encodeString]
      change Option.map _ (parseElems (m + 1) depth
        (utf8 (encodeElems (s' :: ss)) ++ 0x5D :: rest)) = _
      rw [ih (by simp) (by omega)]
      rfl

theorem exists_encodeElems_cons (s : String) (ss : List String) :
    ∃ bs, utf8 (encodeElems (s :: ss)) = 0x22 :: bs := by
  have hstring := utf8_encodeString s
  cases ss with
  | nil => exact ⟨_, hstring⟩
  | cons s' ss =>
    rw [encodeElems, utf8_append, hstring, List.cons_append]
    · exact ⟨_, rfl⟩
    · simp

theorem length_le_length_encodeElems : ss.length ≤ (utf8 (encodeElems ss)).length := by
  induction ss with
  | nil => simp
  | cons s ss ih =>
    have hstring := congrArg List.length (utf8_encodeString s)
    simp only [List.length_cons, List.length_append, List.length_nil] at hstring
    cases ss with
    | nil =>
      rw [encodeElems, hstring]
      simp
    | cons s' ss =>
      rw [encodeElems, utf8_append, List.length_append, utf8_cons, List.length_append, hstring]
      · rw [List.length_cons]
        omega
      · simp

theorem parseJson_marshalStrings :
    parseJson (bytesOf (marshalStrings ss)) = some (.arr (ss.map .str)) := by
  have hbytes : bytesOf (marshalStrings ss) = 0x5B :: (utf8 (encodeElems ss) ++ [0x5D]) := by
    have hopen : utf8 ['['] = [0x5B] := by decide
    have hclose : utf8 [']'] = [0x5D] := by decide
    rw [marshalStrings, bytesOf_ofList]
    change utf8 (['['] ++ encodeElems ss ++ [']']) = _
    rw [utf8_append, utf8_append, hopen, hclose]
    rfl
  rw [hbytes, parseJson]
  cases ss with
  | nil => rfl
  | cons s ss =>
    obtain ⟨bs, hbs⟩ := exists_encodeElems_cons s ss
    have hfuel := length_le_length_encodeElems (s :: ss)
    have hvalue : ∀ n, (s :: ss).length < n →
        parseValue (n + 1) 0 (0x5B :: (utf8 (encodeElems (s :: ss)) ++ [0x5D])) =
          some (.arr ((s :: ss).map .str), []) := by
      intro n hn
      have helems := parseElems_encodeElems 1 (List.cons_ne_nil s ss) hn []
      rw [hbs] at helems ⊢
      change Option.map _ (parseElems n 1 (0x22 :: bs ++ [0x5D])) = _
      rw [helems]
      rfl
    rw [hvalue _ (by simp only [List.length_cons, List.length_append] at hfuel ⊢; omega)]
    rfl

theorem decodeStrings_map_str (cur : List String) : decodeStrings (ss.map .str) cur = .ok ss := by
  induction ss generalizing cur with
  | nil => rfl
  | cons s ss ih =>
    rw [List.map_cons, decodeStrings, decodeString, ih]
    rfl

theorem unmarshalStrings_marshalStrings :
    unmarshalStrings (bytesOf (marshalStrings ss)) = .ok ss := by
  rw [unmarshalStrings, parseJson_marshalStrings]
  simp only [decodeStringSlice, decodeStrings_map_str, Except.mapError]

example : marshalStrings ["a", "b<\n\u0001"] = "[\"a\",\"b\\u003c\\n\\u0001\"]" := by decide +kernel

end Kit
