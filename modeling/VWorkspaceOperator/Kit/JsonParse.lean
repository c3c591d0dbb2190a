import VWorkspaceOperator.Kit.Json

/-!
# Reading JSON from bytes

The grammar of `encoding/json`, on bytes: insignificant blanks, literals,
numbers, strings with their escapes, arrays and objects, and the limit on the
nesting depth.  Invalid UTF-8 inside a string and lone surrogates become the
replacement character, one for each offending byte, as they do in Go.
-/

namespace Kit

abbrev Bytes := List UInt8

def bytesOf (s : String) : Bytes := s.toList.flatMap String.utf8EncodeChar

def lowerHexDigit (n : ℕ) : Char := if n < 10 then Char.ofNat (48 + n) else Char.ofNat (87 + n)

def hexEncode (bs : Bytes) : String :=
  String.ofList (bs.flatMap fun b => [lowerHexDigit (b.toNat / 16), lowerHexDigit (b.toNat % 16)])

theorem hexEncode_ne_empty {bs : Bytes} (h : bs ≠ []) : hexEncode bs ≠ "" := by
  intro hempty
  have hlist := congrArg String.toList hempty
  rw [hexEncode, String.toList_ofList] at hlist
  cases bs with
  | nil => exact h rfl
  | cons b bs => simp at hlist

theorem notMem_hexEncode {c : Char} (h : ∀ n < 16, lowerHexDigit n ≠ c) (bs : Bytes) :
    c ∉ (hexEncode bs).toList := by
  rw [hexEncode, String.toList_ofList, List.mem_flatMap]
  rintro ⟨b, -, hb⟩
  have hbyte : b.toNat < 256 := b.toNat_lt
  rcases List.mem_pair.mp hb with heq | heq
  · exact h _ (by omega) heq.symm
  · exact h _ (by omega) heq.symm

def replacementChar : Char := Char.ofNat 0xFFFD

def isJsonSpace (b : UInt8) : Bool := b == 0x20 || b == 0x09 || b == 0x0A || b == 0x0D

def skipSpace (bs : Bytes) : Bytes := bs.dropWhile isJsonSpace

def isDigit (b : UInt8) : Bool := 0x30 ≤ b && b ≤ 0x39

def asciiChar (b : UInt8) : Char := Char.ofNat b.toNat

/-- The digits at the front of the input, which must not be missing. -/
def someDigits (bs : Bytes) : Option (Bytes × Bytes) :=
  match bs.span isDigit with
  | ([], _) => none
  | (ds, rest) => some (ds, rest)

def intPart : Bytes → Option (Bytes × Bytes)
  | 0x30 :: rest => some ([0x30], rest)
  | bs => someDigits bs

/-- The fraction of a number, if the input goes on with one. -/
def fracPart : Bytes → Option (Bytes × Bytes)
  | 0x2E :: rest => (someDigits rest).map fun (ds, rest) => (0x2E :: ds, rest)
  | bs => some ([], bs)

/-- The exponent of a number, if the input goes on with one. -/
def expPart : Bytes → Option (Bytes × Bytes)
  | b :: rest =>
      if b == 0x65 || b == 0x45 then
        match rest with
        | s :: rest' =>
            if s == 0x2B || s == 0x2D then
              (someDigits rest').map fun (ds, rest) => (b :: s :: ds, rest)
            else (someDigits rest).map fun (ds, rest) => (b :: ds, rest)
        | [] => none
      else some ([], b :: rest)
  | [] => some ([], [])

def unsignedNumber (bs : Bytes) : Option (Bytes × Bytes) := do
  let (i, rest) ← intPart bs
  let (f, rest) ← fracPart rest
  let (e, rest) ← expPart rest
  some (i ++ f ++ e, rest)

def parseNumber (bs : Bytes) : Option (String × Bytes) :=
  let literal (ds : Bytes) : String := String.ofList (ds.map asciiChar)
  match bs with
  | 0x2D :: rest => (unsignedNumber rest).map fun (ds, rest) => (literal (0x2D :: ds), rest)
  | bs => (unsignedNumber bs).map fun (ds, rest) => (literal ds, rest)

def contByte (lo hi b : UInt8) : Bool := lo ≤ b && b ≤ hi

def contBits (b : UInt8) : Nat := b.toNat % 64

/-- `utf8.DecodeRune`: the first character of the input.  A byte that starts no
valid encoding counts as one replacement character. -/
def decodeRune : Bytes → Char × Bytes
  | [] => (replacementChar, [])
  | b0 :: rest =>
      if b0 < 0x80 then (asciiChar b0, rest)
      else if 0xC2 ≤ b0 && b0 ≤ 0xDF then
        match rest with
        | b1 :: rest1 =>
            if contByte 0x80 0xBF b1 then
              (Char.ofNat ((b0.toNat - 0xC0) * 64 + contBits b1), rest1)
            else (replacementChar, rest)
        | [] => (replacementChar, rest)
      else if 0xE0 ≤ b0 && b0 ≤ 0xEF then
        match rest with
        | b1 :: b2 :: rest2 =>
            if contByte (if b0 == 0xE0 then 0xA0 else 0x80) (if b0 == 0xED then 0x9F else 0xBF) b1
                && contByte 0x80 0xBF b2 then
              (Char.ofNat (((b0.toNat - 0xE0) * 64 + contBits b1) * 64 + contBits b2), rest2)
            else (replacementChar, rest)
        | _ => (replacementChar, rest)
      else if 0xF0 ≤ b0 && b0 ≤ 0xF4 then
        match rest with
        | b1 :: b2 :: b3 :: rest3 =>
            if contByte (if b0 == 0xF0 then 0x90 else 0x80) (if b0 == 0xF4 then 0x8F else 0xBF) b1
                && contByte 0x80 0xBF b2 && contByte 0x80 0xBF b3 then
              (Char.ofNat ((((b0.toNat - 0xF0) * 64 + contBits b1) * 64 + contBits b2) * 64
                + contBits b3), rest3)
            else (replacementChar, rest)
        | _ => (replacementChar, rest)
      else (replacementChar, rest)

/-- The characters of a byte string, as many as the first argument allows. -/
def decodeRunes : Nat → Bytes → List Char
  | 0, _ => []
  | _ + 1, [] => []
  | n + 1, b :: bs => (decodeRune (b :: bs)).1 :: decodeRunes n (decodeRune (b :: bs)).2

def textOf (raw : Bytes) : String := String.ofList (decodeRunes raw.length raw)

def hexDigit (b : UInt8) : Option Nat :=
  if 0x30 ≤ b && b ≤ 0x39 then some (b.toNat - 0x30)
  else if 0x61 ≤ b && b ≤ 0x66 then some (b.toNat - 0x61 + 10)
  else if 0x41 ≤ b && b ≤ 0x46 then some (b.toNat - 0x41 + 10)
  else none

def hex4 : Bytes → Option (Nat × Bytes)
  | a :: b :: c :: d :: rest => do
      let a ← hexDigit a
      let b ← hexDigit b
      let c ← hexDigit c
      let d ← hexDigit d
      some (((a * 16 + b) * 16 + c) * 16 + d, rest)
  | _ => none

/-- The character of a `\u` escape whose digits stand at the front of the
input.  A high surrogate takes the low surrogate of a following escape with it;
any other surrogate becomes the replacement character. -/
def unicodeEscape (bs : Bytes) : Option (Char × Bytes) := do
  let (u, rest) ← hex4 bs
  if 0xD800 ≤ u && u < 0xE000 then
    match rest with
    | 0x5C :: 0x75 :: rest' =>
        match hex4 rest' with
        | some (v, rest'') =>
            if u < 0xDC00 && 0xDC00 ≤ v && v < 0xE000 then
              some (Char.ofNat ((u - 0xD800) * 1024 + (v - 0xDC00) + 0x10000), rest'')
            else some (replacementChar, rest)
        | none => some (replacementChar, rest)
    | _ => some (replacementChar, rest)
  else some (Char.ofNat u, rest)

def parseEscape : Bytes → Option (Char × Bytes)
  | 0x22 :: rest => some ('"', rest)
  | 0x5C :: rest => some ('\\', rest)
  | 0x2F :: rest => some ('/', rest)
  | 0x62 :: rest => some (Char.ofNat 8, rest)
  | 0x66 :: rest => some (Char.ofNat 12, rest)
  | 0x6E :: rest => some ('\n', rest)
  | 0x72 :: rest => some ('\r', rest)
  | 0x74 :: rest => some ('\t', rest)
  | 0x75 :: rest => unicodeEscape rest
  | _ => none

def parseChars : Nat → Bytes → Option (List Char × Bytes)
  | 0, _ => none
  | _ + 1, [] => none
  | n + 1, b :: rest =>
      if b == 0x22 then some ([], rest)
      else if b < 0x20 then none
      else
        match (if b == 0x5C then parseEscape rest else some (decodeRune (b :: rest))) with
        | none => none
        | some (c, rest') => (parseChars n rest').map fun (cs, rest) => (c :: cs, rest)

def parseString (bs : Bytes) : Option (String × Bytes) :=
  (parseChars (bs.length + 1) bs).map fun (cs, rest) => (String.ofList cs, rest)

/-- `encoding/json` refuses documents nested deeper than this. -/
def maxNestingDepth : Nat := 10000

def stripLiteral : Bytes → Bytes → Option Bytes
  | [], bs => some bs
  | _ :: _, [] => none
  | l :: ls, b :: bs => if l == b then stripLiteral ls bs else none

mutual

/-- One value from the front of the input, inside `depth` open brackets. -/
def parseValue : Nat → Nat → Bytes → Option (Json × Bytes)
  | 0, _, _ => none
  | n + 1, depth, bs =>
      match skipSpace bs with
      | [] => none
      | b :: rest =>
          if b == 0x7B then
            if depth < maxNestingDepth then
              match skipSpace rest with
              | 0x7D :: rest' => some (.obj [], rest')
              | rest' => (parseMembers n (depth + 1) rest').map fun (ms, rest) => (.obj ms, rest)
            else none
          else if b == 0x5B then
            if depth < maxNestingDepth then
              match skipSpace rest with
              | 0x5D :: rest' => some (.arr [], rest')
              | rest' => (parseElems n (depth + 1) rest').map fun (vs, rest) => (.arr vs, rest)
            else none
          else if b == 0x22 then
            (parseString rest).map fun (s, rest) => (.str s, rest)
          else if b == 0x74 then
            (stripLiteral [0x72, 0x75, 0x65] rest).map fun rest => (.bool true, rest)
          else if b == 0x66 then
            (stripLiteral [0x61, 0x6C, 0x73, 0x65] rest).map fun rest => (.bool false, rest)
          else if b == 0x6E then
            (stripLiteral [0x75, 0x6C, 0x6C] rest).map fun rest => (.null, rest)
          else
            (parseNumber (b :: rest)).map fun (lit, rest) => (.num lit, rest)

/-- The elements of an array that is not empty, and its closing bracket. -/
def parseElems : Nat → Nat → Bytes → Option (List Json × Bytes)
  | 0, _, _ => none
  | n + 1, depth, bs =>
      match parseValue n depth bs with
      | none => none
      | some (v, rest) =>
          match skipSpace rest with
          | 0x2C :: rest' => (parseElems n depth rest').map fun (vs, rest) => (v :: vs, rest)
          | 0x5D :: rest' => some ([v], rest')
          | _ => none

/-- The members of an object that is not empty, and its closing brace. -/
def parseMembers : Nat → Nat → Bytes → Option (Fields × Bytes)
  | 0, _, _ => none
  | n + 1, depth, bs =>
      match skipSpace bs with
      | 0x22 :: rest =>
          match parseString rest with
          | none => none
          | some (k, rest) =>
              match skipSpace rest with
              | 0x3A :: rest =>
                  match parseValue n depth rest with
                  | none => none
                  | some (v, rest) =>
                      match skipSpace rest with
                      | 0x2C :: rest' =>
                          (parseMembers n depth rest').map fun (ms, rest) => ((k, v) :: ms, rest)
                      | 0x7D :: rest' => some ([(k, v)], rest')
                      | _ => none
              | _ => none
      | _ => none

end

/-- The document that makes up the whole input.  Every call of the parsers
either consumes a byte or is followed by one that does, so twice the length of
the input is fuel enough. -/
def parseJson (raw : Bytes) : Option Json :=
  match parseValue (2 * raw.length + 2) 0 raw with
  | some (v, rest) => if skipSpace rest = [] then some v else none
  | none => none

end Kit
