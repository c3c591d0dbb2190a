import Mathlib.Algebra.Order.Ring.Int
import Mathlib.Algebra.Order.Ring.Nat
import VWorkspaceOperator.Kit.Json

/-!
# JSON numbers

A number is written as a decimal and kept, by a decoder that knows no type for it, as a
`float64`: the nearest binary fraction with 53 digits, where ties go to the even one.  A number
beyond the largest of them cannot be decoded.  Written out again, a `float64` gets the least
number of digits that lead back to it.

## Main definitions

* `decimal`: the mantissa and the exponent of a literal.
* `float64`: the literal of the `float64` of a literal.
* `Json.outOfRange`, `Json.toFloats`: the same for all numbers of a document.
* `Json.Respelled`: the numbers of two documents are the same, however they are written.
-/

namespace Kit

/-- The number that digits stand for. -/
def digitsValue (ds : List Char) : Option Nat :=
  if ds = [] then none
  else ds.foldl (fun acc c =>
    if c.isDigit then acc.map fun n => n * 10 + (c.toNat - '0'.toNat) else none) (some 0)

/-- The mantissa and the exponent of a number literal. -/
def decimal (lit : String) : ℤ × ℤ :=
  let (negative, cs) := match lit.toList with
    | '-' :: cs => (true, cs)
    | cs => (false, cs)
  let (mantissa, exponent) := cs.span fun c => c ≠ 'e' && c ≠ 'E'
  let (whole, fraction) := mantissa.span fun c => c ≠ '.'
  let digits := (digitsValue (whole ++ fraction.drop 1)).getD 0
  let shift : ℤ := match exponent.drop 1 with
    | '-' :: ds => -((digitsValue ds).getD 0 : ℤ)
    | '+' :: ds => (digitsValue ds).getD 0
    | ds => (digitsValue ds).getD 0
  (if negative then -(digits : ℤ) else digits, shift - (fraction.drop 1).length)

/-- Two literals stand for the same number. -/
def sameNumber (lit lit' : String) : Bool :=
  let (m, e) := decimal lit
  let (m', e') := decimal lit'
  m * 10 ^ (e - e').toNat = m' * 10 ^ (e' - e).toNat

/-- The number of decimal digits. -/
def decimalLength (n : ℕ) : ℕ := (Nat.toDigits 10 n).length

/-- The fraction `a / b`, times a power. -/
def scaled (base : ℕ) (k : ℤ) (a b : ℕ) : ℕ × ℕ :=
  if 0 ≤ k then (a * base ^ k.toNat, b) else (a, b * base ^ (-k).toNat)

/-- The integer nearest to a fraction, the even one of two. -/
def divEven (a b : ℕ) : ℕ :=
  let q := a / b
  if 2 * (a % b) < b ∨ 2 * (a % b) = b ∧ q % 2 = 0 then q else q + 1

/-- The `float64` nearest to a positive fraction, as a mantissa and a power of two. -/
def nearestFloat (a b : ℕ) : Option (ℕ × ℤ) :=
  let top : ℤ := Nat.log2 a - Nat.log2 b
  let (c, d) := scaled 2 (-top) a b
  let top := if c < d then top - 1 else top
  let q := max (top - 52) (-1074)
  let (c, d) := scaled 2 (-q) a b
  let m := divEven c d
  let (m, q) := if m = 2 ^ 53 then (2 ^ 52, q + 1) else (m, q)
  if 971 < q then none else some (m, q)

/-- The shortest decimal that leads back to a `float64`, and of these the nearest. -/
def shortestDecimal (x : ℕ × ℤ) : ℕ × ℤ :=
  let (a, b) := scaled 2 x.2 x.1 1
  let p : ℤ := if b ≤ a then decimalLength (a / b) else 1 - decimalLength ((b - 1) / a)
  let ofLength (n : ℕ) : Option (ℕ × ℤ) :=
    let k := p - n
    let (c, d) := scaled 10 (-k) a b
    let near := if 2 * (c % d) ≤ d then [c / d, c / d + 1] else [c / d + 1, c / d]
    (near.find? fun m =>
      let (e, f) := scaled 10 k m 1
      nearestFloat e f = some x).map fun m => (m, k)
  (((List.range 17).findSome? fun n => ofLength (n + 1))).getD (0, 0)

/-- How `encoding/json` writes a positive decimal: with an exponent below 1e-6 and from 1e21. -/
def showDecimal (m : ℕ) (k : ℤ) : String :=
  let ds := ((Nat.toDigits 10 m).reverse.dropWhile (· = '0')).reverse
  let zeros (n : ℤ) := List.replicate n.toNat '0'
  let p : ℤ := decimalLength m + k
  String.ofList <|
    if p < -5 ∨ 21 < p then
      ds.take 1 ++ (if ds.length = 1 then [] else '.' :: ds.drop 1) ++
        'e' :: (if p ≤ 0 then '-' else '+') :: Nat.toDigits 10 (p - 1).natAbs
    else if p ≤ 0 then '0' :: '.' :: zeros (-p) ++ ds
    else if ds.length ≤ p then ds ++ zeros (p - ds.length)
    else ds.take p.toNat ++ '.' :: ds.drop p.toNat

/-- The `float64` of a literal, as it is written; none if it is out of range. -/
def float64 (lit : String) : Option String :=
  let (m, e) := decimal lit
  let sign := if lit.toList.head? = some '-' then "-" else ""
  let size := decimalLength m.natAbs + e
  if m = 0 ∨ size < -323 then some (sign ++ "0")
  else if 309 < size then none
  else
    let (a, b) := scaled 10 e m.natAbs 1
    (nearestFloat a b).map fun x =>
      if x.1 = 0 then sign ++ "0"
      else sign ++ showDecimal (shortestDecimal x).1 (shortestDecimal x).2

example : float64 "9007199254740993" = some "9007199254740992" := by decide +kernel
example : float64 "-1.50" = some "-1.5" := by decide +kernel
example : float64 "1e999" = none := by decide +kernel

mutual

/-- The number literals of a document, in their order. -/
def Json.numbers : Json → List String
  | .num lit => [lit]
  | .arr vs => numbersList vs
  | .obj fs => numbersFields fs
  | .null => []
  | .bool _ => []
  | .str _ => []
termination_by structural v => v

/-- The number literals of the elements of an array. -/
def numbersList : List Json → List String
  | [] => []
  | v :: vs => v.numbers ++ numbersList vs
termination_by structural vs => vs

/-- The number literals of the members of an object. -/
def numbersFields : Fields → List String
  | [] => []
  | (_, v) :: fs => v.numbers ++ numbersFields fs
termination_by structural fs => fs

end

mutual

/-- Write the numbers of a document in another way. -/
def Json.mapNum (f : String → String) : Json → Json
  | .num lit => .num (f lit)
  | .arr vs => .arr (mapNumList f vs)
  | .obj fs => .obj (mapNumFields f fs)
  | .null => .null
  | .bool b => .bool b
  | .str s => .str s
termination_by structural v => v

/-- Write the numbers of the elements of an array in another way. -/
def mapNumList (f : String → String) : List Json → List Json
  | [] => []
  | v :: vs => v.mapNum f :: mapNumList f vs
termination_by structural vs => vs

/-- Write the numbers of the members of an object in another way. -/
def mapNumFields (f : String → String) : Fields → Fields
  | [] => []
  | (k, v) :: fs => (k, v.mapNum f) :: mapNumFields f fs
termination_by structural fs => fs

end

/-- The first number of a document that no `float64` holds. -/
def Json.outOfRange (v : Json) : Option String :=
  v.numbers.find? fun lit => (float64 lit).isNone

/-- The literal of the `float64` of a literal that is in range. -/
def rounded (lit : String) : String := (float64 lit).getD lit

/-- A document with the numbers it has after decoding. -/
def Json.toFloats (v : Json) : Json := v.mapNum rounded

section mapNum

variable {f g : String → String}

theorem mapNumFields_eq_map (fs : Fields) :
    mapNumFields f fs = fs.map fun m => (m.1, m.2.mapNum f) := by
  induction fs with
  | nil => rfl
  | cons m fs ih => exact congrArg _ ih

theorem lookup_mapNumFields (k : String) (fs : Fields) :
    (mapNumFields f fs).lookup k = (fs.lookup k).map (Json.mapNum f) := by
  induction fs with
  | nil => rfl
  | cons m fs ih =>
    obtain ⟨k', v⟩ := m
    rw [mapNumFields, List.lookup_cons, List.lookup_cons, ih]
    cases k == k' <;> rfl

theorem mapNumFields_setField (k : String) (v : Json) (fs : Fields) :
    mapNumFields f (setField k v fs) = setField k (v.mapNum f) (mapNumFields f fs) := by
  induction fs with
  | nil => rfl
  | cons m fs ih =>
    obtain ⟨k', v'⟩ := m
    by_cases hk : k' = k
    · simp only [setField, mapNumFields, if_pos hk]
    · simp only [setField, mapNumFields, if_neg hk, ih]

theorem nested_mapNumFields (path : List String) (fs : Fields) :
    nested path (mapNumFields f fs) = (nested path fs).map (Json.mapNum f) := by
  induction path generalizing fs with
  | nil => rfl
  | cons k path ih =>
    unfold nested
    rw [lookup_mapNumFields]
    cases hv : fs.lookup k with
    | none => rfl
    | some v =>
      cases path with
      | nil => rfl
      | cons k' path => cases v <;> simp [Json.mapNum, ih]

mutual

theorem Json.mapNum_eq_mapNum_iff : ∀ v : Json,
    v.mapNum f = v.mapNum g ↔ ∀ lit ∈ v.numbers, f lit = g lit
  | .num lit => by simp [Json.mapNum, Json.numbers]
  | .arr vs => by
      rw [Json.mapNum, Json.mapNum, Json.arr.injEq]
      exact mapNumList_eq_mapNumList_iff vs
  | .obj fs => by
      rw [Json.mapNum, Json.mapNum, Json.obj.injEq]
      exact mapNumFields_eq_mapNumFields_iff fs
  | .null => by simp [Json.mapNum, Json.numbers]
  | .bool _ => by simp [Json.mapNum, Json.numbers]
  | .str _ => by simp [Json.mapNum, Json.numbers]
termination_by structural v => v

theorem mapNumList_eq_mapNumList_iff : ∀ vs : List Json,
    mapNumList f vs = mapNumList g vs ↔ ∀ lit ∈ numbersList vs, f lit = g lit
  | [] => by simp [mapNumList, numbersList]
  | v :: vs => by
      rw [mapNumList, mapNumList, List.cons.injEq, numbersList, List.forall_mem_append,
        Json.mapNum_eq_mapNum_iff v, mapNumList_eq_mapNumList_iff vs]
termination_by structural vs => vs

theorem mapNumFields_eq_mapNumFields_iff : ∀ fs : Fields,
    mapNumFields f fs = mapNumFields g fs ↔ ∀ lit ∈ numbersFields fs, f lit = g lit
  | [] => by simp [mapNumFields, numbersFields]
  | (k, v) :: fs => by
      rw [mapNumFields, mapNumFields, List.cons.injEq, Prod.mk.injEq, numbersFields,
        List.forall_mem_append, Json.mapNum_eq_mapNum_iff v, mapNumFields_eq_mapNumFields_iff fs]
      simp only [true_and]
termination_by structural fs => fs

end

end mapNum

/-- A document is another one with numbers written in another way, which stand for the same. -/
def Json.Respelled (v v' : Json) : Prop :=
  ∃ f, v' = v.mapNum f ∧ ∀ lit ∈ v.numbers, sameNumber lit (f lit) = true

theorem Json.respelled_mapNum_iff {f : String → String} {v : Json} :
    v.Respelled (v.mapNum f) ↔ ∀ lit ∈ v.numbers, sameNumber lit (f lit) = true := by
  constructor
  · rintro ⟨g, hg, hsame⟩ lit hlit
    rw [(mapNum_eq_mapNum_iff v).mp hg lit hlit]
    exact hsame lit hlit
  · exact fun h => ⟨f, rfl, h⟩

end Kit
