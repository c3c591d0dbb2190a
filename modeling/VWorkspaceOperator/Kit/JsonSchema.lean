import VWorkspaceOperator.Kit.JsonDecode

/-!
# JSON Schema

The part of JSON Schema that describes closed records, maps, arrays and the
plain types with a lower bound.  A validator sees a decoded document, in which a
key occurs once, and goes through the schema, not through the document, so its
recursion is structural.

Numbers are compared as the decimals they are written as, after decoding.

## Main definitions

* `Schema`: what a schema says of a value.
* `Schema.accepts`: the validator.
-/

namespace Kit

inductive Schema where
  /-- A text of at least so many characters. -/
  | string (minLength : ℕ)
  | boolean
  /-- An integer that is not below the minimum. -/
  | integer (minimum : ℤ)
  | array (items : Schema)
  /-- An object of any content. -/
  | anyObject
  /-- An object with members of any name, all of one schema. -/
  | mapOf (values : Schema)
  /-- An object that has the required members and no others than those named. -/
  | object (properties : List (String × Schema)) (required : List String)
  deriving Repr

/-- The integer a number literal stands for, if it stands for one. -/
def integral (lit : String) : Option ℤ :=
  let (mantissa, exponent) := decimal lit
  if 0 ≤ exponent then some (mantissa * 10 ^ exponent.toNat)
  else
    let scale : ℤ := 10 ^ (-exponent).toNat
    if mantissa % scale = 0 then some (mantissa / scale) else none

example : integral "-120" = some (-120) := by decide +kernel
example : integral "1.50e1" = some 15 := by decide +kernel
example : integral "1.5" = none := by decide +kernel

mutual

def Schema.accepts : Schema → Json → Bool
  | .string minLength, .str s => minLength ≤ s.length
  | .boolean, .bool _ => true
  | .integer minimum, .num lit =>
      match integral lit with
      | some i => minimum ≤ i
      | none => false
  | .array items, .arr vs => vs.all items.accepts
  | .anyObject, .obj _ => true
  | .mapOf values, .obj fs => fs.all fun f => values.accepts f.2
  | .object properties required, .obj fs =>
      required.all (fun k => (fs.lookup k).isSome) &&
        fs.all (fun f => f.1 ∈ properties.map Prod.fst) && acceptsProperties properties fs
  | _, _ => false
termination_by structural s => s

/-- The members that are there satisfy the schemas of their names. -/
def acceptsProperties : List (String × Schema) → Fields → Bool
  | [], _ => true
  | (k, s) :: properties, fs =>
      (match fs.lookup k with
        | some v => s.accepts v
        | none => true) && acceptsProperties properties fs
termination_by structural properties => properties

end

end Kit
