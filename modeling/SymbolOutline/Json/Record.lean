import SymbolOutline.Json.Value

/-!
# Records in JSON

A record is an object with known keys, or an array of all its fields in order
(`Json.record?`). Fields are `required`, or `optional` and then missing or null.
-/

namespace SymbolOutline.Json

/-- The value of a key, if the object has it. A key that occurs twice has none. -/
def field? (key : String) (members : List (String × Json)) : Option (Option Json) :=
  match members.filter (·.1 = key) with
  | [] => some none
  | [(_, v)] => some (some v)
  | _ => none

/-- The fields of a record with the given keys. -/
def record? (keys : List String) : Json → Option (List (Option Json))
  | .object members => keys.mapM (field? · members)
  | .array items => if items.length = keys.length then some (items.map some) else none
  | _ => none

/-- A field that must be there. -/
def required {α : Type} (decode : Json → Option α) (v : Option Json) : Option α := v.bind decode

/-- A field that may be missing or null. -/
def optional {α : Type} (decode : Json → Option α) : Option Json → Option (Option α)
  | none | some .null => some none
  | some v => (decode v).map some

def string? : Json → Option String
  | .string s => some s
  | _ => none

def bool? : Json → Option Bool
  | .bool b => some b
  | _ => none

def int32? : Json → Option Int32
  | .number (.integer i) => if -Int.pow 2 31 ≤ i ∧ i < Int.pow 2 31 then some (Int32.ofInt i) else none
  | _ => none

def uint32? : Json → Option UInt32
  | .number (.integer i) =>
    if 0 ≤ i ∧ i < Int.pow 2 32 then some (UInt32.ofNat i.toNat) else none
  | _ => none

end SymbolOutline.Json
