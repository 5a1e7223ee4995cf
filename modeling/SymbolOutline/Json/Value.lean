/-!
# JSON values

`Json` is a JSON text without its layout. Members of an object keep their
order, and a key may occur twice.
-/

namespace SymbolOutline

inductive Json.Number where
  /-- A number written without fraction and exponent that fits 64 bits. -/
  | integer (value : Int)
  /-- Any other number: `significand * 10 ^ exponent`, up to rounding. -/
  | real (significand exponent : Int)
  deriving DecidableEq, Repr

inductive Json where
  | null
  | bool (b : Bool)
  | number (n : Json.Number)
  | string (s : String)
  | array (items : List Json)
  | object (members : List (String × Json))
  deriving Repr, Inhabited

namespace Json

mutual

/-- The number of brackets that enclose the innermost place of a value. -/
def depth : Json → Nat
  | null | bool _ | number _ | string _ => 0
  | array items => 1 + depthItems items
  | object members => 1 + depthMembers members

def depthItems : List Json → Nat
  | [] => 0
  | item :: rest => max (depth item) (depthItems rest)

def depthMembers : List (String × Json) → Nat
  | [] => 0
  | (_, value) :: rest => max (depth value) (depthMembers rest)

end

end Json

end SymbolOutline
