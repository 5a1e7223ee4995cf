import SymbolOutline.Json.Writer
import SymbolOutline.Symbol.Basic

/-!
# Symbols as JSON

The form in which servers send nested symbols. A symbol is an object with no
member for what it does not have.
-/

namespace SymbolOutline

namespace Json

def ofInt32 (i : Int32) : Json := .number (.integer i.toInt)

def ofUInt32 (n : UInt32) : Json := .number (.integer n.toNat)

/-- A member for a value that may be missing. -/
def member? {α : Type} (key : String) (encode : α → Json) (a : Option α) : List (String × Json) :=
  (a.map fun a => (key, encode a)).toList

end Json

def Position.toJson (p : Position) : Json :=
  .object [("line", .ofUInt32 p.line), ("character", .ofUInt32 p.character)]

def Range.toJson (r : Range) : Json :=
  .object [("start", r.start.toJson), ("end", r.stop.toJson)]

namespace Symbol

/-- The members of a symbol but for its children. -/
def members (s : Symbol) : List (String × Json) :=
  [("name", .string s.name)]
    ++ Json.member? "detail" .string s.detail
    ++ [("kind", .ofInt32 s.kind.ordinal)]
    ++ Json.member? "tags" (fun tags => .array (tags.map .ofInt32)) s.tags
    ++ Json.member? "deprecated" .bool s.deprecated
    ++ [("range", s.range.toJson), ("selectionRange", s.selectionRange.toJson)]

mutual

def toJson : Symbol → Json
  | s@⟨_, _, _, _, _, _, _, none⟩ => .object s.members
  | s@⟨_, _, _, _, _, _, _, some children⟩ =>
    .object (s.members ++ [("children", .array (toJsonAll children))])

def toJsonAll : List Symbol → List Json
  | [] => []
  | s :: rest => toJson s :: toJsonAll rest

end

/-- The text of a nested response. -/
def responseText (symbols : List Symbol) : List Char := Json.compact (.array (toJsonAll symbols))

end Symbol

end SymbolOutline
