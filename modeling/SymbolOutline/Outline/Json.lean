import SymbolOutline.Json.Record
import SymbolOutline.Outline.Basic
import SymbolOutline.Symbol.Json

/-!
# Outlines as JSON

An outline is the array of its entries; an entry is an object with its fields
in order, and no member for a detail it does not have. `Outline.ofJson?` reads
an outline back.
-/

namespace SymbolOutline

/-- The members of an entry around those of its detail and children. -/
def Entry.members (name : String) (kind : SymbolKind) (label : String) (weight : Int32)
    (detail : Option String) (line : UInt32) (children : List Json) : List (String × Json) :=
  [("name", .string name), ("kind", .ofInt32 kind.ordinal), ("label", .string label),
      ("weight", .ofInt32 weight)]
    ++ Json.member? "detail" .string detail
    ++ [("line", .ofUInt32 line), ("children", .array children)]

mutual

def Entry.toJson : Entry → Json
  | ⟨name, kind, label, weight, detail, line, children⟩ =>
    .object (Entry.members name kind label weight detail line (Entry.toJsonAll children))

def Entry.toJsonAll : List Entry → List Json
  | [] => []
  | e :: rest => Entry.toJson e :: Entry.toJsonAll rest

end

def Outline.toJson (outline : Outline) : Json := .array (Entry.toJsonAll outline.entries)

/-- The JSON text of an outline, with a final newline. -/
def Outline.jsonText (outline : Outline) : String :=
  String.ofList (Json.pretty 0 outline.toJson ++ ['\n'])

/-- An entry from its fields other than the children. -/
def Entry.ofFields? (fields : List (Option Json)) (children : List Entry) : Option Entry :=
  match fields with
  | [name, kind, label, weight, detail, line] => do
    let name ← Json.required Json.string? name
    let kind ← Json.required Json.int32? kind
    let label ← Json.required Json.string? label
    let weight ← Json.required Json.int32? weight
    let detail ← Json.optional Json.string? detail
    let line ← Json.required Json.uint32? line
    return { name, kind := ⟨kind⟩, label, weight, detail, line, children }
  | _ => none

/-- The keys of an entry other than `children`, which comes last. -/
def Entry.keys : List String := ["name", "kind", "label", "weight", "detail", "line"]

mutual

def Entry.ofJson? : Json → Option Entry
  | .object members => do
    let fields ← Entry.keys.mapM (Json.field? · members)
    let children ← Entry.childrenOf? members
    Entry.ofFields? fields children
  | _ => none

/-- The children among the members of an object. -/
def Entry.childrenOf? : List (String × Json) → Option (List Entry)
  | [] => none
  | (key, v) :: rest => if key = "children" then Entry.ofArray? v else Entry.childrenOf? rest

def Entry.ofArray? : Json → Option (List Entry)
  | .array items => Entry.ofItems? items
  | _ => none

def Entry.ofItems? : List Json → Option (List Entry)
  | [] => some []
  | v :: rest => do
    let e ← Entry.ofJson? v
    let rest ← Entry.ofItems? rest
    return e :: rest

end

def Outline.ofJson? (v : Json) : Option Outline := (Entry.ofArray? v).map Outline.mk

end SymbolOutline
