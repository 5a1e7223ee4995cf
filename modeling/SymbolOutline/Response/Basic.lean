import SymbolOutline.Json.Reader
import SymbolOutline.Json.Record
import SymbolOutline.Symbol.Basic
import SymbolOutline.Url.Basic

/-!
# Responses of a language server

A server answers with a list of nested `Symbol`s or with a flat list of
`Information`, all items of one shape. `Response.ofJson?` tries the flat shape
first; `Response.symbols` forgets which one it was.

Records are written as objects or as arrays of all their fields in order.
-/

namespace SymbolOutline

/-- A symbol of a flat response, with the name of what contains it. -/
structure Information where
  name : String
  kind : SymbolKind
  tags : Option (List Int32)
  deprecated : Option Bool
  range : Range
  containerName : Option String
  deriving Repr

/-- The symbol, with its container as detail. -/
def Information.leaf (info : Information) : Symbol where
  name := info.name
  detail := info.containerName
  kind := info.kind
  tags := info.tags
  deprecated := info.deprecated
  range := info.range
  selectionRange := info.range
  children := none

inductive Response where
  | flat (items : List Information)
  | nested (symbols : List Symbol)

def Response.symbols : Response → List Symbol
  | flat items => items.map Information.leaf
  | nested symbols => symbols

namespace Response

open Json (record? required optional string? bool? int32? uint32?)

/-! ## Records -/

def kind? (v : Json) : Option SymbolKind := (int32? v).map SymbolKind.mk

def tags? : Json → Option (List Int32)
  | .array items => items.mapM int32?
  | _ => none

def position? (v : Json) : Option Position :=
  match record? ["line", "character"] v with
  | some [line, character] => do
    let line ← required uint32? line
    let character ← required uint32? character
    return { line, character }
  | _ => none

def range? (v : Json) : Option Range :=
  match record? ["start", "end"] v with
  | some [start, stop] => do
    let start ← required position? start
    let stop ← required position? stop
    return { start, stop }
  | _ => none

/-- An address that is absolute; nothing else of it matters. -/
def address? (v : Json) : Option Unit := do
  let address ← string? v
  guard (Url.isAbsolute address)

/-- The range of a location. -/
def location? (v : Json) : Option Range :=
  match record? ["uri", "range"] v with
  | some [uri, range] => do
    required address? uri
    required range? range
  | _ => none

def information? (v : Json) : Option Information :=
  match record? ["name", "kind", "tags", "deprecated", "location", "containerName"] v with
  | some [name, kind, tags, deprecated, location, containerName] => do
    let name ← required string? name
    let kind ← required kind? kind
    let tags ← optional tags? tags
    let deprecated ← optional bool? deprecated
    let range ← required location? location
    let containerName ← optional string? containerName
    return { name, kind, tags, deprecated, range, containerName }
  | _ => none

/-- A symbol from its fields other than the children. -/
def symbolWith? (fields : List (Option Json)) (children : Option (List Symbol)) : Option Symbol :=
  match fields with
  | [name, detail, kind, tags, deprecated, range, selectionRange] => do
    let name ← required string? name
    let detail ← optional string? detail
    let kind ← required kind? kind
    let tags ← optional tags? tags
    let deprecated ← optional bool? deprecated
    let range ← required range? range
    let selectionRange ← required range? selectionRange
    return { name, detail, kind, tags, deprecated, range, selectionRange, children }
  | _ => none

/-- The keys of a symbol other than `children`, which comes last. -/
def symbolKeys : List String :=
  ["name", "detail", "kind", "tags", "deprecated", "range", "selectionRange"]

mutual

def symbol? : Json → Option Symbol
  | .object members => do
    let fields ← symbolKeys.mapM (Json.field? · members)
    let children ← childrenField? members
    symbolWith? fields children
  | .array [name, detail, kind, tags, deprecated, range, selectionRange, children] => do
    let children ← children? children
    symbolWith? ([name, detail, kind, tags, deprecated, range, selectionRange].map some) children
  | _ => none

/-- The children among the members of an object. -/
def childrenField? : List (String × Json) → Option (Option (List Symbol))
  | [] => some none
  | (key, v) :: rest =>
    if key = "children" then
      if rest.any (·.1 = "children") then none else children? v
    else childrenField? rest

def children? : Json → Option (Option (List Symbol))
  | .null => some none
  | .array items => (symbols? items).map some
  | _ => none

def symbols? : List Json → Option (List Symbol)
  | [] => some []
  | v :: rest => do
    let s ← symbol? v
    let rest ← symbols? rest
    return s :: rest

end

/-- The response a value stands for, flat if it can be. -/
def ofJson? : Json → Option Response
  | .array items =>
    match items.mapM information? with
    | some infos => some (.flat infos)
    | none => (symbols? items).map nested
  | _ => none

end Response

/-- Why a text is not a response. -/
inductive ResponseError where
  | syntaxError (e : Json.ReadError)
  /-- The text starts with a value of neither shape. -/
  | wrongShape
  deriving DecidableEq, Repr

/-- What is wrong with the text. -/
def ResponseError.message (text : List Char) : ResponseError → String
  | syntaxError e => e.message text
  | wrongShape => "data did not match any variant of untagged enum DocumentSymbolResponse"

/-- The symbols of a response. The shape is looked at before the end of the text. -/
def Response.parse (text : List Char) : Except ResponseError (List Symbol) :=
  match Json.read text with
  | .error e => .error (.syntaxError e)
  | .ok (v, rest) =>
    match ofJson? v with
    | none => .error .wrongShape
    | some response =>
      match Json.expectEnd rest with
      | .error e => .error (.syntaxError e)
      | .ok () => .ok response.symbols

end SymbolOutline
