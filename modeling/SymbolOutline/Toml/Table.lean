import SymbolOutline.Toml.Value

/-!
# Building tables

A document is a list of `Line`s: pairs of a key and a value, and the headers
that open tables. `Table.ofLines?` puts them together and refuses a key that
is given twice and a table that is opened, extended or replaced against the
rules; entries stand in the order in which they first appear.
-/

namespace SymbolOutline.Toml

inductive Line where
  /-- A value under the last key, in the table named by the keys before it. -/
  | pair (path : List Key) (key : Key) (value : Item)
  /-- A header with its text; `many` stands for double brackets. -/
  | header (span : Span) (path : List Key) (key : Key) (many : Bool)

namespace Table

def find? (t : Table) (name : String) : Option Item :=
  (t.entries.find? (·.1.name = name)).map Prod.snd

def add (t : Table) (key : Key) (item : Item) : Table :=
  { t with entries := t.entries ++ [(key, item)] }

def erase (t : Table) (name : String) : Table :=
  { t with entries := t.entries.filter (·.1.name ≠ name) }

/-- Puts an item in the place of the one with the same name. -/
def replace (t : Table) (name : String) (item : Item) : Table :=
  { t with entries := t.entries.map fun (k, old) => if k.name = name then (k, item) else (k, old) }

def item (t : Table) (span : Option Span) : Item := .table span t.origin t.entries

/-- Whether the path of a dotted key or of a header may lead through a table. -/
def leadsThrough (path table : Origin) : Bool :=
  match path, table with
  | .dotted, .implied | .dotted, .dotted => true
  | .dotted, _ => false
  | _, .inline => false
  | _, _ => true

variable {α : Type}

/-- Changes the table at the end of a path. Tables that are missing on the way
are made, with `origin`; of several tables of one name the path takes the last. -/
def update? (origin : Origin) (change : Table → Option (α × Table)) :
    List Key → Table → Option (α × Table)
  | [], t => change t
  | key :: path, t =>
    match t.find? key.name with
    | none => do
      let (a, inner) ← update? origin change path ⟨origin, []⟩
      return (a, t.add key (inner.item none))
    | some (.table span made entries) =>
      if leadsThrough origin made then do
        let (a, inner) ← update? origin change path ⟨made, entries⟩
        return (a, t.replace key.name (inner.item span))
      else none
    | some (.tables span items) =>
      match items.getLast? with
      | some (.table last made entries) => do
        let (a, inner) ← update? origin change path ⟨made, entries⟩
        return (a, t.replace key.name (.tables span (items.dropLast ++ [inner.item last])))
      | _ => none
    | some _ => none

/-- Adds a pair. Dotted keys extend tables made by dotted keys and no others. -/
def insert? (path : List Key) (key : Key) (value : Item) (t : Table) : Option Table := do
  let ((), t) ← update? .dotted (fun t =>
    if (t.origin = .dotted) = (path = []) then none
    else if (t.find? key.name).isSome then none
    else some ((), t.add key value)) path t
  return t

/-- Takes out the table a header opens. It may be there already if only longer
headers have named it; then it comes with what these put into it. -/
def take? (key : Key) (t : Table) : Option (List (Key × Item) × Table) :=
  match t.find? key.name with
  | none => some ([], t)
  | some (.table _ .implied entries) => some (entries, t.erase key.name)
  | some _ => none

/-- Makes room for one more of several tables of one name. -/
def startMany? (key : Key) (t : Table) : Option (Unit × Table) :=
  match t.find? key.name with
  | none => some ((), t.add key (.tables none []))
  | some (.tables ..) => some ((), t)
  | some _ => none

/-- Appends one of several tables of one name. They are the text from the first
to the end of the last. -/
def addMany? (key : Key) (span : Span) (item : Item) (t : Table) : Option (Unit × Table) :=
  match t.find? key.name with
  | some (.tables old items) =>
    let span : Span := ⟨(old.map (·.start)).getD span.start, span.stop⟩
    some ((), t.replace key.name (.tables (some span) (items ++ [item])))
  | _ => none

end Table

/-- A header whose table is being filled. -/
structure Section where
  /-- The header, and the text up to the end of the last value below it. -/
  span : Span
  path : List Key
  key : Key
  many : Bool

/-- The part of a document that has been put together. -/
structure Draft where
  root : Table
  opened? : Option Section
  /-- The table of the section, or what stands before the first header. -/
  current : Table

namespace Draft

def empty : Draft := ⟨⟨.header, []⟩, none, ⟨.header, []⟩⟩

/-- The document with the open section put in its place. -/
def close? (d : Draft) : Option Table :=
  match d.opened? with
  | none => some d.current
  | some s => do
    let item := d.current.item (some s.span)
    let ((), root) ← Table.update? .implied (fun t =>
      if s.many then t.addMany? s.key s.span item else some ((), t.add s.key item)) s.path d.root
    return root

/-- Closes the open section and starts another. -/
def open? (s : Section) (d : Draft) : Option Draft := do
  let root ← d.close?
  if s.many then
    let ((), root) ← Table.update? .implied (Table.startMany? s.key) s.path root
    return ⟨root, some s, ⟨.header, []⟩⟩
  else
    let (entries, root) ← Table.update? .implied (Table.take? s.key) s.path root
    return ⟨root, some s, ⟨.header, entries⟩⟩

def pair? (path : List Key) (key : Key) (value : Item) (d : Draft) : Option Draft := do
  let current ← d.current.insert? path key value
  let opened? := d.opened?.map fun s =>
    { s with span.stop := (value.span?.map (·.stop)).getD s.span.stop }
  return ⟨d.root, opened?, current⟩

def line? (d : Draft) : Line → Option Draft
  | .pair path key value => d.pair? path key value
  | .header span path key many => d.open? ⟨span, path, key, many⟩

end Draft

def Table.ofLines? (lines : List Line) : Option Table := do
  let d ← lines.foldlM Draft.line? Draft.empty
  d.close?

end SymbolOutline.Toml
