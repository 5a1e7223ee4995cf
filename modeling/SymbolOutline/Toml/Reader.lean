import SymbolOutline.Toml.Number
import SymbolOutline.Toml.Table

/-!
# Reading TOML

`Toml.read?` reads a document as a table. `lines?` is its syntax: one pair or
header per line; `value?` reads a value, in which brackets and braces may be
nested `maxDepth` deep.
-/

namespace SymbolOutline.Toml

/-- The most brackets and braces around a value, and the most parts of a key. -/
def maxDepth : Nat := 79

/-! ## Keys -/

def isBare (c : Char) : Bool := c.isAlphanum || c = '-' || c = '_'

/-- One part of a key, bare or quoted. -/
def keyPart? (text : List Char) : Option (Key × List Char) :=
  let found : Option (String × List Char) :=
    match text with
    | '"' :: rest => basicString? rest.length [] rest
    | '\'' :: rest => literalString? rest
    | _ =>
      match text.takeWhile isBare with
      | [] => none
      | name => some (String.ofList name, text.dropWhile isBare)
  found.map fun (name, rest) => (⟨name, text, rest⟩, rest)

/-- The parts of a dotted key before the last, and the last, with the blanks
around them. -/
def keyFrom? (fuel : Nat) (path : List Key) (text : List Char) :
    Option ((List Key × Key) × List Char) :=
  match fuel with
  | 0 => none
  | fuel + 1 =>
    match keyPart? (skipBlanks text) with
    | none => none
    | some (key, rest) =>
      match skipBlanks rest with
      | '.' :: rest => keyFrom? fuel (key :: path) rest
      | rest => some ((path.reverse, key), rest)

def key? (text : List Char) : Option ((List Key × Key) × List Char) := keyFrom? maxDepth [] text

/-! ## Values -/

/-- The items of an array up to its bracket, newest first in `read`. A comma
may follow the last one. -/
def items? (value? : List Char → Option (Item × List Char)) (fuel : Nat) (read : List Item)
    (text : List Char) : Option (List Item × List Char) :=
  match fuel, skipLayout text.length text with
  | _, ']' :: rest => some (read.reverse, rest)
  | fuel + 1, text =>
    match value? text with
    | none => none
    | some (item, rest) =>
      match skipLayout rest.length rest with
      | ',' :: rest => items? value? fuel (item :: read) rest
      | ']' :: rest => some ((item :: read).reverse, rest)
      | _ => none
  | _, _ => none

/-- A key, an equals sign and a value. -/
def assignment? (value? : List Char → Option (Item × List Char)) (text : List Char) :
    Option ((List Key × Key × Item) × List Char) :=
  match key? text with
  | some ((path, key), '=' :: rest) =>
    (value? (skipBlanks rest)).map fun (item, rest) => ((path, key, item), rest)
  | _ => none

/-- The pairs of a table in braces, at least one, up to its closing brace. -/
def inlinePairs? (value? : List Char → Option (Item × List Char)) (fuel : Nat) (t : Table)
    (text : List Char) : Option (Table × List Char) :=
  match fuel with
  | 0 => none
  | fuel + 1 =>
    match assignment? value? text with
    | none => none
    | some ((path, key, item), rest) =>
      match t.insert? path key item with
      | none => none
      | some t =>
        match skipBlanks rest with
        | ',' :: rest => inlinePairs? value? fuel t rest
        | '\x7d' :: rest => some (t, rest)
        | _ => none

def inlineTable? (value? : List Char → Option (Item × List Char)) (text : List Char) :
    Option (Table × List Char) :=
  match skipBlanks text with
  | '\x7d' :: rest => some (⟨.inline, []⟩, rest)
  | text => inlinePairs? value? text.length ⟨.inline, []⟩ text

def scalar? (text : List Char) : Option (Scalar × List Char) :=
  match text with
  | '"' :: _ | '\'' :: _ => (string? text).map fun (s, rest) => (.string s, rest)
  | 't' :: 'r' :: 'u' :: 'e' :: rest => some (.boolean true, rest)
  | 'f' :: 'a' :: 'l' :: 's' :: 'e' :: rest => some (.boolean false, rest)
  | _ =>
    match dateTime? text with
    | some rest => some (.dateTime, rest)
    | none => number? text

/-- A value inside which brackets and braces may be nested so deep. -/
def value? (depth : Nat) (text : List Char) : Option (Item × List Char) :=
  match depth, text with
  | depth + 1, '[' :: rest =>
    (items? (value? depth) rest.length [] rest).map fun (items, rest) =>
      (.array ⟨text, rest⟩ items, rest)
  | depth + 1, '\x7b' :: rest =>
    (inlineTable? (value? depth) rest).map fun (t, rest) => (t.item (some ⟨text, rest⟩), rest)
  | _, _ => (scalar? text).map fun (v, rest) => (.scalar ⟨text, rest⟩ v, rest)

/-! ## Lines -/

/-- A header, whose text is known to start with a bracket. -/
def header? (text : List Char) : Option (Line × List Char) :=
  match text with
  | '[' :: '[' :: rest =>
    match key? rest with
    | some ((path, key), ']' :: ']' :: rest) => some (.header ⟨text, rest⟩ path key true, rest)
    | _ => none
  | '[' :: rest =>
    match key? rest with
    | some ((path, key), ']' :: rest) => some (.header ⟨text, rest⟩ path key false, rest)
    | _ => none
  | _ => none

def pairLine? (text : List Char) : Option (Line × List Char) :=
  (assignment? (value? maxDepth) text).map fun ((path, key, item), rest) =>
    (.pair path key item, rest)

/-- A line with its end; `none` inside for a line without pair and header. -/
def line? (text : List Char) : Option (Option Line × List Char) :=
  match lineEnd? text with
  | some rest => some (none, rest)
  | none =>
    match skipBlanks text with
    | [] => none
    | c :: rest =>
      match if c = '[' then header? (c :: rest) else pairLine? (c :: rest) with
      | none => none
      | some (line, rest) => (lineEnd? rest).map fun rest => (some line, rest)

/-- All lines, after those in `read`, which are newest first. -/
def linesFrom? (fuel : Nat) (read : List Line) (text : List Char) : Option (List Line) :=
  match fuel, text with
  | _, [] => some read.reverse
  | 0, _ => none
  | fuel + 1, text =>
    match line? text with
    | none => none
    | some (some line, rest) => linesFrom? fuel (line :: read) rest
    | some (none, rest) => linesFrom? fuel read rest

/-- The lines of a text, which may start with a byte order mark. -/
def lines? : List Char → Option (List Line)
  | '\ufeff' :: text => linesFrom? text.length [] text
  | text => linesFrom? text.length [] text

/-- The table of a document, or `none` if the text is not one. -/
def read? (text : List Char) : Option Table := do
  let lines ← lines? text
  Table.ofLines? lines

end SymbolOutline.Toml
