import SymbolOutline.Settings.Basic
import SymbolOutline.Text.Quoted
import SymbolOutline.Toml.Reader
import SymbolOutline.Toml.Report

/-!
# Settings files

`Settings.ofToml` reads settings from a TOML document and `Settings.toToml?`
writes them as one. A document has a section per part of the settings, each a
table of fields or an array of their values in order; what it leaves out keeps
its default, and names that mean nothing here are skipped.
-/

namespace SymbolOutline.Settings

open Toml (Item Key Scalar Span Table)

/-! ## Fields -/

inductive Field where
  | sort
  | maxDepth
  | indent
  | showLines
  | showDetail
  deriving DecidableEq, Repr

inductive Section where
  | outline
  | render
  deriving DecidableEq, Repr

def Field.name : Field → String
  | sort => "sort"
  | maxDepth => "max_depth"
  | indent => "indent"
  | showLines => "show_lines"
  | showDetail => "show_detail"

def Section.name : Section → String
  | outline => "outline"
  | render => "render"

/-- The fields of a section, in order. -/
def Section.fields : Section → List Field
  | outline => [.sort, .maxDepth]
  | render => [.indent, .showLines, .showDetail]

/-! ## Reading -/

/-- What stands in a place of a document. -/
inductive Found where
  | string (s : String)
  | integer (i : Int)
  | float (x : Double)
  | boolean (b : Bool)
  | sequence
  | map
  deriving DecidableEq, Repr

inductive Expected where
  | boolean
  | count
  | fields (s : Section)
  deriving DecidableEq, Repr

/-- Why a text has no settings. -/
inductive TomlError where
  /-- It is not a TOML document; where and why is not kept. -/
  | malformed
  | wrongType (span : Span) (found : Found) (expected : Expected)
  | negative (span : Span) (i : Int)
  deriving DecidableEq, Repr

def Found.ofItem : Item → Found
  | .scalar _ (.string s) => string s
  | .scalar _ (.integer i) => integer i
  | .scalar _ (.float x) => float x
  | .scalar _ (.boolean b) => boolean b
  | .scalar _ .dateTime | .table .. => map
  | .array .. | .tables .. => sequence

def Found.text : Found → String
  | string s => "string " ++ Text.quoted s
  | integer i => s!"integer `{i}`"
  | float x => "floating point `" ++ String.ofList x.text ++ "`"
  | boolean b => s!"boolean `{b}`"
  | sequence => "sequence"
  | map => "map"

def Expected.text : Expected → String
  | boolean => "a boolean"
  | count => "usize"
  | fields .outline => "struct OutlineSettings"
  | fields .render => "struct RenderSettings"

/-- The report on a text without settings. Of the report on a text that is no TOML
document this is only the head; its place and its reason are left out. -/
def TomlError.message (text : List Char) : TomlError → String
  | malformed => Toml.reportHead
  | wrongType span found expected =>
    Toml.report text span ("invalid type: " ++ found.text ++ ", expected " ++ expected.text)
  | negative span i =>
    Toml.report text span
      ("invalid value: " ++ (Found.integer i).text ++ ", expected " ++ Expected.count.text)

def boolean (span : Span) : Item → Except TomlError Bool
  | .scalar _ (.boolean b) => .ok b
  | item => .error (.wrongType span (.ofItem item) .boolean)

def count (span : Span) : Item → Except TomlError Nat
  | .scalar _ (.integer i) => if i < 0 then .error (.negative span i) else .ok i.toNat
  | item => .error (.wrongType span (.ofItem item) .count)

/-- Takes a field from the value at a place of the document. -/
def set (s : Settings) (field : Field) (span : Span) (item : Item) : Except TomlError Settings :=
  match field with
  | .sort => (boolean span item).map fun b => { s with outline.sort := b }
  | .maxDepth => (count span item).map fun n => { s with outline.maxDepth := some n }
  | .indent => (count span item).map fun n => { s with render.indent := n }
  | .showLines => (boolean span item).map fun b => { s with render.showLines := b }
  | .showDetail => (boolean span item).map fun b => { s with render.showDetail := b }

/-- Where an entry is, for a report: at its value or else at its key. -/
def place (key : Key) (item : Item) : Span := item.span?.getD key.span

/-- Takes the fields of a section from its value. A date is as good as nothing. -/
def readSection (sec : Section) (s : Settings) (span : Span) (item : Item) :
    Except TomlError Settings :=
  match item with
  | .table _ _ entries =>
    entries.foldlM (fun s (key, item) =>
      match sec.fields.find? (·.name = key.name) with
      | some field => s.set field (place key item) item
      | none => .ok s) s
  | .array _ items | .tables _ items =>
    (sec.fields.zip items).foldlM (fun s (field, item) =>
      s.set field (item.span?.getD span) item) s
  | .scalar _ .dateTime => .ok s
  | .scalar .. => .error (.wrongType span (.ofItem item) (.fields sec))

def ofTable (t : Table) : Except TomlError Settings :=
  t.entries.foldlM (fun s (key, item) =>
    match [Section.outline, .render].find? (·.name = key.name) with
    | some sec => readSection sec s (place key item) item
    | none => .ok s) {}

def ofToml (text : List Char) : Except TomlError Settings :=
  match Toml.read? text with
  | none => .error .malformed
  | some t => ofTable t

/-! ## Writing -/

def boolText (b : Bool) : List Char := (if b then "true" else "false").toList

/-- The value of a field as it is written, if it has one. -/
def valueText? (s : Settings) : Field → Option (List Char)
  | .sort => some (boolText s.outline.sort)
  | .maxDepth => s.outline.maxDepth.map Decimal.digits
  | .indent => some (Decimal.digits s.render.indent)
  | .showLines => some (boolText s.render.showLines)
  | .showDetail => some (boolText s.render.showDetail)

/-- The line of a field, empty if the field has no value. -/
def line (s : Settings) (field : Field) : List Char :=
  match s.valueText? field with
  | some value => field.name.toList ++ " = ".toList ++ value ++ ['\n']
  | none => []

/-- The header of a section and the lines of its kept fields. -/
def sectionText (s : Settings) (keep : Field → Bool) (sec : Section) : List Char :=
  '[' :: (sec.name.toList ++ [']', '\n']) ++ (sec.fields.filter keep).flatMap s.line

/-- A document with the kept fields. -/
def tomlOf (s : Settings) (keep : Field → Bool) : List Char :=
  s.sectionText keep .outline ++ '\n' :: s.sectionText keep .render

/-- The greatest count a document can hold. -/
def maxCount : Nat := Nat.pow 2 63 - 1

def IsWritable (s : Settings) : Prop :=
  (∀ limit ∈ s.outline.maxDepth, limit ≤ maxCount) ∧ s.render.indent ≤ maxCount

instance (s : Settings) : Decidable s.IsWritable := by
  unfold IsWritable; infer_instance

/-- A document that reads as the settings, if their counts are small enough. -/
def toToml? (s : Settings) : Option (List Char) :=
  if s.IsWritable then some (s.tomlOf fun _ => true) else none

end SymbolOutline.Settings
