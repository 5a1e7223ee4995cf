import SymbolOutline.Numeric.Double
import SymbolOutline.Text.Place

/-!
# TOML values

An `Item` is a value of a TOML document with the stretch of text it was
written in. Tables remember how they came about (`Origin`), because that
decides what may still be added to them.
-/

namespace SymbolOutline.Toml

/-- A stretch of text: what is left of the text at its start and at its end. -/
structure Span where
  start : List Char
  stop : List Char
  deriving DecidableEq, Repr, Inhabited

structure Key where
  name : String
  span : Span
  deriving DecidableEq, Repr, Inhabited

inductive Scalar where
  | string (s : String)
  | integer (i : Int)
  | float (x : Double)
  | boolean (b : Bool)
  /-- A date, a time or both. -/
  | dateTime
  deriving DecidableEq, Repr

inductive Origin where
  /-- Opened by a header of its own. -/
  | header
  /-- Named in a longer header only. -/
  | implied
  /-- Named in a dotted key. -/
  | dotted
  /-- Written in braces. -/
  | inline
  deriving DecidableEq, Repr, Inhabited

inductive Item where
  | scalar (span : Span) (value : Scalar)
  | array (span : Span) (items : List Item)
  /-- A table. One that no header or brace opens has no text of its own. -/
  | table (span : Option Span) (origin : Origin) (entries : List (Key × Item))
  /-- The tables opened by headers in double brackets, all of one name. -/
  | tables (span : Option Span) (items : List Item)
  deriving Repr, Inhabited

/-- An open table: how it came about and its entries, first to last. -/
structure Table where
  origin : Origin
  entries : List (Key × Item)
  deriving Inhabited

def Item.span? : Item → Option Span
  | scalar span _ | array span _ => some span
  | table span .. | tables span _ => span

end SymbolOutline.Toml
