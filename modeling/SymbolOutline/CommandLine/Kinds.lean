import SymbolOutline.CommandLine.Arguments
import SymbolOutline.Outline.Json

/-!
# The kinds command

`kindsOutput` lists the known kinds by weight, in columns or as JSON.
-/

namespace SymbolOutline.CommandLine

def blanks (n : Nat) : String := String.ofList (List.replicate n ' ')

/-- A text at the left of a column. -/
def padRight (width : Nat) (text : String) : String := text ++ blanks (width - text.length)

/-- A text at the right of a column. -/
def padLeft (width : Nat) (text : String) : String := blanks (width - text.length) ++ text

def tableLine (label ordinal weight : String) : String :=
  padRight 14 label ++ " " ++ padLeft 7 ordinal ++ " " ++ padLeft 6 weight ++ "\n"

def int32Text (i : Int32) : String := String.ofList (Decimal.digitsInt i.toInt)

def kindLine (kind : SymbolKind) : String :=
  tableLine kind.label (int32Text kind.ordinal) (int32Text kind.weight)

def kindJson (kind : SymbolKind) : Json :=
  .object
    [("kind", .ofInt32 kind.ordinal), ("ordinal", .ofInt32 kind.ordinal),
      ("weight", .ofInt32 kind.weight), ("label", .string kind.label)]

def kindsOutput : Format → String
  | .text =>
    tableLine "LABEL" "ORDINAL" "WEIGHT"
      ++ String.join (SymbolKind.table.map kindLine)
  | .json =>
    String.ofList (Json.pretty 0 (.array (SymbolKind.table.map kindJson)) ++ ['\n'])

end SymbolOutline.CommandLine
