import SymbolOutline.Toml.Value

/-!
# Pointing into a document

`Toml.report` shows the line on which a stretch of text starts, marks the
stretch below it and ends with a message.
-/

namespace SymbolOutline.Toml

/-- The text before a stretch. -/
def Span.before (text : List Char) (span : Span) : List Char :=
  text.take (text.length - span.start.length)

/-- The number of bytes of a stretch. -/
def Span.byteLength (span : Span) : Nat := utf8Length span.start - utf8Length span.stop

def spaces (n : Nat) : String := String.ofList (List.replicate n ' ')

/-- How every report of a bad document starts. -/
def reportHead : String := "TOML parse error"

def report (text : List Char) (span : Span) (message : String) : String :=
  let before := span.before text
  let lineStart := (before.reverse.takeWhile (· ≠ '\n')).reverse
  let line := lineStart ++ span.start.takeWhile (· ≠ '\n')
  let number := toString (before.count '\n' + 1)
  let column := lineStart.length
  -- The marks count bytes; they end with the line, and there is at least one.
  let marks := max 1 (min span.byteLength (utf8Length line - column))
  let gutter := spaces (number.length + 1) ++ "|"
  reportHead ++ s!" at line {number}, column {column + 1}\n"
    ++ gutter ++ "\n"
    ++ number ++ " | " ++ String.ofList line ++ "\n"
    ++ gutter ++ spaces (column + 1) ++ String.ofList (List.replicate marks '^') ++ "\n"
    ++ message ++ "\n"

end SymbolOutline.Toml
