import SymbolOutline.Text.Place

/-!
# Errors in JSON text

A text that is not JSON has a `Fault` at a place. The message gives the line
and the number of bytes of that line up to the offending one.
-/

namespace SymbolOutline.Json

inductive Fault where
  | valueEnd
  | listEnd
  | objectEnd
  | stringEnd
  | expectedValue
  | expectedWord
  | invalidNumber
  | numberRange
  | expectedListMore
  | expectedObjectMore
  | expectedColon
  | keyNotString
  | trailingComma
  | trailingCharacters
  | invalidEscape
  | controlCharacter
  /-- The first half of a surrogate pair, and no escape after it. -/
  | halfPair
  /-- A surrogate that is not part of a pair. -/
  | loneSurrogate
  | recursionLimit
  deriving DecidableEq, Repr

def Fault.message : Fault → String
  | valueEnd => "EOF while parsing a value"
  | listEnd => "EOF while parsing a list"
  | objectEnd => "EOF while parsing an object"
  | stringEnd => "EOF while parsing a string"
  | expectedValue => "expected value"
  | expectedWord => "expected ident"
  | invalidNumber => "invalid number"
  | numberRange => "number out of range"
  | expectedListMore => "expected `,` or `]`"
  | expectedObjectMore => "expected `,` or `\x7d`"
  | expectedColon => "expected `:`"
  | keyNotString => "key must be a string"
  | trailingComma => "trailing comma"
  | trailingCharacters => "trailing characters"
  | invalidEscape => "invalid escape"
  | controlCharacter => "control character (\\u0000-\\u001F) found while parsing a string"
  | halfPair => "unexpected end of hex escape"
  | loneSurrogate => "lone leading surrogate in hex escape"
  | recursionLimit => "recursion limit exceeded"

structure ReadError where
  fault : Fault
  place : Place
  deriving DecidableEq, Repr

namespace ReadError

/-- A fault of the first character of the text. -/
def here (fault : Fault) (text : List Char) : ReadError := ⟨fault, text, 1⟩

def message (text : List Char) (e : ReadError) : String :=
  let (line, column) := e.place.lineColumn text
  e.fault.message ++ s!" at line {line} column {column}"

end ReadError

end SymbolOutline.Json
