/-!
# Places in a text

Readers of this library walk a text character by character and remember a
`Place` by what is left of the text there. Line and column are worked out
from it when they are asked for.
-/

namespace SymbolOutline

/-- The number of bytes of the text in UTF-8. -/
def utf8Length (text : List Char) : Nat := text.foldr (fun c n => c.utf8Size + n) 0

/-- The end of the first `bytes` bytes of `rest`, or the end of the text if
there are fewer. A place may lie inside a character. -/
structure Place where
  rest : List Char
  bytes : Nat := 0
  deriving DecidableEq, Repr

namespace Place

/-- The end of the text. -/
def textEnd : Place := ⟨[], 0⟩

/-- The number of bytes of the text before the place. -/
def offset (text : List Char) (place : Place) : Nat :=
  min (utf8Length text) (utf8Length text - utf8Length place.rest + place.bytes)

/-- The line, from 1, and the number of bytes on it, after so many bytes of
the text. A newline counts to the line it starts. -/
def lineColumnAfter (text : List Char) (bytes : Nat) : Nat × Nat :=
  go 1 0 bytes text
where
  go (line column bytes : Nat) : List Char → Nat × Nat
    | [] => (line, column)
    | c :: rest =>
      if bytes < c.utf8Size then (line, column + bytes)
      else if c = '\n' then go (line + 1) 0 (bytes - 1) rest
      else go line (column + c.utf8Size) (bytes - c.utf8Size) rest

def lineColumn (text : List Char) (place : Place) : Nat × Nat :=
  lineColumnAfter text (place.offset text)

end Place

end SymbolOutline
