/-!
# Splitting text

`Text.split` cuts a text at every occurrence of a character.
-/

namespace SymbolOutline.Text

/-- The parts of a text between the occurrences of `c`; one part if there is none. -/
def split (c : Char) : List Char → List (List Char)
  | [] => [[]]
  | d :: rest =>
    if d = c then [] :: split c rest
    else
      match split c rest with
      | part :: parts => (d :: part) :: parts
      | [] => [[d]]

end SymbolOutline.Text
