/-!
# Tables of characters

A table about characters lists ranges of code points, given by the first and
the last one, each with what it says about the characters in it.
-/

namespace SymbolOutline.Text

def inRanges (ranges : List (Nat × Nat)) (c : Char) : Bool :=
  ranges.any fun (low, high) => low ≤ c.toNat && c.toNat ≤ high

/-- The first range a character is in. -/
def rangeOf? {α : Type} (ranges : List (Nat × Nat × α)) (c : Char) : Option (Nat × Nat × α) :=
  ranges.find? fun (low, high, _) => low ≤ c.toNat && c.toNat ≤ high

/-- One of several texts with a blank after each but the last. -/
def wordAt : Nat → List Char → List Char
  | 0, texts => texts.takeWhile (· ≠ ' ')
  | n + 1, texts => wordAt n ((texts.dropWhile (· ≠ ' ')).drop 1)

/-- The text of a character, when a range has a text for each of its characters. -/
def textOf? (ranges : List (Nat × Nat × String)) (c : Char) : Option (List Char) :=
  (rangeOf? ranges c).map fun (low, _, texts) => wordAt (c.toNat - low) texts.toList

example : textOf? [(0x61, 0x63, "x yy z")] 'b' = some ['y', 'y'] := by decide +kernel

end SymbolOutline.Text
