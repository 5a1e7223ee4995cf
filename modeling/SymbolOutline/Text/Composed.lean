import SymbolOutline.Text.ComposedTable
import SymbolOutline.Text.Ranges

/-!
# Composed text

A letter with marks can be written in many ways: as one character, or with the
marks after it in this order or another. `Text.composed` is the one way in
which a text is composed: every character is taken apart, marks are put in the
order of their classes, and what can be one character becomes one.
-/

namespace SymbolOutline.Text

/-- The class of a mark, and 0 for a character that starts anew. -/
def markClass (c : Char) : Nat :=
  if c.toNat < 0x300 then 0
  else
    match rangeOf? markClasses c with
    | some (_, _, n) => n
    | none => 0

/-! ## Pairs -/

/-- The syllable of a leading consonant and a vowel, or of a syllable that is
still open and a trailing consonant. -/
def syllable? (a b : Char) : Option Char :=
  let first := a.toNat
  let second := b.toNat
  if 0x1100 ≤ first ∧ first < 0x1113 ∧ 0x1161 ≤ second ∧ second < 0x1176 then
    some (Char.ofNat (0xac00 + ((first - 0x1100) * 21 + (second - 0x1161)) * 28))
  else if 0xac00 ≤ first ∧ first < 0xd7a4 ∧ (first - 0xac00) % 28 = 0
      ∧ 0x11a7 < second ∧ second < 0x11c3 then
    some (Char.ofNat (first + (second - 0x11a7)))
  else none

/-- What `syllable?` puts together. -/
def syllableParts? (c : Char) : Option (Char × Char) :=
  let n := c.toNat - 0xac00
  if c.toNat < 0xac00 ∨ 0xd7a4 ≤ c.toNat then none
  else if n % 28 = 0 then
    some (Char.ofNat (0x1100 + n / 588), Char.ofNat (0x1161 + n % 588 / 28))
  else some (Char.ofNat (c.toNat - n % 28), Char.ofNat (0x11a7 + n % 28))

/-- The character that stands for two. -/
def join? (a b : Char) : Option Char :=
  if b.toNat < 0x300 then none
  else
    match compositions.lookup b.toNat with
    | some entries => (entries.lookup a.toNat).map Char.ofNat
    | none => syllable? a b

/-- The two characters that one stands for. -/
def parts? (c : Char) : Option (Char × Char) :=
  if c.toNat < 0xc0 then none
  else
    let found := compositions.findSome? fun (mark, entries) =>
      (entries.find? (·.2 = c.toNat)).map fun (first, _) => (Char.ofNat first, Char.ofNat mark)
    found.or (syllableParts? c)

/-! ## Texts -/

/-- A character taken apart; the number bounds how often. -/
def apart : Nat → Char → List Char
  | 0, c => [c]
  | n + 1, c =>
    match textOf? replacements c with
    | some text => text
    | none =>
      match parts? c with
      | some (first, mark) => apart n first ++ [mark]
      | none => [c]

/-- No character has more than three marks. -/
def maxMarks : Nat := 3

/-- Puts a character with its class before a text, but after the marks there
whose classes are lower than its own. -/
def insertMark (c : Nat × Char) : List (Nat × Char) → List (Nat × Char)
  | [] => [c]
  | d :: rest => if 0 < d.1 ∧ d.1 < c.1 then d :: insertMark c rest else c :: d :: rest

/-- The characters with their classes, marks in order. -/
def ordered (text : List Char) : List (Nat × Char) :=
  (text.map fun c => (markClass c, c)).foldr insertMark []

/-- Composes `start` with the characters after it, where the marks in `kept`,
newest first, could not be composed with it and are of classes up to `last`. -/
def joinFrom (start : Char) (kept : List Char) (last : Nat) : List (Nat × Char) → List Char
  | [] => start :: kept.reverse
  | (n, c) :: rest =>
    match if kept = [] ∨ last < n then join? start c else none with
    | some joined => joinFrom joined kept last rest
    | none =>
      if n = 0 then start :: kept.reverse ++ joinFrom c [] 0 rest
      else joinFrom start (c :: kept) n rest

/-- Marks before the first other character stay as they are. -/
def joined : List (Nat × Char) → List Char
  | [] => []
  | (n, c) :: rest => if n = 0 then joinFrom c [] 0 rest else c :: joined rest

def composed (text : List Char) : List Char := joined (ordered (text.flatMap (apart maxMarks)))

example : composed ['e', '\u0301'] = ['é'] ∧ composed ['é', '\u0323'] = ['ẹ', '\u0301'] := by
  decide +kernel
example : composed "각".toList = ['각'] ∧ composed ['ᄀ', 'ᅡ', 'ᆨ'] = ['각'] := by decide +kernel

end SymbolOutline.Text
