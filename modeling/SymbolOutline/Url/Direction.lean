import SymbolOutline.Text.Ranges
import SymbolOutline.Url.DirectionTable

/-!
# Labels in all scripts

A domain with a right-to-left character in it has labels that read clearly in
one direction (`readsClearly`), and the two joiners stand only where they have
an effect (`joinsWell`).
-/

namespace SymbolOutline.Url

open Text (inRanges)

inductive Direction where
  | left
  | right
  | arabicNumber
  | number
  | neutral
  | nonspacing
  deriving DecidableEq, Repr

def Direction.ofChar (c : Char) : Direction :=
  if 'a' ≤ c ∧ c ≤ 'z' then left
  else if inRanges numberRanges c then number
  else if inRanges neutralRanges c then neutral
  else if inRanges nonspacingRanges c then nonspacing
  else if inRanges rightRanges c then right
  else if inRanges arabicNumberRanges c then arabicNumber
  else left

/-- Whether a label makes the whole domain one that reads both ways. -/
def hasRight (label : List Char) : Bool :=
  label.any fun c => Direction.ofChar c ∈ [.right, .arabicNumber]

/-- A label starts with a letter of its direction, ends with one or with a
number, and has no letter of the other direction. -/
def readsClearly (label : List Char) : Bool :=
  let directions := label.map Direction.ofChar
  let last := (directions.reverse.dropWhile (· = .nonspacing)).head?
  match directions.head? with
  | none => true
  | some .left =>
    !hasRight label && last.any (· ∈ [.left, .number])
  | some .right =>
    !directions.contains .left && last.any (· ∈ [.right, .number, .arabicNumber])
      && !(directions.contains .number && directions.contains .arabicNumber)
  | some _ => false

/-- Whether a joiner has an effect after the text in `before`, which is
newest first: after a virama, or between letters that could join if it keeps
them apart. -/
def joins (joiner : Char) (before after : List Char) : Bool :=
  let isTransparent (c : Char) : Bool :=
    inRanges nonspacingRanges c || inRanges transparentRanges c
  before.head?.any (inRanges viramaRanges)
    || (joiner = '\u200c'
      && (before.dropWhile isTransparent).head?.any (inRanges joinsAfterRanges)
      && (after.dropWhile isTransparent).head?.any (inRanges joinsBeforeRanges))

/-- Whether every joiner of a label has an effect. -/
def joinsWell (before : List Char) : List Char → Bool
  | [] => true
  | c :: rest =>
    ((c ≠ '\u200c' && c ≠ '\u200d') || joins c before rest) && joinsWell (c :: before) rest

example : readsClearly "אב1".toList ∧ readsClearly "ab".toList := by decide +kernel
example : ¬readsClearly "אb".toList ∧ ¬readsClearly "1א".toList := by decide +kernel

end SymbolOutline.Url
