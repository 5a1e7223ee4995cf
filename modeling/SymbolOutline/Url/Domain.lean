import SymbolOutline.Files.Basic
import SymbolOutline.Text.Composed
import SymbolOutline.Url.Address
import SymbolOutline.Url.Direction
import SymbolOutline.Url.DomainTable
import SymbolOutline.Url.Punycode

/-!
# Domains

`isDomain` accepts the names and numbers of hosts on a network. A name may be
escaped with percent signs and written in any script; its labels are looked
at in their plain form, in lower case.
-/

namespace SymbolOutline.Url

def isAscii (c : Char) : Bool := c.toNat < 128

/-- ASCII characters no domain has. -/
def isForbidden (c : Char) : Bool := c ≤ ' ' || "%#/:<>?@[\\]^|\x7f".toList.contains c

/-- What a character of a domain stands for; `none` if no domain has it. -/
def plainForm? (c : Char) : Option (List Char) :=
  if isAscii c then some [c.toLower]
  else if Text.inRanges refusedRanges c then none
  else if Text.inRanges ignoredRanges c then some []
  else
    match shiftedRanges.find? fun (low, high, step, _) =>
      low ≤ c.toNat && c.toNat ≤ high && (c.toNat - low) % step == 0 with
    | some (low, _, _, first) => some [Char.ofNat (first + (c.toNat - low))]
    | none => some ((Text.textOf? spelledRanges c).getD [c])

/-- The one way to write a text as a domain, before its labels are looked at. -/
def plainText? (text : List Char) : Option (List Char) :=
  match text.mapM plainForm? with
  | none => none
  | some forms =>
    let plain := Text.composed forms.flatten
    if plain.any isForbidden then none else some plain

/-! ## Labels -/

/-- The longest label with characters beyond ASCII. -/
def maxLength : Nat := 1000

/-- The longest label in Punycode, less what marks it as such. -/
def maxPunycode : Nat := 2000

/-- No label starts with a mark. -/
def startsWell : List Char → Bool
  | c :: _ => !Text.inRanges markRanges c
  | [] => true

/-- The label that a label in plain form stands for. Punycode stands for a
label beyond ASCII that is plain itself. -/
def shownLabel? : List Char → Option (List Char)
  | 'x' :: 'n' :: '-' :: '-' :: rest =>
    if rest.all isAscii ∧ rest.length ≤ maxPunycode then
      match Punycode.decode? rest with
      | none => none
      | some label =>
        if label.any (!isAscii ·) ∧ plainText? label = some label then some label else none
    else none
  | label => some label

/-- Whether a label may be shown to a reader. -/
def isLabel (label : List Char) : Bool :=
  startsWell label && joinsWell [] label && (label.all isAscii || label.length ≤ maxLength)

/-- Whether labels may stand together in a domain. -/
def areLabels (labels : List (List Char)) : Bool :=
  labels.all isLabel && (!labels.any hasRight || labels.all readsClearly)

/-! ## Domains -/

/-- Two hexadecimal digits after a percent sign stand for a byte. -/
def percentDecode : List UInt8 → List UInt8
  | 0x25 :: a :: b :: rest =>
    match Hex.value? (Char.ofNat a.toNat), Hex.value? (Char.ofNat b.toNat) with
    | some m, some n => UInt8.ofNat (16 * m + n) :: percentDecode rest
    | _, _ => 0x25 :: percentDecode (a :: b :: rest)
  | byte :: rest => byte :: percentDecode rest
  | [] => []

/-- The text that percent signs and what follows them stand for. -/
def unescape? (text : List Char) : Option (List Char) :=
  (decodeText ⟨(percentDecode (String.ofList text).toUTF8.toList).toArray⟩).toOption

def isDomain (text : List Char) : Bool :=
  match (unescape? text).bind plainText? with
  | none => false
  | some plain =>
    let labels := Text.split '.' plain
    plain ≠ [] && (labels.mapM shownLabel?).any areLabels
      && (!endsInNumber labels || isAddress4 labels)

end SymbolOutline.Url
