import SymbolOutline.Text.Hex
import SymbolOutline.Text.Split

/-!
# Network addresses

`isAddress4` and `isAddress6` accept the numbers that a host may be given by:
up to four numbers between dots, and eight groups of hexadecimal digits.
-/

namespace SymbolOutline.Url

open Decimal (isDigit)

/-- The value of digits in a base, if all of them are digits of it. -/
def inBase? (base : Nat) (digits : List Char) : Option Nat :=
  digits.foldlM (fun n c => (Hex.value? c).bind fun d =>
    if d < base then some (base * n + d) else none) 0

/-- A number in decimal, octal or hexadecimal, as its first characters say. -/
def number? : List Char → Option Nat
  | [] => none
  | '0' :: 'x' :: digits | '0' :: 'X' :: digits => inBase? 16 digits
  | '0' :: d :: digits => inBase? 8 (d :: digits)
  | digits => inBase? 10 digits

/-- The parts without an empty last one. -/
def withoutRoot (parts : List (List Char)) : List (List Char) :=
  match parts.getLast? with
  | some [] => parts.dropLast
  | _ => parts

/-- Whether the last part of a domain is a number, so that all of them have to be. -/
def endsInNumber (parts : List (List Char)) : Bool :=
  match (withoutRoot parts).getLast? with
  | some (d :: digits) => (d :: digits).all isDigit || (number? (d :: digits)).isSome
  | _ => false

/-- The last number fills the bytes the others leave of four. -/
def isAddress4 (parts : List (List Char)) : Bool :=
  match (withoutRoot parts).mapM number? with
  | none => false
  | some numbers =>
    numbers.length ≤ 4 && numbers.dropLast.all (· < 256)
      && numbers.getLast?.any (· < Nat.pow 256 (5 - numbers.length))

/-- A byte in decimal without leading zeros. -/
def isByte : List Char → Bool
  | [] => false
  | ['0'] => true
  | '0' :: _ => false
  | digits => digits.all isDigit && digits.length ≤ 3 && Decimal.value digits < 256

def isGroup (group : List Char) : Bool :=
  1 ≤ group.length && group.length ≤ 4 && group.all fun c => (Hex.value? c).isSome

/-- The number of groups in a list of them, where four bytes with dots may
stand for the last two. -/
def groupCount? : List (List Char) → Option Nat
  | [] => some 0
  | [last] =>
    if isGroup last then some 1
    else
      let bytes := Text.split '.' last
      if bytes.length = 4 ∧ bytes.all isByte then some 2 else none
  | group :: rest => if isGroup group then (groupCount? rest).map (· + 1) else none

/-- The texts before and after the first double colon. -/
def atDoubleColon? : List Char → Option (List Char × List Char)
  | ':' :: ':' :: rest => some ([], rest)
  | c :: rest => (atDoubleColon? rest).map fun (before, after) => (c :: before, after)
  | [] => none

/-- The number of groups between colons, none if the text is empty. -/
def groupsIn? : List Char → Option Nat
  | [] => some 0
  | text => groupCount? (Text.split ':' text)

/-- A double colon stands for one group or more, all zero. -/
def isAddress6 (text : List Char) : Bool :=
  match atDoubleColon? text with
  | none => groupsIn? text = some 8
  | some (before, after) =>
    match groupsIn? before, groupsIn? after with
    | some m, some n => !before.contains '.' && m + n ≤ 7
    | _, _ => false

example : isAddress6 "::1".toList ∧ isAddress6 "1:2:3:4:5:6:7::".toList
    ∧ isAddress6 "::ffff:1.2.3.4".toList := by decide +kernel
example : ¬isAddress6 "::1:2:3:4:5:6:7:8".toList ∧ ¬isAddress6 ":::".toList
    ∧ ¬isAddress6 "1:".toList := by decide +kernel

end SymbolOutline.Url
