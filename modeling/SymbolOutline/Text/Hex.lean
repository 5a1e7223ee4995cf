import SymbolOutline.Text.Decimal

/-!
# Hexadecimal numerals

`Hex.digits` writes a number in lower case; `Hex.value?` reads a digit in
either case.
-/

namespace SymbolOutline.Hex

/-- The digit of a number below sixteen. -/
def digit (n : Nat) : Char := if n < 10 then Char.ofNat (48 + n) else Char.ofNat (87 + n)

def digits (n : Nat) : List Char :=
  if n < 16 then [digit n] else digits (n / 16) ++ [digit (n % 16)]

def value? (c : Char) : Option Nat :=
  if Decimal.isDigit c then some (c.toNat - 48)
  else if 'a' ≤ c ∧ c ≤ 'f' then some (c.toNat - 87)
  else if 'A' ≤ c ∧ c ≤ 'F' then some (c.toNat - 55)
  else none

theorem value?_digit {n : Nat} (h : n < 16) : value? (digit n) = some n :=
  (by decide : ∀ n, n < 16 → value? (digit n) = some n) n h

end SymbolOutline.Hex
