/-!
# Rounding to 53 bits

Double-precision numbers have significands of 53 bits. `nearest` rounds a
natural number to one of at most that many bits, `quotient` a quotient to an
integer; a tie goes to the even neighbour.
-/

namespace SymbolOutline.Binary64

/-- The integer nearest to `n / d`, of two the even one. -/
def quotient (n d : Nat) : Nat :=
  let q := n / d
  if 2 * (n % d) < d then q
  else if d < 2 * (n % d) then q + 1
  else if q % 2 = 0 then q else q + 1

def nearest (n : Nat) : Nat :=
  if n < Nat.pow 2 53 then n
  else
    let unit := Nat.pow 2 (n.log2 - 52)
    quotient n unit * unit

/-- Numbers from here on are too large for a double: half a unit past the
greatest one. -/
def infinite : Nat := Nat.pow 2 1024 - Nat.pow 2 970

end SymbolOutline.Binary64
