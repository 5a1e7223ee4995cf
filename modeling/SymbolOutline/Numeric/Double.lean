import SymbolOutline.Numeric.Binary64
import SymbolOutline.Text.Decimal

/-!
# Double-precision numbers

`Double.ofDecimal` rounds a decimal to the nearest double, and `Double.text`
writes a double with the fewest digits that read back as it, nearest of those
and of two equally near away from zero, without an exponent and with at least
one decimal.
-/

namespace SymbolOutline

inductive Double where
  | nan
  | infinite (negative : Bool)
  /-- `significand * 2 ^ exponent`, with at most 53 bits and an exponent of at
  least -1074; fewer than 53 bits only at that exponent. -/
  | finite (negative : Bool) (significand : Nat) (exponent : Int)
  deriving DecidableEq, Repr

namespace Double

/-- `n * 2 ^ e` as a quotient. -/
def scaled (n : Nat) (e : Int) : Nat × Nat :=
  match e with
  | .ofNat e => (n * Nat.pow 2 e, 1)
  | .negSucc e => (n, Nat.pow 2 (e + 1))

/-- The exponent of the last bit of a double next to `n / d`, for `n` above zero. -/
def unitExponent (n d : Nat) : Int :=
  -- The quotient lies between `2 ^ (guess - 1)` and `2 ^ (guess + 1)`.
  let guess : Int := (n.log2 : Int) - d.log2
  let (a, b) := scaled 1 guess
  let top := if n * b < a * d then guess - 1 else guess
  max (top - 52) (-1074)

/-- The double nearest to `n / d`. -/
def ofQuotient (negative : Bool) (n d : Nat) : Double :=
  if n = 0 then .finite negative 0 (-1074)
  else
    let e := unitExponent n d
    let (a, b) := scaled 1 e
    let m := Binary64.quotient (n * b) (d * a)
    -- Rounding up may give one bit more.
    let (m, e) := if m = Nat.pow 2 53 then (Nat.pow 2 52, e + 1) else (m, e)
    if 971 < e then .infinite negative else .finite negative m e

/-- The double nearest to the number with the given digits times a power of ten. -/
def ofDecimal (negative : Bool) (digits : List Char) (exponent : Int) : Double :=
  let n := Decimal.value digits
  if n = 0 then .finite negative 0 (-1074)
  else if 400 < exponent then .infinite negative
  else if exponent < -(400 + digits.length : Int) then .finite negative 0 (-1074)
  else
    match exponent with
    | .ofNat e => ofQuotient negative (n * Nat.pow 10 e) 1
    | .negSucc e => ofQuotient negative n (Nat.pow 10 (e + 1))

/-! ## Shortest decimals -/

/-- Whether `n / d` rounds to the finite double `m * 2 ^ e` with `m` above zero. -/
def roundsTo (m : Nat) (e : Int) (n d : Nat) : Bool :=
  ofQuotient false n d = .finite false m e

/-- The decimal `c * 10 ^ p` as a quotient. -/
def decimalQuotient (c : Nat) (p : Int) : Nat × Nat :=
  match p with
  | .ofNat p => (c * Nat.pow 10 p, 1)
  | .negSucc p => (c, Nat.pow 10 (p + 1))

/-- The distance of two quotients, over the product of their denominators. -/
def distance (n d n' d' : Nat) : Nat :=
  if n * d' ≤ n' * d then n' * d - n * d' else n * d' - n' * d

/-- The multiple of `10 ^ p` next to `n / d` that rounds to `m * 2 ^ e`, the
nearer one if both neighbours do, and of two equally near the greater one. -/
def onGrid? (m : Nat) (e : Int) (n d : Nat) (p : Int) : Option Nat :=
  let (a, b) := decimalQuotient 1 p
  let low := n * b / (d * a)
  let (n₁, d₁) := decimalQuotient low p
  let (n₂, d₂) := decimalQuotient (low + 1) p
  match decide (0 < low) && roundsTo m e n₁ d₁, roundsTo m e n₂ d₂ with
  | false, false => none
  | true, false => some low
  | false, true => some (low + 1)
  | true, true =>
    if distance n d n₁ d₁ < distance n d n₂ d₂ then some low else some (low + 1)

/-- The exponent of the leading decimal digit of `n / d`. -/
def decimalTop (n d : Nat) : Int :=
  let guess : Int := ((Decimal.digits n).length : Int) - (Decimal.digits d).length
  let (a, b) := decimalQuotient 1 guess
  if n * b < a * d then guess - 1 else guess

/-- Digits and exponent of the shortest decimal that rounds to `m * 2 ^ e`,
trying `count` digits and then up to `fuel` more. -/
def shortestFrom (m : Nat) (e : Int) (n d : Nat) (top : Int) (count : Nat) : Nat → Nat × Int
  | 0 => (n / d, 0)
  | fuel + 1 =>
    let p := top - count + 1
    match onGrid? m e n d p with
    | some c => (c, p)
    | none => shortestFrom m e n d top (count + 1) fuel

/-- Seventeen digits tell all doubles apart. -/
def shortest (m : Nat) (e : Int) : Nat × Int :=
  let (n, d) := scaled m e
  shortestFrom m e n d (decimalTop n d) 1 17

/-- A decimal without exponent, with at least one digit on both sides of the point. -/
def positional (c : Nat) (p : Int) : List Char :=
  let ds := Decimal.digits c
  match p with
  | .ofNat p => ds ++ List.replicate p '0' ++ ['.', '0']
  | .negSucc p =>
    let places := p + 1
    let padded := List.replicate (places + 1 - ds.length) '0' ++ ds
    padded.take (padded.length - places) ++ '.' :: padded.drop (padded.length - places)

def text : Double → List Char
  | nan => "NaN".toList
  | infinite negative => (if negative then ['-'] else []) ++ "inf".toList
  | finite negative m e =>
    (if negative then ['-'] else []) ++
      if m = 0 then "0.0".toList
      else
        let (c, p) := shortest m e
        positional c p

example : (ofDecimal false "15".toList (-1)).text = "1.5".toList := by decide +kernel
example : (ofDecimal false "70368744177703125".toList (-3)).text = "70368744177703.13".toList := by
  decide +kernel

end Double

end SymbolOutline
