/-!
# Punycode

`Punycode.decode?` reads a label that was written in ASCII: basic characters
first, then for each other character its code point and place as one number in
base 36, whose digits carry weights that adapt to the numbers before.
-/

namespace SymbolOutline.Url.Punycode

def digit? (c : Char) : Option Nat :=
  if 'a' ≤ c ∧ c ≤ 'z' then some (c.toNat - 97)
  else if 'A' ≤ c ∧ c ≤ 'Z' then some (c.toNat - 65)
  else if '0' ≤ c ∧ c ≤ '9' then some (c.toNat - 22)
  else none

/-- Digits below the threshold end a number. -/
def threshold (k bias : Nat) : Nat := max 1 (min 26 (k - bias))

/-- Divides down to a small delta, counting up `k`. -/
def adaptFrom (delta k : Nat) : Nat :=
  if delta ≤ 455 then k + 36 * delta / (delta + 38) else adaptFrom (delta / 35) (k + 36)

/-- The bias after a number, when there are `points` characters. -/
def adapt (delta points : Nat) (first : Bool) : Nat :=
  let delta := if first then delta / 700 else delta / 2
  adaptFrom (delta + delta / points) 0

structure State where
  /-- The last code point, and where the next character goes. -/
  code : Nat := 128
  index : Nat := 0
  bias : Nat := 72
  /-- The number being read, its next weight and the position of its digit. -/
  delta : Nat := 0
  weight : Nat := 1
  k : Nat := 36
  text : List Char

def State.digit? (s : State) (d : Nat) : Option State :=
  let t := threshold s.k s.bias
  let delta := s.delta + d * s.weight
  if t ≤ d then some { s with delta, weight := s.weight * (36 - t), k := s.k + 36 }
  else
    let points := s.text.length + 1
    let place := s.index + delta
    let code := s.code + place / points
    let index := place % points
    if code.isValidChar then
      some
        { code, index := index + 1, bias := adapt delta points (s.index = 0)
          text := s.text.take index ++ Char.ofNat code :: s.text.drop index }
    else none

/-- The basic characters of a label, and what follows its last hyphen. -/
def parts (label : List Char) : List Char × List Char :=
  let tail := (label.reverse.takeWhile (· ≠ '-')).reverse
  match (label.take (label.length - tail.length)).dropLast with
  | [] => ([], if label.length = tail.length then tail else label)
  | basic => (basic, tail)

def decode? (label : List Char) : Option (List Char) := do
  let (basic, tail) := parts label
  let digits ← tail.mapM Punycode.digit?
  let s ← digits.foldlM State.digit? { text := basic }
  if s.k = 36 then some s.text else none

example : decode? "4ca0bs".toList = some "äöü".toList := by decide +kernel
example : decode? "bcher-kva".toList = some "bücher".toList := by decide +kernel

end SymbolOutline.Url.Punycode
