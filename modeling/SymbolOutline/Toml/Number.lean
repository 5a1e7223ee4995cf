import SymbolOutline.Toml.Text
import SymbolOutline.Toml.Value

/-!
# Numbers, dates and times of TOML

`number?` and `dateTime?` take a value off the front of a text. Integers have
64 bits. A float too large for a double is refused if it is positive and
infinite if it is negative.
-/

namespace SymbolOutline.Toml

open Decimal (isDigit)

/-! ## Numbers -/

/-- Digits, each but the first with or without an underscore before it; the
digits are returned without them. -/
def digitsMore (isDigit : Char → Bool) : List Char → List Char × List Char
  | '_' :: d :: rest =>
    if isDigit d then
      let (ds, rest) := digitsMore isDigit rest
      (d :: ds, rest)
    else ([], '_' :: d :: rest)
  | d :: rest =>
    if isDigit d then
      let (ds, rest) := digitsMore isDigit rest
      (d :: ds, rest)
    else ([], d :: rest)
  | [] => ([], [])

def digits? (isDigit : Char → Bool) : List Char → Option (List Char × List Char)
  | d :: rest =>
    if isDigit d then
      let (ds, rest) := digitsMore isDigit rest
      some (d :: ds, rest)
    else none
  | [] => none

/-- Decimal digits where a leading zero stands alone. -/
def wholeDigits? : List Char → Option (List Char × List Char)
  | '0' :: rest => some (['0'], rest)
  | text => digits? isDigit text

/-- Whether the text starts with a minus sign, and the text after a sign. -/
def sign : List Char → Bool × List Char
  | '-' :: rest => (true, rest)
  | '+' :: rest => (false, rest)
  | text => (false, text)

def fitsInt64 (i : Int) : Bool := -Int.pow 2 63 ≤ i && i < Int.pow 2 63

def ofDigits (base : Nat) (ds : List Char) : Nat :=
  ds.foldl (fun n d => base * n + (Hex.value? d).getD 0) 0

def integerOf? (i : Int) (rest : List Char) : Option (Scalar × List Char) :=
  if fitsInt64 i then some (.integer i, rest) else none

/-- An integer in another base than ten, after its first two characters. -/
def baseInteger? (base : Nat) (text : List Char) : Option (Scalar × List Char) :=
  match digits? (fun c => (Hex.value? c).any (· < base)) text with
  | some (ds, rest) => integerOf? (ofDigits base ds) rest
  | none => none

/-- The digits after a point, if there is one. -/
def fraction? : List Char → Option (Option (List Char) × List Char)
  | '.' :: rest => (digits? isDigit rest).map fun (ds, rest) => (some ds, rest)
  | text => some (none, text)

/-- The exponent, if there is one. -/
def exponent? : List Char → Option (Option Int × List Char)
  | [] => some (none, [])
  | c :: rest =>
    if c = 'e' ∨ c = 'E' then
      let (negative, rest) := sign rest
      match digits? isDigit rest with
      | some (ds, rest) =>
        let e : Int := Decimal.value ds
        some (some (if negative then -e else e), rest)
      | none => none
    else some (none, c :: rest)

def floatOf? (x : Double) (rest : List Char) : Option (Scalar × List Char) :=
  if x = .infinite false then none else some (.float x, rest)

/-- A number in decimal digits, after its sign. -/
def decimal? (negative : Bool) (text : List Char) : Option (Scalar × List Char) :=
  match wholeDigits? text with
  | none => none
  | some (ds, rest) =>
    match fraction? rest with
    | none => none
    | some (frac, rest) =>
      match exponent? rest with
      | none => none
      | some (none, rest) =>
        match frac with
        | none =>
          let n : Int := Decimal.value ds
          integerOf? (if negative then -n else n) rest
        | some frac => floatOf? (.ofDecimal negative (ds ++ frac) (-frac.length)) rest
      | some (some e, rest) =>
        let frac := frac.getD []
        floatOf? (.ofDecimal negative (ds ++ frac) (e - frac.length)) rest

def number? : List Char → Option (Scalar × List Char)
  | '0' :: 'x' :: rest => baseInteger? 16 rest
  | '0' :: 'o' :: rest => baseInteger? 8 rest
  | '0' :: 'b' :: rest => baseInteger? 2 rest
  | text =>
    match sign text with
    | (negative, 'i' :: 'n' :: 'f' :: rest) => some (.float (.infinite negative), rest)
    | (_, 'n' :: 'a' :: 'n' :: rest) => some (.float .nan, rest)
    | (negative, rest) => decimal? negative rest

/-! ## Dates and times -/

/-- A number of exactly so many digits within bounds. -/
def field? (count low high : Nat) (text : List Char) : Option (Nat × List Char) :=
  let ds := text.take count
  if ds.length = count ∧ ds.all isDigit then
    let n := Decimal.value ds
    if low ≤ n ∧ n ≤ high then some (n, text.drop count) else none
  else none

/-- The text after a given character. -/
def after? (c : Char) : List Char → Option (List Char)
  | d :: rest => if d = c then some rest else none
  | [] => none

def daysOfMonth (year month : Nat) : Nat :=
  if month = 2 then
    if year % 4 = 0 ∧ (year % 100 ≠ 0 ∨ year % 400 = 0) then 29 else 28
  else if month ∈ [4, 6, 9, 11] then 30
  else 31

/-- The text after a date. -/
def date? (text : List Char) : Option (List Char) := do
  let (year, rest) ← field? 4 0 9999 text
  let rest ← after? '-' rest
  let (month, rest) ← field? 2 1 12 rest
  let rest ← after? '-' rest
  let (_, rest) ← field? 2 1 (daysOfMonth year month) rest
  return rest

/-- The text after a fraction of a second, if there is one. -/
def skipFraction : List Char → List Char
  | '.' :: d :: rest => if isDigit d then rest.dropWhile isDigit else '.' :: d :: rest
  | text => text

/-- The text after a time of day. -/
def time? (text : List Char) : Option (List Char) := do
  let (_, rest) ← field? 2 0 23 text
  let rest ← after? ':' rest
  let (_, rest) ← field? 2 0 59 rest
  let rest ← after? ':' rest
  let (_, rest) ← field? 2 0 60 rest
  return skipFraction rest

/-- The text after a distance from universal time. -/
def offset? : List Char → Option (List Char)
  | [] => none
  | c :: rest =>
    if c = 'Z' ∨ c = 'z' then some rest
    else if c = '+' ∨ c = '-' then do
      let (_, rest) ← field? 2 0 23 rest
      let rest ← after? ':' rest
      let (_, rest) ← field? 2 0 59 rest
      return rest
    else none

/-- The text after the time that may follow a date. -/
def skipTime : List Char → List Char
  | [] => []
  | c :: rest =>
    if c = 'T' ∨ c = 't' ∨ c = ' ' then
      match time? rest with
      | some rest => (offset? rest).getD rest
      | none => c :: rest
    else c :: rest

/-- The text after a date, a time or both. -/
def dateTime? (text : List Char) : Option (List Char) :=
  match date? text with
  | some rest => some (skipTime rest)
  | none => time? text

end SymbolOutline.Toml
