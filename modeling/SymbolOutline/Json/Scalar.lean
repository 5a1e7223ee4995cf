import SymbolOutline.Json.Error
import SymbolOutline.Json.Value
import SymbolOutline.Numeric.Binary64
import SymbolOutline.Text.Hex

/-!
# Strings, numbers and words of JSON

`Scalar.string`, `Scalar.number` and `Scalar.word` read one value off the
front of a text and return it with what is left.
-/

namespace SymbolOutline.Json.Scalar

open Decimal (isDigit digitValue)

/-! ## Words -/

/-- The text after the rest of a word. -/
def word : List Char → List Char → Except ReadError (List Char)
  | [], text => .ok text
  | _ :: _, [] => .error ⟨.valueEnd, .textEnd⟩
  | w :: ws, c :: text => if c = w then word ws text else .error (.here .expectedWord (c :: text))

/-! ## Strings -/

/-- The number four hexadecimal digits stand for. -/
def codeUnit? : List Char → Option (Nat × List Char)
  | a :: b :: c :: d :: rest => do
    let a ← Hex.value? a
    let b ← Hex.value? b
    let c ← Hex.value? c
    let d ← Hex.value? d
    return (4096 * a + 256 * b + 16 * c + d, rest)
  | _ => none

/-- Four hexadecimal digits. They are judged together, once four bytes are there. -/
def codeUnit (text : List Char) : Except ReadError (Nat × List Char) :=
  match codeUnit? text with
  | some found => .ok found
  | none =>
    if utf8Length text < 4 then .error ⟨.stringEnd, .textEnd⟩
    else .error ⟨.invalidEscape, text, 4⟩

/-- The last byte of the digits that end before the text. -/
def afterDigits (fault : Fault) (rest : List Char) : ReadError := ⟨fault, rest, 0⟩

/-- The character of an escape that starts with `\u`: one code unit, or a
surrogate pair written as two. -/
def unicodeEscape (text : List Char) : Except ReadError (Char × List Char) :=
  match codeUnit text with
  | .error e => .error e
  | .ok (unit, rest) =>
    if 0xDC00 ≤ unit ∧ unit ≤ 0xDFFF then .error (afterDigits .loneSurrogate rest)
    else if 0xD800 ≤ unit ∧ unit ≤ 0xDBFF then
      match rest with
      | [] => .error ⟨.stringEnd, .textEnd⟩
      | '\\' :: 'u' :: second =>
        match codeUnit second with
        | .error e => .error e
        | .ok (low, rest) =>
          if 0xDC00 ≤ low ∧ low ≤ 0xDFFF then
            .ok (Char.ofNat (0x10000 + (unit - 0xD800) * 1024 + (low - 0xDC00)), rest)
          else .error (afterDigits .loneSurrogate rest)
      | ['\\'] => .error ⟨.stringEnd, .textEnd⟩
      | '\\' :: rest => .error (.here .halfPair rest)
      | rest => .error (.here .halfPair rest)
    else .ok (Char.ofNat unit, rest)

/-- The character of an escape, after its backslash. -/
def escape : List Char → Except ReadError (Char × List Char)
  | [] => .error ⟨.stringEnd, .textEnd⟩
  | '"' :: rest => .ok ('"', rest)
  | '\\' :: rest => .ok ('\\', rest)
  | '/' :: rest => .ok ('/', rest)
  | 'b' :: rest => .ok ('\x08', rest)
  | 'f' :: rest => .ok ('\x0c', rest)
  | 'n' :: rest => .ok ('\n', rest)
  | 'r' :: rest => .ok ('\r', rest)
  | 't' :: rest => .ok ('\t', rest)
  | 'u' :: rest => unicodeEscape rest
  | text => .error (.here .invalidEscape text)

theorem length_of_codeUnit {text rest : List Char} {n : Nat}
    (h : codeUnit text = .ok (n, rest)) : rest.length < text.length := by
  unfold codeUnit codeUnit? at h
  split at h
  · next found he =>
    split at he
    · simp only [Option.bind_eq_bind, Option.bind_eq_some_iff, Option.pure_def,
        Option.some.injEq] at he
      obtain ⟨_, _, _, _, _, _, _, _, rfl⟩ := he
      obtain ⟨-, rfl⟩ : _ ∧ _ = rest := by simpa using h
      simp; omega
    · simp at he
  · split at h <;> simp at h

theorem length_of_unicodeEscape {text rest : List Char} {c : Char}
    (h : unicodeEscape text = .ok (c, rest)) : rest.length < text.length := by
  unfold unicodeEscape at h
  split at h
  · simp at h
  · next unit rest' hu =>
    have := length_of_codeUnit hu
    repeat' split at h
    all_goals try simp at h
    · next second low rest'' hl _ =>
      have := length_of_codeUnit hl
      obtain ⟨-, rfl⟩ := h
      simp at *; omega
    · obtain ⟨-, rfl⟩ := h
      exact this

theorem length_of_escape {text rest : List Char} {c : Char}
    (h : escape text = .ok (c, rest)) : rest.length < text.length := by
  unfold escape at h
  split at h
  case h_10 => have := length_of_unicodeEscape h; simp; omega
  all_goals first | (simp at h; done) | (simp at h; obtain ⟨-, rfl⟩ := h; simp)

/-- The string that starts with `read`, newest character first, and goes on
with the text up to the closing quote. -/
def stringFrom (read : List Char) : List Char → Except ReadError (String × List Char)
  | [] => .error ⟨.stringEnd, .textEnd⟩
  | c :: rest =>
    if c = '"' then .ok (String.ofList read.reverse, rest)
    else if c = '\\' then
      match _h : escape rest with
      | .error e => .error e
      | .ok (c, rest) => stringFrom (c :: read) rest
    else if c < ' ' then .error (.here .controlCharacter (c :: rest))
    else stringFrom (c :: read) rest
termination_by text => text.length
decreasing_by
  · have := length_of_escape _h; simp; omega
  · simp

/-- The string after its opening quote. -/
def string (text : List Char) : Except ReadError (String × List Char) := stringFrom [] text

theorem length_of_stringFrom {read text rest : List Char} {s : String}
    (h : stringFrom read text = .ok (s, rest)) : rest.length < text.length := by
  fun_induction stringFrom read text with
  | case1 => simp at h
  | case2 => simp at h; simp [h]
  | case3 => simp at h
  | case4 read rest' c rest'' he _ ih =>
    have := ih h
    have := length_of_escape he
    simp; omega
  | case5 => simp at h
  | case6 read c rest' _ _ _ ih => have := ih h; simp; omega

/-! ## Numbers -/

/-- The digits before the point. A leading zero stands alone. -/
def whole : List Char → Except ReadError (List Char × List Char)
  | [] => .error ⟨.valueEnd, .textEnd⟩
  | '0' :: rest =>
    match rest with
    | [] => .ok (['0'], [])
    | d :: _ => if isDigit d then .error (.here .invalidNumber rest) else .ok (['0'], rest)
  | c :: rest =>
    if isDigit c then .ok (c :: rest.takeWhile isDigit, rest.dropWhile isDigit)
    else .error (.here .invalidNumber (c :: rest))

/-- One digit or more. -/
def digits : List Char → Except ReadError (List Char × List Char)
  | [] => .error ⟨.valueEnd, .textEnd⟩
  | c :: rest =>
    if isDigit c then .ok (c :: rest.takeWhile isDigit, rest.dropWhile isDigit)
    else .error (.here .invalidNumber (c :: rest))

/-- The digits after the point, if there is one. -/
def fraction : List Char → Except ReadError (Option (List Char) × List Char)
  | '.' :: rest => (digits rest).map fun (ds, rest) => (some ds, rest)
  | text => .ok (none, text)

/-- An exponent as written. -/
structure Exponent where
  negative : Bool
  /-- The text from the first digit on. -/
  text : List Char
  digits : List Char

def exponentDigits (negative : Bool) (text : List Char) :
    Except ReadError (Option Exponent × List Char) :=
  (digits text).map fun (ds, rest) => (some ⟨negative, text, ds⟩, rest)

/-- The exponent, if there is one. -/
def exponent : List Char → Except ReadError (Option Exponent × List Char)
  | [] => .ok (none, [])
  | c :: rest =>
    if c = 'e' ∨ c = 'E' then
      match rest with
      | '+' :: rest => exponentDigits false rest
      | '-' :: rest => exponentDigits true rest
      | rest => exponentDigits false rest
    else .ok (none, c :: rest)

/-- The part of a numeral that fits 64 bits, and the power of ten it is worth. -/
structure Significand where
  value : Nat
  exponent : Int

/-- Digits before the point. From the first one that does not fit, each counts
as a power of ten. -/
def Significand.ofWhole (value : Nat) : List Char → Significand
  | [] => ⟨value, 0⟩
  | d :: ds =>
    if 10 * value + digitValue d < Nat.pow 2 64 then ofWhole (10 * value + digitValue d) ds
    else ⟨value, (d :: ds).length⟩

/-- Digits after the point. From the first one that does not fit, none counts. -/
def Significand.addFraction (s : Significand) : List Char → Significand
  | [] => s
  | d :: ds =>
    if 10 * s.value + digitValue d < Nat.pow 2 64 then
      addFraction ⟨10 * s.value + digitValue d, s.exponent - 1⟩ ds
    else s

/-- The text after the digit that takes an exponent beyond 31 bits. -/
def tooManyDigits? (value : Nat) : List Char → Option (List Char)
  | [] => none
  | d :: rest =>
    if isDigit d then
      if Nat.pow 2 31 ≤ 10 * value + digitValue d then some rest
      else tooManyDigits? (10 * value + digitValue d) rest
    else none

/-- Whether a significand times a power of ten is too large for a double. Both
are rounded to doubles before they are multiplied. -/
def overflows (value : Nat) (exponent : Int) : Bool :=
  value ≠ 0 && match exponent with
    | .negSucc _ => false
    | .ofNat e => 308 < e || Binary64.infinite ≤ Binary64.nearest value * Binary64.nearest (Nat.pow 10 e)

/-- A numeral with neither fraction nor exponent, if it fits 64 bits. There is
no integer zero with a minus sign. -/
def integer? (negative : Bool) (s : Significand) : Option Int :=
  if s.exponent ≠ 0 then none
  else if negative then
    if 0 < s.value ∧ s.value ≤ Nat.pow 2 63 then some (-s.value) else none
  else some s.value

def signed (negative : Bool) (n : Nat) : Int := if negative then -n else n

/-- The number a numeral stands for; `rest` is the text after it. -/
def numberOf (negative : Bool) (wholePart : List Char) (fractionPart : Option (List Char))
    (exponentPart : Option Exponent) (rest : List Char) : Except ReadError Number :=
  let s := Significand.ofWhole 0 wholePart
  match fractionPart, exponentPart with
  | none, none =>
    match integer? negative s with
    | some i => .ok (.integer i)
    | none =>
      if overflows s.value s.exponent then .error ⟨.numberRange, rest, 0⟩
      else .ok (.real (signed negative s.value) s.exponent)
  | _, none =>
    let s := s.addFraction (fractionPart.getD [])
    if overflows s.value s.exponent then .error ⟨.numberRange, rest, 0⟩
    else .ok (.real (signed negative s.value) s.exponent)
  | _, some e =>
    let s := s.addFraction (fractionPart.getD [])
    match tooManyDigits? 0 e.text with
    | some after =>
      if s.value ≠ 0 ∧ e.negative = false then .error ⟨.numberRange, after, 0⟩
      else .ok (.real 0 0)
    | none =>
      let power := s.exponent + signed e.negative (Decimal.value e.digits)
      if overflows s.value power then .error ⟨.numberRange, rest, 0⟩
      else .ok (.real (signed negative s.value) power)

def unsigned (negative : Bool) (text : List Char) : Except ReadError (Number × List Char) :=
  match whole text with
  | .error e => .error e
  | .ok (wholePart, text) =>
    match fraction text with
    | .error e => .error e
    | .ok (fractionPart, text) =>
      match exponent text with
      | .error e => .error e
      | .ok (exponentPart, text) =>
        (numberOf negative wholePart fractionPart exponentPart text).map (·, text)

/-- A number. -/
def number : List Char → Except ReadError (Number × List Char)
  | '-' :: text => unsigned true text
  | text => unsigned false text

/-! ## Readers go forward -/

theorem length_of_word {w text rest : List Char} (h : word w text = .ok rest) :
    rest.length ≤ text.length := by
  induction w generalizing text with
  | nil => simp [word] at h; simp [h]
  | cons c w ih =>
    cases text with
    | nil => simp [word] at h
    | cons d text =>
      simp only [word] at h
      split at h
      · have := ih h; simp; omega
      · simp at h

theorem length_dropWhile_le (p : Char → Bool) (text : List Char) :
    (text.dropWhile p).length ≤ text.length :=
  (List.dropWhile_sublist p).length_le

theorem length_of_digits {text ds rest : List Char} (h : digits text = .ok (ds, rest)) :
    rest.length < text.length := by
  unfold digits at h
  split at h
  · simp at h
  · next c rest' =>
    split at h
    · simp at h
      have := length_dropWhile_le isDigit rest'
      obtain ⟨-, rfl⟩ := h
      simp; omega
    · simp at h

theorem length_of_whole {text ds rest : List Char} (h : whole text = .ok (ds, rest)) :
    rest.length < text.length := by
  unfold whole at h
  split at h
  · simp at h
  · split at h
    · simp at h; simp [h.2]
    · split at h
      · simp at h
      · simp at h; simp [← h.2]
  · next c rest' _ =>
    split at h
    · simp at h
      have := length_dropWhile_le isDigit rest'
      obtain ⟨-, rfl⟩ := h
      simp; omega
    · simp at h

theorem length_of_fraction {text rest : List Char} {ds : Option (List Char)}
    (h : fraction text = .ok (ds, rest)) : rest.length ≤ text.length := by
  unfold fraction at h
  split at h
  · next rest' =>
    cases hd : digits rest' with
    | error e => simp [hd, Except.map] at h
    | ok found =>
      obtain ⟨ds', rest''⟩ := found
      simp [hd, Except.map] at h
      have := length_of_digits hd
      obtain ⟨-, rfl⟩ := h
      simp; omega
  · simp at h; simp [h]

theorem length_of_exponentDigits {negative : Bool} {text rest : List Char} {e : Option Exponent}
    (h : exponentDigits negative text = .ok (e, rest)) : rest.length < text.length := by
  unfold exponentDigits at h
  cases hd : digits text with
  | error e => simp [hd, Except.map] at h
  | ok found =>
    obtain ⟨ds', rest''⟩ := found
    simp [hd, Except.map] at h
    have := length_of_digits hd
    obtain ⟨-, rfl⟩ := h
    omega

theorem length_of_exponent {text rest : List Char} {e : Option Exponent}
    (h : exponent text = .ok (e, rest)) : rest.length ≤ text.length := by
  unfold exponent at h
  split at h
  · simp at h; simp [h]
  · split at h
    · split at h <;>
        · have := length_of_exponentDigits h
          simp at *
          omega
    · simp at h; simp [h]

theorem length_of_unsigned {negative : Bool} {text rest : List Char} {n : Number}
    (h : unsigned negative text = .ok (n, rest)) : rest.length < text.length := by
  unfold unsigned at h
  split at h
  · simp at h
  · next hw =>
    split at h
    · simp at h
    · next hf =>
      split at h
      · simp at h
      · next exponentPart text' he =>
        have := length_of_whole hw
        have := length_of_fraction hf
        have := length_of_exponent he
        generalize numberOf _ _ _ _ _ = found at h
        cases found with
        | error e => simp [Except.map] at h
        | ok n => simp [Except.map] at h; obtain ⟨-, rfl⟩ := h; omega

theorem length_of_number {text rest : List Char} {n : Number}
    (h : number text = .ok (n, rest)) : rest.length < text.length := by
  unfold number at h
  split at h
  · have := length_of_unsigned h; simp; omega
  · exact length_of_unsigned h

end SymbolOutline.Json.Scalar
