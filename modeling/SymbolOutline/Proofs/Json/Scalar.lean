import SymbolOutline.Json.Scalar
import SymbolOutline.Json.Writer

/-!
# Reading back strings and integers

`Scalar.string` undoes the escapes of `quote`, character by character
(`stringFrom_escapeChar`). `Scalar.number` reads the digits of an integer up
to a text that does not go on with them (`NumberEnds`), if it fits 64 bits.
-/

namespace SymbolOutline

namespace Decimal

theorem le_valueFrom (n : Nat) (text : List Char) : n ≤ valueFrom n text := by
  induction text generalizing n with
  | nil => exact Nat.le_refl n
  | cons c text ih =>
    have h := ih (10 * n + digitValue c)
    rw [valueFrom, List.foldl_cons]
    rw [valueFrom] at h
    omega

end Decimal

namespace Json.Scalar

open Decimal (isDigit)

/-! ## Strings -/

theorem stringFrom_quote (read rest : List Char) :
    stringFrom read ('"' :: rest) = .ok (String.ofList read.reverse, rest) := by
  rw [stringFrom, if_pos rfl]

theorem stringFrom_plain {c : Char} (hq : c ≠ '"') (hb : c ≠ '\\') (hc : ¬c < ' ')
    (read rest : List Char) : stringFrom read (c :: rest) = stringFrom (c :: read) rest := by
  rw [stringFrom, if_neg hq, if_neg hb, if_neg hc]

theorem stringFrom_escape {c : Char} {text rest : List Char} (h : escape text = .ok (c, rest))
    (read : List Char) : stringFrom read ('\\' :: text) = stringFrom (c :: read) rest := by
  rw [stringFrom, if_neg (by decide), if_pos rfl]
  split
  · next he => rw [h] at he; cases he
  · next he => rw [h] at he; cases he; rfl

theorem codeUnit_digits {n : Nat} (h : n < 32) (rest : List Char) :
    codeUnit ('0' :: '0' :: Hex.digit (n / 16) :: Hex.digit (n % 16) :: rest) = .ok (n, rest) := by
  have hzero : Hex.value? '0' = some 0 := by decide
  have hhigh := Hex.value?_digit (n := n / 16) (by omega)
  have hlow := Hex.value?_digit (n := n % 16) (by omega)
  have hsum : 4096 * 0 + 256 * 0 + 16 * (n / 16) + n % 16 = n := by omega
  have hunit : codeUnit? ('0' :: '0' :: Hex.digit (n / 16) :: Hex.digit (n % 16) :: rest)
      = some (n, rest) := by
    simp only [codeUnit?, hzero, hhigh, hlow, Option.bind_eq_bind, Option.bind_some,
      Option.pure_def, hsum]
  rw [codeUnit, hunit]

theorem escape_control {c : Char} (h : c < ' ') (rest : List Char) :
    escape ('u' :: '0' :: '0' :: Hex.digit (c.toNat / 16) :: Hex.digit (c.toNat % 16) :: rest)
      = .ok (c, rest) := by
  have hn : c.toNat < 32 := h
  rw [escape, unicodeEscape, codeUnit_digits hn]
  simp only
  rw [if_neg (by omega), if_neg (by omega), Char.ofNat_toNat]

/-- An escaped character is read as one character. -/
theorem stringFrom_escapeChar (c : Char) (read rest : List Char) :
    stringFrom read (escapeChar c ++ rest) = stringFrom (c :: read) rest := by
  rw [escapeChar]
  split
  · next h => subst h; exact stringFrom_escape rfl read
  split
  · next h => subst h; exact stringFrom_escape rfl read
  split
  · next h => subst h; exact stringFrom_escape rfl read
  split
  · next h => subst h; exact stringFrom_escape rfl read
  split
  · next h => subst h; exact stringFrom_escape rfl read
  split
  · next h => subst h; exact stringFrom_escape rfl read
  split
  · next h => subst h; exact stringFrom_escape rfl read
  split
  · next h => exact stringFrom_escape (escape_control h rest) read
  · next hq hb _ _ _ _ _ hc => exact stringFrom_plain hq hb hc read rest

theorem stringFrom_flatMap (s read rest : List Char) :
    stringFrom read (s.flatMap escapeChar ++ '"' :: rest)
      = .ok (String.ofList (read.reverse ++ s), rest) := by
  induction s generalizing read with
  | nil => rw [List.append_nil]; exact stringFrom_quote read rest
  | cons c s ih =>
    rw [List.flatMap_cons, List.append_assoc, stringFrom_escapeChar, ih, List.reverse_cons,
      List.append_assoc]
    rfl

/-- What is between the quotes is read as it was written. -/
theorem string_quoted (s : String) (rest : List Char) :
    string (s.toList.flatMap escapeChar ++ '"' :: rest) = .ok (s, rest) := by
  rw [string, stringFrom_flatMap, List.reverse_nil, List.nil_append, String.ofList_toList]

/-! ## Integers -/

/-- The text does not go on with a number. -/
def NumberEnds (text : List Char) : Prop :=
  ∀ c ∈ text.head?, isDigit c = false ∧ c ≠ '.' ∧ c ≠ 'e' ∧ c ≠ 'E'

theorem numberEnds_cons {c : Char} (h : isDigit c = false ∧ c ≠ '.' ∧ c ≠ 'e' ∧ c ≠ 'E')
    (rest : List Char) : NumberEnds (c :: rest) := by
  intro d hd
  obtain rfl := Option.some.inj hd
  exact h

theorem takeWhile_digits {ds rest : List Char} (hds : ∀ c ∈ ds, isDigit c) (h : NumberEnds rest) :
    (ds ++ rest).takeWhile isDigit = ds ∧ (ds ++ rest).dropWhile isDigit = rest := by
  rw [List.takeWhile_append_of_pos hds, List.dropWhile_append_of_pos hds]
  cases rest with
  | nil => exact ⟨by rw [List.takeWhile_nil, List.append_nil], rfl⟩
  | cons c rest =>
    have hc : ¬isDigit c := by rw [(h c rfl).1]; exact Bool.false_ne_true
    rw [List.takeWhile_cons_of_neg hc, List.dropWhile_cons_of_neg hc, List.append_nil]
    exact ⟨rfl, rfl⟩

theorem whole_digits (n : Nat) {rest : List Char} (h : NumberEnds rest) :
    whole (Decimal.digits n ++ rest) = .ok (Decimal.digits n, rest) := by
  rcases Nat.eq_zero_or_pos n with rfl | hn
  · have hzero : Decimal.digits 0 = ['0'] := by rw [Decimal.digits]; rfl
    rw [hzero]
    cases rest with
    | nil => rfl
    | cons c rest => simp [whole, (h c rfl).1]
  · obtain ⟨d, ds, hds, hd, hne⟩ := Decimal.digits_eq_cons n
    have hall : ∀ c ∈ ds, isDigit c := fun c hc =>
      Decimal.isDigit_of_mem_digits (n := n) (by rw [hds]; exact List.mem_cons_of_mem d hc)
    obtain ⟨htake, hdrop⟩ := takeWhile_digits hall h
    rw [hds, List.cons_append, whole]
    · rw [if_pos hd, htake, hdrop]
    · exact fun hzero => hne hn hzero

theorem ofWhole_eq {value : Nat} {ds : List Char} (h : Decimal.valueFrom value ds < Nat.pow 2 64) :
    Significand.ofWhole value ds = ⟨Decimal.valueFrom value ds, 0⟩ := by
  induction ds generalizing value with
  | nil => rfl
  | cons d ds ih =>
    have hstep : Decimal.valueFrom value (d :: ds)
        = Decimal.valueFrom (10 * value + Decimal.digitValue d) ds := rfl
    rw [hstep] at h ⊢
    have hle := Decimal.le_valueFrom (10 * value + Decimal.digitValue d) ds
    rw [Significand.ofWhole, if_pos (Nat.lt_of_le_of_lt hle h), ih h]

theorem ofWhole_digits {n : Nat} (h : n < Nat.pow 2 64) :
    Significand.ofWhole 0 (Decimal.digits n) = ⟨n, 0⟩ := by
  have hvalue : Decimal.valueFrom 0 (Decimal.digits n) = n := Decimal.value_digits n
  rw [ofWhole_eq (by rwa [hvalue]), hvalue]

theorem unsigned_digits {negative : Bool} {n : Nat} {i : Int} {rest : List Char}
    (hn : n < Nat.pow 2 64) (hi : integer? negative ⟨n, 0⟩ = some i) (h : NumberEnds rest) :
    unsigned negative (Decimal.digits n ++ rest) = .ok (.integer i, rest) := by
  have hfraction : fraction rest = .ok (none, rest) := by
    cases rest with
    | nil => rfl
    | cons c rest =>
      rw [fraction]
      exact fun _ hdot => (h c rfl).2.1 (List.cons.inj hdot).1
  have hexponent : exponent rest = .ok (none, rest) := by
    cases rest with
    | nil => rfl
    | cons c rest =>
      obtain ⟨-, -, he, hE⟩ := h c rfl
      simp only [exponent, if_neg (not_or.mpr ⟨he, hE⟩)]
  simp only [unsigned, whole_digits n h, hfraction, hexponent, numberOf, ofWhole_digits hn, hi,
    Except.map]

/-- The integers that are read as integers: those of 64 bits, with or without a sign. -/
def IsWord (i : Int) : Prop := -Int.pow 2 63 ≤ i ∧ i < Int.pow 2 64

theorem number_digitsInt {i : Int} (hi : IsWord i) {rest : List Char} (h : NumberEnds rest) :
    number (Decimal.digitsInt i ++ rest) = .ok (.integer i, rest) := by
  obtain ⟨hlow, hhigh⟩ := hi
  cases i with
  | ofNat n =>
    have hn : n < Nat.pow 2 64 := Int.ofNat_lt.mp hhigh
    obtain ⟨d, ds, hds, hd, -⟩ := Decimal.digits_eq_cons n
    have hint : integer? false ⟨n, 0⟩ = some (Int.ofNat n) := rfl
    have hread := unsigned_digits hn hint h
    rw [Decimal.digitsInt, hds, List.cons_append, number, ← List.cons_append, ← hds, hread]
    intro _ hminus
    rw [(List.cons.inj hminus).1] at hd
    exact absurd hd (by decide)
  | negSucc n =>
    have hn : n + 1 ≤ Nat.pow 2 63 := by
      have hpow : Int.pow 2 63 = (Nat.pow 2 63 : Nat) := by decide
      rw [hpow] at hlow
      omega
    have hint : integer? true ⟨n + 1, 0⟩ = some (Int.negSucc n) := by
      rw [integer?, if_neg (fun hne => hne rfl), if_pos rfl, if_pos ⟨Nat.succ_pos n, hn⟩]
      rfl
    have hlt : n + 1 < Nat.pow 2 64 := Nat.lt_of_le_of_lt hn (by decide)
    rw [Decimal.digitsInt, List.cons_append, number]
    exact unsigned_digits hlt hint h

end Json.Scalar

end SymbolOutline
