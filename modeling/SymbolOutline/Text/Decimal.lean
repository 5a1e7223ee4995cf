/-!
# Decimal numerals

`Decimal.digits` writes a number without leading zeros and `Decimal.value`
reads a numeral; `value_digits` says that they fit together.
-/

namespace SymbolOutline.Decimal

/-- The digit of a number below ten. -/
def digit (n : Nat) : Char := Char.ofNat (48 + n)

def digits (n : Nat) : List Char :=
  if n < 10 then [digit n] else digits (n / 10) ++ [digit (n % 10)]

def digitsInt (i : Int) : List Char :=
  match i with
  | .ofNat n => digits n
  | .negSucc n => '-' :: digits (n + 1)

def isDigit (c : Char) : Bool := '0' ≤ c && c ≤ '9'

def digitValue (c : Char) : Nat := c.toNat - 48

/-- The value of the numeral that starts with digits worth `n` and goes on
with the text. -/
def valueFrom (n : Nat) (text : List Char) : Nat :=
  text.foldl (fun n c => 10 * n + digitValue c) n

def value (text : List Char) : Nat := valueFrom 0 text

theorem digitValue_digit {n : Nat} (h : n < 10) : digitValue (digit n) = n :=
  (by decide : ∀ n, n < 10 → digitValue (digit n) = n) n h

theorem isDigit_digit {n : Nat} (h : n < 10) : isDigit (digit n) = true :=
  (by decide : ∀ n, n < 10 → isDigit (digit n) = true) n h

theorem value_digits (n : Nat) : value (digits n) = n := by
  fun_induction digits n with
  | case1 n h => simp [value, valueFrom, digitValue_digit h]
  | case2 n h ih =>
    simp only [value, valueFrom, List.foldl_append, List.foldl_cons, List.foldl_nil] at ih ⊢
    rw [ih, digitValue_digit (by omega)]
    omega

theorem isDigit_of_mem_digits {n : Nat} {c : Char} (h : c ∈ digits n) : isDigit c = true := by
  fun_induction digits n with
  | case1 n hn => simp at h; exact h ▸ isDigit_digit hn
  | case2 n hn ih =>
    simp at h
    rcases h with h | rfl
    · exact ih h
    · exact isDigit_digit (by omega)

theorem digits_eq_cons (n : Nat) :
    ∃ d ds, digits n = d :: ds ∧ isDigit d ∧ (0 < n → d ≠ '0') := by
  fun_induction digits n with
  | case1 n h =>
    exact ⟨_, _, rfl, isDigit_digit h,
      (by decide : ∀ n, n < 10 → 0 < n → digit n ≠ '0') n h⟩
  | case2 n h ih =>
    obtain ⟨d, ds, hds, hd, hzero⟩ := ih
    exact ⟨d, ds ++ [digit (n % 10)], by rw [hds]; rfl, hd, fun _ => hzero (by omega)⟩

end SymbolOutline.Decimal
