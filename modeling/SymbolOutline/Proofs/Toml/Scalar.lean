import SymbolOutline.Toml.Reader

/-!
# Plain values of TOML

`true`, `false` and decimal numerals are read up to the end of their line
(`scalar?_boolean`, `scalar?_digits`). Digits alone are neither a date nor a
time, because nothing but a digit or the newline follows a digit
(`dateTime?_digits`).
-/

namespace SymbolOutline.Toml

open Decimal (isDigit digits)

theorem ne_of_isDigit {c d : Char} (hd : isDigit d = true) (hc : isDigit c = false) : d ≠ c := by
  rintro rfl
  rw [hd] at hc
  cases hc

/-! ## Digits up to a newline -/

section

variable {ds : List Char} (hds : ∀ c ∈ ds, isDigit c = true) (rest : List Char)

include hds

theorem field?_digits {count low high n : Nat} {left : List Char}
    (h : field? count low high (ds ++ '\n' :: rest) = some (n, left)) :
    ∃ later, left = later ++ '\n' :: rest ∧ ∀ c ∈ later, isDigit c = true := by
  by_cases hcount : count ≤ ds.length
  · refine ⟨ds.drop count, ?_, fun c hc => hds c (List.mem_of_mem_drop hc)⟩
    simp only [field?, List.drop_append_of_le_length hcount] at h
    split at h
    · split at h
      · exact (Prod.mk.inj (Option.some.inj h)).2.symm
      · cases h
    · cases h
  · -- a field that goes beyond the digits has the newline in it
    obtain ⟨k, hk⟩ : ∃ k, count - ds.length = k + 1 := ⟨count - ds.length - 1, by omega⟩
    have hnewline : ((ds ++ '\n' :: rest).take count).all isDigit = false := by
      rw [List.take_append, List.all_append, hk, List.take_succ_cons, List.all_cons]
      simp [show isDigit '\n' = false by decide]
    simp [field?, hnewline] at h

theorem after?_digits {c : Char} (hc : isDigit c = false) (hnewline : c ≠ '\n') :
    after? c (ds ++ '\n' :: rest) = none := by
  cases ds with
  | nil => exact if_neg hnewline.symm
  | cons d ds => exact if_neg (ne_of_isDigit (hds d List.mem_cons_self) hc)

theorem date?_digits : date? (ds ++ '\n' :: rest) = none := by
  unfold date?
  cases hyear : field? 4 0 9999 (ds ++ '\n' :: rest) with
  | none => rfl
  | some p =>
    obtain ⟨later, hleft, hlater⟩ := field?_digits hds rest hyear
    have hafter := after?_digits hlater rest (c := '-') (by decide) (by decide)
    rw [← hleft] at hafter
    simp only [Option.bind_eq_bind, Option.bind_some, hafter, Option.bind_none]

theorem time?_digits : time? (ds ++ '\n' :: rest) = none := by
  unfold time?
  cases hhour : field? 2 0 23 (ds ++ '\n' :: rest) with
  | none => rfl
  | some p =>
    obtain ⟨later, hleft, hlater⟩ := field?_digits hds rest hhour
    have hafter := after?_digits hlater rest (c := ':') (by decide) (by decide)
    rw [← hleft] at hafter
    simp only [Option.bind_eq_bind, Option.bind_some, hafter, Option.bind_none]

theorem dateTime?_digits : dateTime? (ds ++ '\n' :: rest) = none := by
  rw [dateTime?, date?_digits hds, time?_digits hds]

theorem digitsMore_digits :
    digitsMore isDigit (ds ++ '\n' :: rest) = (ds, '\n' :: rest) := by
  induction ds with
  | nil =>
    show digitsMore isDigit ('\n' :: rest) = _
    rw [digitsMore]
    · rfl
    · intro d later h
      cases h
  | cons d ds ih =>
    have hd : isDigit d = true := hds d List.mem_cons_self
    rw [List.cons_append, digitsMore, if_pos hd, ih fun c hc => hds c (List.mem_cons_of_mem d hc)]
    rintro d' later rfl
    cases hd

end

/-! ## Numerals -/

theorem digits_zero : digits 0 = ['0'] := by
  rw [digits, if_pos (by decide)]
  rfl

theorem wholeDigits?_digits (n : Nat) (rest : List Char) :
    wholeDigits? (digits n ++ '\n' :: rest) = some (digits n, '\n' :: rest) := by
  by_cases hn : n = 0
  · subst hn
    rw [digits_zero]
    rfl
  · obtain ⟨d, ds, hdigits, hd, hzero⟩ := Decimal.digits_eq_cons n
    have hds : ∀ c ∈ ds, isDigit c = true := by
      intro c hc
      have hmem : c ∈ digits n := by
        rw [hdigits]
        exact List.mem_cons_of_mem d hc
      exact Decimal.isDigit_of_mem_digits hmem
    rw [hdigits, List.cons_append, wholeDigits?, digits?, if_pos hd, digitsMore_digits hds]
    rintro rest' hcons
    exact hzero (by omega) (List.cons.inj hcons).1

theorem decimal?_digits {n : Nat} (hn : n < Nat.pow 2 63) (rest : List Char) :
    decimal? false (digits n ++ '\n' :: rest) = some (.integer n, '\n' :: rest) := by
  have hfits : fitsInt64 (n : Int) = true := by
    have hlow : -Int.pow 2 63 ≤ (n : Int) := by
      show -9223372036854775808 ≤ (n : Int)
      omega
    have hhigh : (n : Int) < Int.pow 2 63 := by
      change n < 9223372036854775808 at hn
      show (n : Int) < 9223372036854775808
      omega
    unfold fitsInt64
    rw [decide_eq_true hlow, decide_eq_true hhigh]
    rfl
  have hexponent : exponent? ('\n' :: rest) = some (none, '\n' :: rest) := rfl
  have hfraction : fraction? ('\n' :: rest) = some (none, '\n' :: rest) := rfl
  simp only [decimal?, wholeDigits?_digits, hfraction, hexponent, Decimal.value_digits,
    integerOf?, if_neg Bool.false_ne_true, if_pos hfits]

theorem sign_of_isDigit {d : Char} (hd : isDigit d = true) (later : List Char) :
    sign (d :: later) = (false, d :: later) := by
  rw [sign]
  · rintro rest h
    exact ne_of_isDigit hd (by decide) (List.cons.inj h).1
  · rintro rest h
    exact ne_of_isDigit hd (by decide) (List.cons.inj h).1

theorem number?_of_isDigit {d : Char} (hd : isDigit d = true) (hzero : d ≠ '0')
    (later : List Char) : number? (d :: later) = decimal? false (d :: later) := by
  rw [number?]
  · rw [sign_of_isDigit hd]
    split
    · next h =>
      cases h
      exact absurd hd (by decide)
    · next h =>
      cases h
      exact absurd hd (by decide)
    · next h =>
      cases h
      rfl
  · rintro rest h
    exact hzero (List.cons.inj h).1
  · rintro rest h
    exact hzero (List.cons.inj h).1
  · rintro rest h
    exact hzero (List.cons.inj h).1

theorem number?_digits {n : Nat} (hn : n < Nat.pow 2 63) (rest : List Char) :
    number? (digits n ++ '\n' :: rest) = some (.integer n, '\n' :: rest) := by
  have hdecimal := decimal?_digits hn rest
  by_cases hzero : n = 0
  · subst hzero
    rw [digits_zero] at hdecimal ⊢
    exact hdecimal
  · obtain ⟨d, ds, hdigits, hd, hd0⟩ := Decimal.digits_eq_cons n
    rw [hdigits, List.cons_append] at hdecimal ⊢
    rw [number?_of_isDigit hd (hd0 (by omega)), hdecimal]

/-! ## Scalars -/

theorem scalar?_digits {n : Nat} (hn : n < Nat.pow 2 63) (rest : List Char) :
    scalar? (digits n ++ '\n' :: rest) = some (.integer n, '\n' :: rest) := by
  have hnumber := number?_digits hn rest
  have hdate := dateTime?_digits (fun c hc => Decimal.isDigit_of_mem_digits (n := n) hc) rest
  obtain ⟨d, ds, hdigits, hd, -⟩ := Decimal.digits_eq_cons n
  rw [hdigits, List.cons_append] at hnumber hdate ⊢
  generalize ds ++ '\n' :: rest = later at hnumber hdate ⊢
  rw [scalar?]
  · rw [hdate]
    exact hnumber
  all_goals
    rintro rest' h
    exact ne_of_isDigit hd (by decide) (List.cons.inj h).1

theorem scalar?_boolean (b : Bool) (rest : List Char) :
    scalar? ((if b then "true" else "false").toList ++ '\n' :: rest)
      = some (.boolean b, '\n' :: rest) := by
  cases b <;> rfl

end SymbolOutline.Toml
