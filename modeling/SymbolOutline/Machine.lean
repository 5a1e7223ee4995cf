/-!
# Step machines

A machine is a function `step` from states to a `Step`. `Step.run` steps until
the machine is done; it needs a measure that every step makes smaller. The
traversals of this library keep their own stack in the state, so a deep tree
never grows the call stack.
-/

namespace SymbolOutline

inductive Step (σ ρ : Type) where
  | next (state : σ)
  | done (result : ρ)
  /-- The state is of no use: no step is defined for it. -/
  | stuck

namespace Step

variable {σ ρ : Type}

/-- The result of the machine started in `s`, or `none` if it gets stuck. -/
@[specialize] def run (step : σ → Step σ ρ) (work : σ → Nat)
    (decreases : ∀ s t, step s = .next t → work t < work s) (s : σ) : Option ρ :=
  match _h : step s with
  | .next t => run step work decreases t
  | .done result => some result
  | .stuck => none
termination_by work s
decreasing_by exact decreases s t _h

/-- One state leads to the other in zero or more steps. -/
inductive Reaches (step : σ → Step σ ρ) : σ → σ → Prop where
  | refl (s : σ) : Reaches step s s
  | tail {s t u : σ} : Reaches step s t → step t = .next u → Reaches step s u

section

variable {step : σ → Step σ ρ} {s t u : σ} {r : ρ}

theorem Reaches.trans (h : Reaches step s t) (h' : Reaches step t u) : Reaches step s u := by
  induction h' with
  | refl => exact h
  | tail _ hu ih => exact ih.tail hu

theorem Reaches.head (h : step s = .next t) (h' : Reaches step t u) : Reaches step s u :=
  .trans (.tail (.refl s) h) h'

/-- What every step keeps holds of all states reached. -/
theorem Reaches.preserves {P : σ → Prop} (h : Reaches step s t)
    (hP : ∀ s t, P s → step s = .next t → P t) (hs : P s) : P t := by
  induction h with
  | refl => exact hs
  | tail _ hu ih => exact hP _ _ ih hu

variable {work : σ → Nat} {decreases : ∀ s t, step s = .next t → work t < work s}

theorem run_next (h : step s = .next t) :
    run step work decreases s = run step work decreases t := by
  rw [run]
  split
  · next h' => rw [h] at h'; rw [Step.next.inj h']
  · next h' => rw [h] at h'; cases h'
  · next h' => rw [h] at h'; cases h'

theorem run_done (h : step s = .done r) : run step work decreases s = some r := by
  rw [run]
  split
  · next h' => rw [h] at h'; cases h'
  · next h' => rw [h] at h'; rw [Step.done.inj h']
  · next h' => rw [h] at h'; cases h'

theorem run_stuck (h : step s = .stuck) : run step work decreases s = none := by
  rw [run]
  split
  · next h' => rw [h] at h'; cases h'
  · next h' => rw [h] at h'; cases h'
  · rfl

/-- A run depends on its first step only. -/
theorem run_congr (h : step s = step t) :
    run step work decreases s = run step work decreases t := by
  cases ht : step t with
  | next u => rw [run_next ht, run_next (h.trans ht)]
  | done r => rw [run_done ht, run_done (h.trans ht)]
  | stuck => rw [run_stuck ht, run_stuck (h.trans ht)]

/-- A result comes from a last state that the start leads to. -/
theorem exists_reaches_done {s : σ} (h : run step work decreases s = some r) :
    ∃ last, Reaches step s last ∧ step last = .done r := by
  cases hs : step s with
  | next t =>
    rw [run_next hs] at h
    have : work t < work s := decreases s t hs
    obtain ⟨last, hl, hd⟩ := exists_reaches_done h
    exact ⟨last, .head hs hl, hd⟩
  | done r' =>
    rw [run_done hs] at h
    exact ⟨s, .refl s, by rw [hs, Option.some.inj h]⟩
  | stuck => rw [run_stuck hs] at h; cases h
termination_by work s

end

end Step

end SymbolOutline
