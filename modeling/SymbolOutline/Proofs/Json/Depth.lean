import SymbolOutline.Json.Reader

/-!
# Values that are read are not deep

The reader opens a bracket only if fewer than `Json.maxDepth` are open. So
whatever it has read so far fits under the limit where it stands
(`State.Within`), and a value that is read has no more brackets around any
place of it (`depth_le_of_read`).
-/

namespace SymbolOutline.Json

theorem depthMembers_eq (members : List (String × Json)) :
    depthMembers members = depthItems (members.map Prod.snd) := by
  induction members with
  | nil => rfl
  | cons m rest ih => rw [List.map_cons, depthMembers, depthItems, ih]

theorem depthItems_perm {l l' : List Json} (h : l.Perm l') : depthItems l = depthItems l' := by
  induction h with
  | nil => rfl
  | cons v _ ih => rw [depthItems, depthItems, ih]
  | swap v w l => simp only [depthItems]; omega
  | trans _ _ ih ih' => exact ih.trans ih'

theorem depthItems_reverse (items : List Json) : depthItems items.reverse = depthItems items :=
  depthItems_perm (List.reverse_perm items)

theorem depthMembers_reverse (members : List (String × Json)) :
    depthMembers members.reverse = depthMembers members := by
  rw [depthMembers_eq, List.map_reverse, depthItems_reverse, ← depthMembers_eq]

namespace Reader

/-! ## The invariant -/

/-- The parts of an open array or object fit under the limit where they stand. -/
def StackWithin : List Open → Prop
  | [] => True
  | .array items :: below => below.length + 1 + depthItems items ≤ maxDepth ∧ StackWithin below
  | .object members _ :: below =>
    below.length + 1 + depthMembers members ≤ maxDepth ∧ StackWithin below

/-- The parts that a phase holds fit under the limit, with so many brackets open around it. -/
def Phase.Within (around : Nat) : Phase → Prop
  | value => True
  | arrayStart | objectStart => around + 1 ≤ maxDepth
  | arrayItem items | arrayMore items => around + 1 + depthItems items ≤ maxDepth
  | objectKey members | objectColon members _ | objectMore members =>
    around + 1 + depthMembers members ≤ maxDepth

structure State.Within (s : State) : Prop where
  phase : s.phase.Within s.stack.length
  stack : StackWithin s.stack

/-- A step leads to a state within the limit, or to such a value. -/
def StepWithin : Step State Result → Prop
  | .next t => t.Within
  | .done (.ok (v, _)) => v.depth ≤ maxDepth
  | .done (.error _) => True
  | .stuck => True

/-! ## Steps -/

variable {stack : List Open} {c : Char} {text rest : List Char}

theorem StackWithin.length_le (h : StackWithin stack) : stack.length ≤ maxDepth := by
  cases stack with
  | nil => exact Nat.zero_le _
  | cons o below =>
    cases o with
    | array items => exact Nat.le_trans (Nat.le_add_right _ _) h.1
    | object members key => exact Nat.le_trans (Nat.le_add_right _ _) h.1

theorem within_finish {v : Json} (hv : stack.length + v.depth ≤ maxDepth) (h : StackWithin stack) :
    StepWithin (finish v stack text) := by
  cases stack with
  | nil =>
    rw [List.length_nil, Nat.zero_add] at hv
    exact hv
  | cons o below =>
    rw [List.length_cons] at hv
    cases o with
    | array items =>
      obtain ⟨hitems, hbelow⟩ := h
      refine ⟨?_, hbelow⟩
      show below.length + 1 + depthItems (v :: items) ≤ maxDepth
      rw [depthItems]
      omega
    | object members key =>
      obtain ⟨hmembers, hbelow⟩ := h
      refine ⟨?_, hbelow⟩
      show below.length + 1 + depthMembers ((key, v) :: members) ≤ maxDepth
      rw [depthMembers]
      omega

theorem within_finish_scalar {v : Json} (hv : v.depth = 0) (h : StackWithin stack) :
    StepWithin (finish v stack text) := by
  refine within_finish ?_ h
  rw [hv]
  exact h.length_le

theorem within_enter {phase : Phase} (hphase : stack.length < maxDepth → phase.Within stack.length)
    (h : StackWithin stack) : StepWithin (enter phase stack c rest) := by
  unfold enter
  split
  · next hroom => exact ⟨hphase hroom, h⟩
  · trivial

theorem within_finishWord {v : Json} {found : Except ReadError (List Char)} (hv : v.depth = 0)
    (h : StackWithin stack) : StepWithin (finishWord v stack found) := by
  unfold finishWord
  split
  · trivial
  · exact within_finish_scalar hv h

theorem within_start (h : StackWithin stack) : StepWithin (start stack c rest) := by
  unfold start
  repeat' split
  · exact within_enter (fun hroom => hroom) h
  · exact within_enter (fun hroom => hroom) h
  · trivial
  · exact within_finish_scalar rfl h
  · trivial
  · exact within_finish_scalar rfl h
  · exact within_finishWord rfl h
  · exact within_finishWord rfl h
  · exact within_finishWord rfl h
  · trivial

theorem within_startKey {members : List (String × Json)}
    (hmembers : stack.length + 1 + depthMembers members ≤ maxDepth) (h : StackWithin stack) :
    StepWithin (startKey members stack c rest) := by
  unfold startKey
  repeat' split
  · trivial
  · exact ⟨hmembers, h⟩
  · trivial

theorem within_stepAt {phase : Phase} (hphase : phase.Within stack.length) (h : StackWithin stack) :
    StepWithin (stepAt phase stack c rest) := by
  cases phase with
  | value => exact within_start h
  | arrayStart =>
    rw [stepAt]
    split
    · exact within_finish hphase h
    · exact within_start ⟨hphase, h⟩
  | arrayItem items =>
    rw [stepAt]
    split
    · trivial
    · exact within_start ⟨hphase, h⟩
  | arrayMore items =>
    have hclosed : stack.length + (array items.reverse).depth ≤ maxDepth := by
      rw [Json.depth, depthItems_reverse, ← Nat.add_assoc]
      exact hphase
    rw [stepAt]
    repeat' split
    · exact within_finish hclosed h
    · exact ⟨hphase, h⟩
    · trivial
  | objectStart =>
    rw [stepAt]
    split
    · exact within_finish hphase h
    · exact within_startKey hphase h
  | objectKey members =>
    rw [stepAt]
    split
    · trivial
    · exact within_startKey hphase h
  | objectColon members key =>
    rw [stepAt]
    split
    · exact ⟨trivial, hphase, h⟩
    · trivial
  | objectMore members =>
    have hclosed : stack.length + (object members.reverse).depth ≤ maxDepth := by
      rw [Json.depth, depthMembers_reverse, ← Nat.add_assoc]
      exact hphase
    rw [stepAt]
    repeat' split
    · exact within_finish hclosed h
    · exact ⟨hphase, h⟩
    · trivial

theorem within_step {s : State} (h : s.Within) : StepWithin (step s) := by
  unfold step
  split
  · trivial
  · exact within_stepAt h.phase h.stack

theorem within_of_reaches {s t : State} (h : Step.Reaches step s t) (hs : s.Within) : t.Within := by
  refine h.preserves ?_ hs
  intro s t hs hst
  have hstep := within_step hs
  rw [hst] at hstep
  exact hstep

end Reader

open Reader in
/-- No more brackets are open around any place of a value that is read. -/
theorem depth_le_of_read {text rest : List Char} {v : Json} (h : read text = .ok (v, rest)) :
    v.depth ≤ maxDepth := by
  unfold read at h
  cases hrun : Step.run step (·.text.length) length_step ⟨.value, [], text⟩ with
  | none => rw [hrun] at h; cases h
  | some result =>
    rw [hrun, Option.getD_some] at h
    obtain ⟨last, hreaches, hlast⟩ := Step.exists_reaches_done hrun
    have hstep := within_step (within_of_reaches hreaches ⟨trivial, trivial⟩)
    rw [hlast, h] at hstep
    exact hstep

end SymbolOutline.Json
