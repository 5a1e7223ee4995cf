import SymbolOutline.Log
import SymbolOutline.Machine
import SymbolOutline.Symbol.Policy

/-!
# Normalization

`Symbol.normalize` rebuilds the children of a symbol: hidden kinds and private
names go with everything below them, survivors lose their accessor markers,
and the same happens below every survivor. It is a `Step` machine whose stack
holds a `Frame` for each open symbol, innermost first.
-/

namespace SymbolOutline

namespace Symbol

/-- What becomes of a child under a parent of the given kind. -/
inductive Fate where
  | kept (name : String)
  | dropped (event : Event)

def fate (parent : SymbolKind) (child : Symbol) : Fate :=
  if child.kind.IsExcludedUnder parent then .dropped (.hidChild child.kind child.name parent)
  else if Name.isPrivate (Name.stripMarkers child.name) then .dropped (.hidPrivate child.name)
  else .kept (Name.stripMarkers child.name)

end Symbol

namespace Normalizer

open SymbolOutline.Symbol (Fate fate size sizeAll)

/-- A symbol whose children are still being visited. -/
structure Frame where
  source : Symbol
  name : String
  pending : List Symbol
  kept : Array Symbol

structure State where
  stack : List Frame
  log : Log

def Frame.opening (source : Symbol) (name : String) : Frame :=
  ⟨source, name, source.childList, #[]⟩

/-- The symbol with its new name and the children kept. -/
def Frame.symbol (frame : Frame) : Symbol :=
  { frame.source with name := frame.name, children := some frame.kept.toList }

def Frame.event (frame : Frame) : Event :=
  .normalized frame.name frame.kept.size frame.source.childList.length

/-- The first child that is kept, its new name and the children after it. -/
def nextSurvivor (parent : SymbolKind) (log : Log) :
    List Symbol → Log × Option (Symbol × String × List Symbol)
  | [] => (log, none)
  | child :: rest =>
    match fate parent child with
    | .kept name => (log, some (child, name, rest))
    | .dropped event => nextSurvivor parent (log.push event) rest

/-- Opens the next surviving child of the innermost symbol, or closes that
symbol and hands it to the one around it. -/
def step (state : State) : Step State (List Symbol × Log) :=
  match state.stack with
  | [] => .stuck
  | frame :: below =>
    match nextSurvivor frame.source.kind state.log frame.pending with
    | (log, some (child, name, rest)) =>
      .next ⟨.opening child name :: { frame with pending := rest } :: below, log⟩
    | (log, none) =>
      match below with
      | [] => .done (frame.kept.toList, log.push frame.event)
      | parent :: below =>
        .next ⟨{ parent with kept := parent.kept.push frame.symbol } :: below,
          log.push frame.event⟩

/-- A frame costs one step to close, and every symbol still pending one more
to open. -/
def work (state : State) : Nat :=
  state.stack.foldr (fun frame n => 1 + 2 * sizeAll frame.pending + n) 0

theorem sizeAll_nextSurvivor {parent : SymbolKind} {log log' : Log} {pending rest : List Symbol}
    {child : Symbol} {name : String}
    (h : nextSurvivor parent log pending = (log', some (child, name, rest))) :
    child.size + sizeAll rest ≤ sizeAll pending := by
  induction pending generalizing log with
  | nil => simp [nextSurvivor] at h
  | cons c cs ih =>
    rw [nextSurvivor] at h
    split at h
    · obtain ⟨-, rfl, -, rfl⟩ : log = log' ∧ c = child ∧ _ = name ∧ cs = rest := by simpa using h
      exact Nat.le_refl _
    · have := ih h
      simp only [sizeAll]; omega

theorem work_step (s t : State) (h : step s = .next t) : work t < work s := by
  obtain ⟨stack, log⟩ := s
  simp only [step] at h
  split at h
  · simp at h
  · split at h
    · next log' child name rest hn =>
      have := sizeAll_nextSurvivor hn
      obtain rfl := Step.next.inj h
      simp only [work, Frame.opening, List.foldr_cons]
      have := child.size_eq
      omega
    · split at h
      · simp at h
      · obtain rfl := Step.next.inj h
        simp only [work, List.foldr_cons]
        omega

end Normalizer

open Normalizer in
/-- The normalized children of a symbol, and the log with the events of the
traversal. -/
def Symbol.normalize (log : Log) (s : Symbol) : List Symbol × Log :=
  (Step.run step work work_step ⟨[.opening s s.name], log⟩).getD ([], log)

end SymbolOutline
