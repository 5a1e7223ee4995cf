import SymbolOutline.Symbol.Normalize
import SymbolOutline.Symbol.Survivors

/-!
# Normalization leaves the survivors

The machine behind `Symbol.normalize` visits the pending symbols of a frame
and keeps what `survivors` says, whatever stands on the stack below
(`run_frame`). So it comes to an end, with the survivors of the symbol it
started from.
-/

namespace SymbolOutline

namespace Normalizer

open SymbolOutline.Symbol (Fate fate survivors events eventsAll rebuilt IsHidden)

/-! ## Single steps -/

theorem fate_of_excluded {parent : SymbolKind} {s : Symbol} (h : s.kind.IsExcludedUnder parent) :
    fate parent s = .dropped (.hidChild s.kind s.name parent) := if_pos h

theorem fate_of_private {parent : SymbolKind} {s : Symbol} (h : ¬s.kind.IsExcludedUnder parent)
    (hp : Name.isPrivate (Name.stripMarkers s.name)) :
    fate parent s = .dropped (.hidPrivate s.name) := by
  rw [fate, if_neg h, if_pos hp]

theorem fate_of_visible {parent : SymbolKind} {s : Symbol} (h : ¬s.IsHidden parent) :
    fate parent s = .kept (Name.stripMarkers s.name) := by
  obtain ⟨he, hp⟩ := not_or.mp h
  rw [fate, if_neg he, if_neg hp]

section

variable {source s : Symbol} {name name' : String} {rest : List Symbol} {kept : Array Symbol}
  {below : List Frame} {log : Log}

/-- A dropped symbol is passed over within a step: closing the frame does not
look at what was pending. -/
theorem step_dropped {event : Event} (h : fate source.kind s = .dropped event) :
    step ⟨⟨source, name, s :: rest, kept⟩ :: below, log⟩
      = step ⟨⟨source, name, rest, kept⟩ :: below, log.push event⟩ := by
  simp only [step, nextSurvivor, h]
  rfl

theorem step_kept (h : fate source.kind s = .kept name') :
    step ⟨⟨source, name, s :: rest, kept⟩ :: below, log⟩
      = .next ⟨.opening s name' :: ⟨source, name, rest, kept⟩ :: below, log⟩ := by
  simp only [step, nextSurvivor, h]

theorem step_close {parent : Frame} :
    step ⟨⟨source, name, [], kept⟩ :: parent :: below, log⟩
      = .next ⟨{ parent with kept := parent.kept.push (Frame.symbol ⟨source, name, [], kept⟩) }
          :: below, log.push (Frame.event ⟨source, name, [], kept⟩)⟩ := rfl

theorem step_last :
    step ⟨[⟨source, name, [], kept⟩], log⟩
      = .done (kept.toList, log.push (Frame.event ⟨source, name, [], kept⟩)) := rfl

end

/-! ## Runs -/

/-- Closing a frame that kept the survivors hands on the rebuilt symbol. -/
theorem symbol_survivors (s : Symbol) (name : String) :
    Frame.symbol ⟨s, name, [], (survivors s.kind s.childList).toArray⟩ = s.rebuilt name := by
  rw [Symbol.rebuilt_eq]; rfl

theorem push_event_survivors (log : Log) (s : Symbol) (name : String) :
    (log ++ (eventsAll s.kind s.childList).toArray).push
        (Frame.event ⟨s, name, [], (survivors s.kind s.childList).toArray⟩)
      = log ++ (events name s).toArray := by
  simp only [Symbol.events_eq, Frame.event, List.size_toArray, Array.push_eq_append,
    Array.append_assoc, List.append_toArray]

/-- The innermost frame keeps the survivors of its pending symbols, and the
frames below it stay as they are. -/
theorem run_frame (pending : List Symbol) (source : Symbol) (name : String) (kept : Array Symbol)
    (below : List Frame) (log : Log) :
    Step.run step work work_step ⟨⟨source, name, pending, kept⟩ :: below, log⟩
      = Step.run step work work_step
          ⟨⟨source, name, [], kept ++ (survivors source.kind pending).toArray⟩ :: below,
            log ++ (eventsAll source.kind pending).toArray⟩ := by
  induction pending using Symbol.forest_induction generalizing source name kept below log with
  | nil => simp [survivors, eventsAll]
  | cons s rest ihc ihr =>
    rw [survivors, eventsAll]
    by_cases he : s.kind.IsExcludedUnder source.kind
    · have hh : s.IsHidden source.kind := Or.inl he
      rw [Step.run_congr (step_dropped (fate_of_excluded he)), ihr, if_pos hh, if_pos he]
      simp
    · rw [if_neg he]
      by_cases hp : Name.isPrivate (Name.stripMarkers s.name)
      · have hh : s.IsHidden source.kind := Or.inr hp
        rw [Step.run_congr (step_dropped (fate_of_private he hp)), ihr, if_pos hh, if_pos hp]
        simp
      · have hv : ¬s.IsHidden source.kind := not_or.mpr ⟨he, hp⟩
        -- the survivor is opened, its own children are visited, and it is closed again
        rw [Step.run_next (step_kept (fate_of_visible hv)), Frame.opening, ihc, Array.empty_append,
          Step.run_next step_close, symbol_survivors, push_event_survivors, ihr, if_neg hv,
          if_neg hp]
        simp

theorem run_opening (log : Log) (s : Symbol) (name : String) :
    Step.run step work work_step ⟨[.opening s name], log⟩
      = some (survivors s.kind s.childList, log ++ (events name s).toArray) := by
  rw [Frame.opening, run_frame, Array.empty_append, Step.run_done step_last, push_event_survivors]

end Normalizer

namespace Symbol

theorem normalize_eq (log : Log) (s : Symbol) :
    s.normalize log = (survivors s.kind s.childList, log ++ (s.events s.name).toArray) := by
  rw [normalize, Normalizer.run_opening, Option.getD_some]

/-- The symbol with its children normalized. -/
def normalized (s : Symbol) : Symbol := { s with children := some (s.normalize #[]).1 }

theorem normalized_eq (s : Symbol) : s.normalized = s.rebuilt s.name := by
  rw [normalized, normalize_eq, rebuilt_eq]

theorem fst_normalize (log : Log) (s : Symbol) : (s.normalize log).1 = s.normalized.childList := by
  rw [normalize_eq, normalized_eq, rebuilt_eq]
  rfl

/-- The machine comes to an end, and what it leaves of the children is what
the recursion over the tree leaves: the symbols that are not hidden, each in
its place, with a stripped name and the survivors of its own children. -/
theorem normalize_refines_survivors (log : Log) (s : Symbol) :
    (∃ last, Step.Reaches Normalizer.step ⟨[.opening s s.name], log⟩ last
        ∧ Normalizer.step last = .done (s.normalize log))
      ∧ (s.normalize log).1 = survivors s.kind s.childList
      ∧ ∀ parent forest, survivors parent forest
          = (forest.filter fun c => ¬c.IsHidden parent).map fun c =>
              { c with
                name := Name.stripMarkers c.name
                children := some (survivors c.kind c.childList) } := by
  rw [normalize_eq]
  refine ⟨Step.exists_reaches_done (Normalizer.run_opening log s s.name), rfl, ?_⟩
  intro parent forest
  rw [survivors_eq]
  exact List.map_congr_left fun c _ => rebuilt_eq (Name.stripMarkers c.name) c

end Symbol

end SymbolOutline
