import Mathlib.Logic.Function.Iterate
import SymbolOutline.Proofs.Outline.Build
import SymbolOutline.Proofs.Symbol.Markers

/-!
# Normal forms

What normalization leaves is normal, and it leaves everything of a forest
exactly if that is normal already (`survivors_eq_self_iff`). So to normalize
twice is to normalize once, also on the way to an outline.
-/

namespace SymbolOutline.Symbol

/-- Stripping a normal name does nothing, so its privacy is that of the name as it stands. -/
theorem IsNormal.not_isHidden {parent : SymbolKind} {s : Symbol} (h : s.IsNormal parent) :
    ¬s.IsHidden parent := by
  obtain ⟨-, he, hp, hm, -⟩ := isNormal_iff.mp h
  rw [IsHidden, Name.stripMarkers_eq_self hm]
  exact not_or.mpr ⟨he, hp⟩

theorem isNormal_rebuilt {parent : SymbolKind} {s : Symbol} (h : ¬s.IsHidden parent)
    (hc : IsNormalAll s.kind (survivors s.kind s.childList)) :
    (s.rebuilt (Name.stripMarkers s.name)).IsNormal parent := by
  obtain ⟨he, hp⟩ := not_or.mp h
  rw [isNormal_iff, rebuilt_eq]
  exact ⟨rfl, he, hp, Name.not_hasMarker_stripMarkers s.name, hc⟩

theorem isNormalAll_survivors (parent : SymbolKind) (forest : List Symbol) :
    IsNormalAll parent (survivors parent forest) := by
  induction forest using forest_induction generalizing parent with
  | nil => trivial
  | cons s rest ihc ihr =>
    rw [survivors]
    by_cases h : s.IsHidden parent
    · rw [if_pos h]
      exact ihr parent
    · rw [if_neg h]
      exact ⟨isNormal_rebuilt h (ihc s.kind), ihr parent⟩

theorem survivors_eq_self {parent : SymbolKind} {forest : List Symbol}
    (h : IsNormalAll parent forest) : survivors parent forest = forest := by
  induction forest using forest_induction generalizing parent with
  | nil => rfl
  | cons s rest ihc ihr =>
    obtain ⟨hs, hrest⟩ := h
    obtain ⟨hsome, -, -, hm, hchildren⟩ := isNormal_iff.mp hs
    have hself : s.rebuilt s.name = s := by
      rw [rebuilt_eq, ihc hchildren, ← hsome]
      cases s; rfl
    rw [survivors, if_neg hs.not_isHidden, ihr hrest, Name.stripMarkers_eq_self hm, hself]

/-- Nothing but a normal forest is left as it is. -/
theorem survivors_eq_self_iff {parent : SymbolKind} {forest : List Symbol} :
    survivors parent forest = forest ↔ IsNormalAll parent forest := by
  refine ⟨fun h => ?_, survivors_eq_self⟩
  rw [← h]
  exact isNormalAll_survivors parent forest

theorem normalized_normalized (s : Symbol) : s.normalized.normalized = s.normalized := by
  rw [normalized_eq, normalized_eq, rebuilt_eq, rebuilt_eq]
  exact congrArg (fun children => { s with children := some children })
    (survivors_eq_self (isNormalAll_survivors s.kind s.childList))

theorem normalized_iterate (s : Symbol) (n : Nat) :
    ((normalized^[n]) s).normalized = s.normalized := by
  induction n with
  | zero => rfl
  | succ n ih => rw [Function.iterate_succ_apply', ih, normalized_normalized]

theorem shownRoots_shownRoots (symbols : List Symbol) :
    shownRoots (shownRoots symbols) = shownRoots symbols := by
  have hvisible : isVisibleRoot ∘ normalized = isVisibleRoot := rfl
  have htwice : normalized ∘ normalized = normalized := funext normalized_normalized
  rw [shownRoots, shownRoots, List.filter_map, List.map_map, hvisible, htwice,
    List.filter_filter]
  simp only [Bool.and_self]

/-- Normalization is a projection onto the normal forests: its result is
normal, and it changes any other forest. It can be repeated, also before an
outline is built, and nothing more happens. -/
theorem normalize_projects_onto_normal (log : Log) (s : Symbol) :
    IsNormalAll s.kind (s.normalize log).1
      ∧ (∀ forest, s.children = some forest →
          ((s.normalize log).1 = forest ↔ IsNormalAll s.kind forest))
      ∧ (∀ n, (((normalized^[n]) s).normalize log).1 = (s.normalize log).1)
      ∧ ∀ options symbols, (Outline.build options log (shownRoots symbols)).1
          = (Outline.build options log symbols).1 := by
  refine ⟨?_, ?_, ?_, ?_⟩
  · rw [normalize_eq]
    exact isNormalAll_survivors s.kind s.childList
  · intro forest hforest
    rw [normalize_eq, childList, hforest, Option.getD_some]
    exact survivors_eq_self_iff
  · intro n
    rw [fst_normalize, fst_normalize, normalized_iterate]
  · intro options symbols
    rw [Outline.build_eq, Outline.build_eq, shownRoots_shownRoots]

theorem normalize_server_ne :
    server.children = some server.childList ∧ (server.normalize #[]).1 ≠ server.childList := by
  have hprivate : ¬IsNormalAll server.kind server.childList := by
    rintro ⟨-, ⟨-, hp, -⟩, -⟩
    exact hp (by decide)
  refine ⟨rfl, fun h => hprivate ?_⟩
  exact ((normalize_projects_onto_normal #[] server).2.1 server.childList rfl).mp h

end SymbolOutline.Symbol
