import SymbolOutline.Outline.Build
import SymbolOutline.Proofs.Outline.Order
import SymbolOutline.Proofs.Symbol.Normalize

/-!
# The builder follows the levels

The conversion machine turns the pending symbols of a level into the entries
of `Entry.ofTrees`, whatever is open around it (`run_level`), so an outline is
`Entry.ofLevel` of its roots, `Symbol.shownRoots`. On the way no level gets
deeper than the symbols it still has to convert are high (`Level.Within`).
-/

namespace SymbolOutline

namespace Builder

open SymbolOutline.Symbol (levels levelsAll)

/-- The level the conversion starts from. -/
def Level.bottom (roots : List Symbol) : Level := ⟨none, roots, #[], 0⟩

theorem arrange_perm (options : BuildOptions) (siblings : List Entry) :
    (arrange options siblings).Perm siblings := by
  unfold arrange
  split
  · exact Entry.byWeight_perm siblings
  · exact .refl siblings

theorem ofLevel_eq_arrange (options : BuildOptions) (depth : Nat) (siblings : List Symbol) :
    Entry.ofLevel options depth siblings
      = arrange options
          (if options.Shows depth then Entry.ofTrees options depth siblings else []) := by
  by_cases h : options.Shows depth
  · rw [Entry.ofLevel, arrange, if_pos h, if_pos h]
  · rw [Entry.ofLevel, arrange, if_neg h, if_neg h, Entry.byWeight_nil, ite_self]

/-- The recursion from one level to the next. -/
theorem ofLevel_eq (options : BuildOptions) (depth : Nat) (siblings : List Symbol) :
    Entry.ofLevel options depth siblings
      = if options.Shows depth then
          arrange options (siblings.map fun s =>
            { Entry.ofSymbol s with children := Entry.ofLevel options (depth + 1) s.childList })
        else [] := by
  by_cases h : options.Shows depth
  · rw [ofLevel_eq_arrange, if_pos h, if_pos h, Entry.ofTrees_eq_map]
    exact congrArg (arrange options)
      (List.map_congr_left fun s _ => Entry.ofTree_eq options depth s)
  · rw [Entry.ofLevel, if_neg h, if_neg h]

/-! ## Single steps -/

section

variable {options : BuildOptions} {s : Symbol} {rest : List Symbol} {built : Array Entry}
  {depth : Nat} {below : List Level} {entry : Option Entry}

theorem step_open (h : options.Shows (depth + 1)) :
    step options (⟨entry, s :: rest, built, depth⟩ :: below)
      = .next (.opening options s (depth + 1) :: ⟨entry, rest, built, depth⟩ :: below) := by
  simp only [step, if_pos h]

theorem step_skip (h : ¬options.Shows (depth + 1)) :
    step options (⟨entry, s :: rest, built, depth⟩ :: below)
      = .next (⟨entry, rest, built, depth⟩ :: below) := by
  simp only [step, if_neg h]

theorem step_close {e : Entry} {parent : Level} :
    step options (⟨some e, [], built, depth⟩ :: parent :: below)
      = .next ({ parent with
          built := parent.built.push { e with children := arrange options built.toList } }
            :: below) := rfl

theorem step_last :
    step options [⟨entry, [], built, depth⟩] = .done (arrange options built.toList) := rfl

/-- A step opens the next symbol, passes over it where its level is not shown,
or closes an entry within the level below. -/
theorem stack_of_step {stack next : List Level} (h : step options stack = .next next) :
    (∃ entry s rest built depth below, stack = ⟨entry, s :: rest, built, depth⟩ :: below
      ∧ (next = .opening options s (depth + 1) :: ⟨entry, rest, built, depth⟩ :: below
        ∨ next = ⟨entry, rest, built, depth⟩ :: below))
    ∨ ∃ e built depth parent below, stack = ⟨some e, [], built, depth⟩ :: parent :: below
      ∧ next = { parent with
          built := parent.built.push { e with children := arrange options built.toList } }
            :: below := by
  match stack with
  | [] => cases h
  | ⟨entry, s :: rest, built, depth⟩ :: below =>
    refine .inl ⟨entry, s, rest, built, depth, below, rfl, ?_⟩
    by_cases hd : options.Shows (depth + 1)
    · rw [step_open hd] at h
      exact .inl (Step.next.inj h).symm
    · rw [step_skip hd] at h
      exact .inr (Step.next.inj h).symm
  | ⟨some e, [], built, depth⟩ :: parent :: below =>
    rw [step_close] at h
    exact .inr ⟨e, built, depth, parent, below, rfl, (Step.next.inj h).symm⟩
  | ⟨none, [], built, depth⟩ :: parent :: below => cases h
  | [⟨entry, [], built, depth⟩] => cases h

/-- The conversion ends where nothing is pending, and nothing is open around
the innermost level or that has no entry. -/
theorem stack_of_done {stack : List Level} {result : List Entry}
    (h : step options stack = .done result) :
    ∃ entry built depth below, stack = ⟨entry, [], built, depth⟩ :: below
      ∧ (below = [] ∨ entry = none) ∧ result = arrange options built.toList := by
  match stack with
  | [] => cases h
  | ⟨entry, s :: rest, built, depth⟩ :: below =>
    by_cases hd : options.Shows (depth + 1)
    · rw [step_open hd] at h
      cases h
    · rw [step_skip hd] at h
      cases h
  | ⟨some e, [], built, depth⟩ :: parent :: below => cases h
  | ⟨none, [], built, depth⟩ :: parent :: below =>
    exact ⟨none, built, depth, parent :: below, rfl, .inr rfl, (Step.done.inj h).symm⟩
  | [⟨entry, [], built, depth⟩] =>
    exact ⟨entry, built, depth, [], rfl, .inl rfl, (Step.done.inj h).symm⟩

end

/-! ## Runs -/

section

variable {options : BuildOptions}

/-- The innermost level builds the trees of its pending symbols, if they are
shown at all, and the levels below it stay as they are. -/
theorem run_level (pending : List Symbol) (entry : Option Entry) (built : Array Entry)
    (depth : Nat) (below : List Level) :
    Step.run (step options) work (work_step options) (⟨entry, pending, built, depth⟩ :: below)
      = Step.run (step options) work (work_step options)
          (⟨entry, [], built ++ (if options.Shows (depth + 1)
            then Entry.ofTrees options (depth + 1) pending else []).toArray, depth⟩ :: below) := by
  induction pending using Symbol.forest_induction generalizing entry built depth below with
  | nil => simp [Entry.ofTrees]
  | cons s rest ihc ihr =>
    by_cases h : options.Shows (depth + 1)
    · -- the children are converted, or left out at once where their level is not shown
      have hopen : Step.run (step options) work (work_step options)
            (.opening options s (depth + 1) :: ⟨entry, rest, built, depth⟩ :: below)
          = Step.run (step options) work (work_step options)
              (⟨some (.ofSymbol s), [], (if options.Shows (depth + 1 + 1)
                then Entry.ofTrees options (depth + 1 + 1) s.childList else []).toArray,
                  depth + 1⟩ :: ⟨entry, rest, built, depth⟩ :: below) := by
        by_cases h' : options.Shows (depth + 1 + 1)
        · rw [Level.opening, if_pos h', ihc, if_pos h', Array.empty_append]
        · rw [Level.opening, if_neg h', if_neg h']
      rw [Step.run_next (step_open h), hopen, Step.run_next step_close, ihr, if_pos h, if_pos h,
        Entry.ofTrees, Entry.ofTree_eq, ofLevel_eq_arrange]
      simp
    · rw [Step.run_next (step_skip h), ihr, if_neg h, if_neg h]

theorem run_bottom (roots : List Symbol) :
    Step.run (step options) work (work_step options) [.bottom roots]
      = some (Entry.ofLevel options 1 roots) := by
  rw [Level.bottom, run_level, Step.run_done step_last, Array.empty_append, ofLevel_eq_arrange]

theorem entries_eq (roots : List Symbol) :
    entries options roots = Entry.ofLevel options 1 roots := by
  rw [entries, ← Level.bottom, run_bottom, Option.getD_some]

end

/-! ## Depths -/

/-- The level and all that is pending in it reach down to `height` at most. -/
def Level.Within (height : Nat) (level : Level) : Prop :=
  level.depth + levelsAll level.pending ≤ height

theorem Level.Within.opening {options : BuildOptions} {height depth : Nat} {s : Symbol}
    (h : depth + levels s ≤ height) : (Level.opening options s (depth + 1)).Within height := by
  rw [Symbol.levels_eq] at h
  unfold Level.Within Level.opening
  by_cases h' : options.Shows (depth + 1 + 1)
  · simp only [if_pos h']; omega
  · simp only [if_neg h', levelsAll]; omega

theorem within_step {options : BuildOptions} {height : Nat} {stack next : List Level}
    (h : ∀ level ∈ stack, level.Within height) (hs : step options stack = .next next) :
    ∀ level ∈ next, level.Within height := by
  rcases stack_of_step hs with ⟨entry, s, rest, built, depth, below, rfl, hnext⟩
    | ⟨e, built, depth, parent, below, rfl, rfl⟩
  · obtain ⟨htop, hbelow⟩ := List.forall_mem_cons.mp h
    unfold Level.Within at htop
    simp only [levelsAll] at htop
    have hrest : Level.Within height ⟨entry, rest, built, depth⟩ := by
      show depth + levelsAll rest ≤ height
      omega
    rcases hnext with rfl | rfl
    · refine List.forall_mem_cons.mpr ⟨?_, List.forall_mem_cons.mpr ⟨hrest, hbelow⟩⟩
      exact Level.Within.opening (by omega)
    · exact List.forall_mem_cons.mpr ⟨hrest, hbelow⟩
  · obtain ⟨hparent, hbelow⟩ := List.forall_mem_cons.mp (List.forall_mem_cons.mp h).2
    exact List.forall_mem_cons.mpr ⟨hparent, hbelow⟩

theorem depth_le_of_reaches {options : BuildOptions} {roots : List Symbol} {stack : List Level}
    (h : Step.Reaches (step options) [.bottom roots] stack) {level : Level} (hl : level ∈ stack) :
    level.depth ≤ levelsAll roots := by
  have hstart : ∀ level ∈ [Level.bottom roots], level.Within (levelsAll roots) := by
    intro level hm
    obtain rfl := List.mem_singleton.mp hm
    exact Nat.le_of_eq (Nat.zero_add _)
  have hstack := h.preserves (fun _ _ => within_step) hstart level hl
  unfold Level.Within at hstack
  omega

end Builder

namespace Symbol

/-- The roots an outline starts from, each with its children normalized. -/
def shownRoots (symbols : List Symbol) : List Symbol :=
  (symbols.filter isVisibleRoot).map normalized

theorem fst_normalizeAll (log : Log) (symbols : List Symbol) :
    (normalizeAll log symbols).1 = symbols.map normalized := by
  induction symbols generalizing log with
  | nil => rfl
  | cons s rest ih =>
    simp only [normalizeAll, ih, List.map_cons, normalized, normalize_eq]

theorem levelsAll_survivors_le (parent : SymbolKind) (forest : List Symbol) :
    levelsAll (survivors parent forest) ≤ levelsAll forest := by
  induction forest using forest_induction generalizing parent with
  | nil => exact Nat.le_refl _
  | cons s rest ihc ihr =>
    have hc := ihc s.kind
    have hr := ihr parent
    rw [survivors]
    split
    · simp only [levelsAll]; omega
    · have hs : (s.rebuilt (Name.stripMarkers s.name)).levels ≤ s.levels := by
        rw [levels_eq, rebuilt_eq, levels_eq]
        exact Nat.add_le_add_left hc 1
      simp only [levelsAll]; omega

theorem levels_normalized_le (s : Symbol) : s.normalized.levels ≤ s.levels := by
  rw [normalized_eq, rebuilt_eq, levels_eq, levels_eq]
  exact Nat.add_le_add_left (levelsAll_survivors_le s.kind s.childList) 1

theorem levelsAll_shownRoots_le (symbols : List Symbol) :
    levelsAll (shownRoots symbols) ≤ levelsAll symbols := by
  unfold shownRoots
  induction symbols with
  | nil => exact Nat.le_refl _
  | cons s rest ih =>
    have hs := levels_normalized_le s
    rw [List.filter_cons]
    split
    · simp only [List.map_cons, levelsAll]; omega
    · simp only [levelsAll]; omega

end Symbol

namespace Outline

theorem build_eq (options : BuildOptions) (log : Log) (symbols : List Symbol) :
    (build options log symbols).1 = ⟨Entry.ofLevel options 1 (Symbol.shownRoots symbols)⟩ := by
  simp only [build, Builder.entries_eq, Symbol.fst_normalizeAll, Symbol.shownRoots]

/-- The conversion comes to an end with the entries of the outline, and these
are the ones of the recursion over the levels of the shown roots. It makes an
entry of each symbol of a level that is shown, with an empty detail left out and
the next level below it, and sorts them stably if asked to. A step looks at most
two levels below the level it takes a symbol from; no such depth is more than two
beyond the height of the roots, which `options` has no part in. -/
theorem build_refines_ofLevel (options : BuildOptions) (log : Log) (symbols : List Symbol) :
    (∃ last, Step.Reaches (Builder.step options) [.bottom (Symbol.shownRoots symbols)] last
        ∧ Builder.step options last = .done (build options log symbols).1.entries)
      ∧ (build options log symbols).1 = ⟨Entry.ofLevel options 1 (Symbol.shownRoots symbols)⟩
      ∧ (∀ depth siblings, Entry.ofLevel options depth siblings
          = if options.Shows depth then
              Builder.arrange options (siblings.map fun s =>
                { name := s.name
                  kind := s.kind
                  label := s.kind.label
                  weight := s.kind.weight
                  detail := s.detail.filter (· ≠ "")
                  line := s.range.start.line
                  children := Entry.ofLevel options (depth + 1) s.childList })
            else [])
      ∧ (∀ siblings, Entry.IsStableSort siblings (Entry.byWeight siblings))
      ∧ (∀ stack, Step.Reaches (Builder.step options) [.bottom (Symbol.shownRoots symbols)] stack →
          ∀ level ∈ stack, level.depth + 2 ≤ Symbol.levelsAll (Symbol.shownRoots symbols) + 2)
      ∧ Symbol.levelsAll (Symbol.shownRoots symbols) ≤ Symbol.levelsAll symbols := by
  refine ⟨?_, build_eq options log symbols, Builder.ofLevel_eq options,
    Entry.isStableSort_byWeight, ?_, Symbol.levelsAll_shownRoots_le symbols⟩
  · rw [build_eq]
    exact Step.exists_reaches_done (Builder.run_bottom (Symbol.shownRoots symbols))
  · intro stack h level hl
    exact Nat.add_le_add_right (Builder.depth_le_of_reaches h hl) 2

theorem depth_of_open_class :
    Step.Reaches (Builder.step ⟨true, none⟩) [.bottom (Symbol.shownRoots [Symbol.server])]
        [.opening ⟨true, none⟩ Symbol.server.normalized 1, ⟨none, [], #[], 0⟩]
      ∧ ∀ level ∈ [Builder.Level.opening ⟨true, none⟩ Symbol.server.normalized 1,
          ⟨none, [], #[], 0⟩],
        level.depth + 2 ≤ Symbol.levelsAll (Symbol.shownRoots [Symbol.server]) + 2 := by
  have h : Step.Reaches (Builder.step ⟨true, none⟩) [.bottom (Symbol.shownRoots [Symbol.server])]
      [.opening ⟨true, none⟩ Symbol.server.normalized 1, ⟨none, [], #[], 0⟩] :=
    .tail (.refl _) (Builder.step_open (by decide))
  exact ⟨h, (build_refines_ofLevel ⟨true, none⟩ #[] [Symbol.server]).2.2.2.2.1 _ h⟩

end Outline

end SymbolOutline
