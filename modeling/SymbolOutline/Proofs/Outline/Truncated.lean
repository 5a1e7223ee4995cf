import SymbolOutline.Proofs.Outline.Provenance

/-!
# Capped outlines

The conversion withholds the symbols of levels that are not shown. What comes
out is the outline of all levels cut off below the cap (`ofLevel_capped`),
sorted or not. `Entry.truncateAll` is told by addresses (`at?_truncateAll`):
it keeps the entries whose addresses are not too long.
-/

namespace SymbolOutline

namespace Entry

/-! ## Cutting off -/

theorem truncate_eq (below : Nat) (e : Entry) :
    e.truncate below = { e with children := truncateAll below e.children } := by
  cases e; rfl

@[simp] theorem bare_truncate (below : Nat) (e : Entry) : (e.truncate below).bare = e.bare := by
  cases e; rfl

@[simp] theorem weight_truncate (below : Nat) (e : Entry) :
    (e.truncate below).weight = e.weight := by
  cases e; rfl

@[simp] theorem truncateAll_zero (l : List Entry) : truncateAll 0 l = [] := by
  cases l <;> rfl

@[simp] theorem truncateAll_succ (n : Nat) (l : List Entry) :
    truncateAll (n + 1) l = l.map (truncate n) := by
  induction l with
  | nil => rfl
  | cons e rest ih =>
    rw [truncateAll, if_neg (Nat.succ_ne_zero n), ih, Nat.add_sub_cancel, List.map_cons]

mutual

theorem truncate_truncate (m n : Nat) :
    ∀ e : Entry, (e.truncate n).truncate m = e.truncate (min n m)
  | ⟨_, _, _, _, _, _, children⟩ => by
    rw [truncate, truncate, truncate, truncateAll_truncateAll m n children]

theorem truncateAll_truncateAll (m n : Nat) :
    ∀ l : List Entry, truncateAll m (truncateAll n l) = truncateAll (min n m) l
  | [] => by simp [truncateAll]
  | e :: rest => by
    cases n with
    | zero => rw [truncateAll_zero, Nat.zero_min, truncateAll_zero]; rfl
    | succ n =>
      cases m with
      | zero => rw [truncateAll_zero, Nat.min_zero, truncateAll_zero]
      | succ m =>
        have hrest := truncateAll_truncateAll (m + 1) (n + 1) rest
        rw [Nat.succ_min_succ] at hrest ⊢
        rw [truncateAll_succ n (e :: rest), List.map_cons, truncateAll_succ m, List.map_cons,
          truncate_truncate m n e, truncateAll_succ (min n m), List.map_cons]
        rw [truncateAll_succ n, truncateAll_succ m, truncateAll_succ (min n m)] at hrest
        rw [hrest]

end

mutual

theorem truncate_of_levels_le {below : Nat} :
    ∀ {e : Entry}, e.levels ≤ below + 1 → e.truncate below = e
  | ⟨_, _, _, _, _, _, children⟩, h => by
    rw [levels] at h
    rw [truncate, truncateAll_of_levelsAll_le (by omega)]

theorem truncateAll_of_levelsAll_le {n : Nat} :
    ∀ {l : List Entry}, levelsAll l ≤ n → truncateAll n l = l
  | [], _ => rfl
  | e :: rest, h => by
    rw [levelsAll] at h
    have hpos : n ≠ 0 := by
      have := e.levels_eq
      omega
    rw [truncateAll, if_neg hpos, truncate_of_levels_le (by omega),
      truncateAll_of_levelsAll_le (by omega)]

end

mutual

theorem levels_truncate_le (below : Nat) : ∀ e : Entry, (e.truncate below).levels ≤ 1 + below
  | ⟨_, _, _, _, _, _, children⟩ => by
    rw [truncate, levels]
    exact Nat.add_le_add_left (levelsAll_truncateAll_le below children) 1

theorem levelsAll_truncateAll_le (n : Nat) : ∀ l : List Entry, levelsAll (truncateAll n l) ≤ n
  | [] => Nat.zero_le _
  | e :: rest => by
    rw [truncateAll]
    split
    · exact Nat.zero_le _
    · have := levels_truncate_le (n - 1) e
      have := levelsAll_truncateAll_le n rest
      rw [levelsAll]
      omega

end

mutual

theorem size_truncate_le (below : Nat) : ∀ e : Entry, (e.truncate below).size ≤ e.size
  | ⟨_, _, _, _, _, _, children⟩ => by
    rw [truncate, size, size]
    exact Nat.add_le_add_left (sizeAll_truncateAll_le below children) 1

theorem sizeAll_truncateAll_le (n : Nat) : ∀ l : List Entry, sizeAll (truncateAll n l) ≤ sizeAll l
  | [] => Nat.le_refl _
  | e :: rest => by
    rw [truncateAll]
    split
    · exact Nat.zero_le _
    · rw [sizeAll, sizeAll]
      exact Nat.add_le_add (size_truncate_le _ e) (sizeAll_truncateAll_le n rest)

end

theorem sizeAll_truncateAll_mono {m n : Nat} (h : m ≤ n) (l : List Entry) :
    sizeAll (truncateAll m l) ≤ sizeAll (truncateAll n l) := by
  have htwice := truncateAll_truncateAll m n l
  rw [Nat.min_eq_right h] at htwice
  rw [← htwice]
  exact sizeAll_truncateAll_le m (truncateAll n l)

/-! ## Addresses -/

/-- What is left at an address, if it is short enough. -/
theorem at?_truncateAll (n : Nat) (l : List Entry) (address : List Nat) :
    (at? (truncateAll n l) address).map bare
      = if address.length ≤ n then (at? l address).map bare else none := by
  induction address generalizing n l with
  | nil => cases l <;> simp [at?]
  | cons i address ih =>
    cases n with
    | zero => simp [at?_nil]
    | succ n =>
      rw [at?_cons, at?_cons, truncateAll_succ, List.getElem?_map, List.length_cons]
      cases hi : l[i]? with
      | none => simp
      | some e =>
        by_cases ha : address = []
        · simp [ha]
        · have hchild := ih n e.children
          simp only [Option.map_some, Option.bind_some, if_neg ha, truncate_eq, hchild,
            Nat.add_le_add_iff_right]

end Entry

/-! ## Capped levels -/

theorem Builder.arrange_map {options : BuildOptions} {f : Entry → Entry}
    (hf : ∀ e, (f e).weight = e.weight) (l : List Entry) :
    arrange options (l.map f) = (arrange options l).map f := by
  unfold arrange
  split
  · exact Entry.byWeight_map hf l
  · rfl

theorem Entry.ofLevel_capped (sort : Bool) (limit depth : Nat) (siblings : List Symbol) :
    ofLevel ⟨sort, some limit⟩ (depth + 1) siblings
      = truncateAll (limit - depth) (ofLevel ⟨sort, none⟩ (depth + 1) siblings) := by
  induction siblings using Symbol.children_induction generalizing depth with
  | children siblings ih =>
    have hall : (⟨sort, none⟩ : BuildOptions).Shows (depth + 1) := by
      intro _ hnone
      cases hnone
    rw [Builder.ofLevel_eq, Builder.ofLevel_eq, if_pos hall]
    by_cases hd : depth + 1 ≤ limit
    · have hshown : (⟨sort, some limit⟩ : BuildOptions).Shows (depth + 1) := by
        intro _ hlimit
        cases hlimit
        exact hd
      obtain ⟨n, rfl⟩ : ∃ n, limit = depth + 1 + n := ⟨limit - (depth + 1), by omega⟩
      have hn : depth + 1 + n - depth = n + 1 := by omega
      rw [if_pos hshown, hn, truncateAll_succ]
      show Builder.arrange ⟨sort, none⟩ _ = _
      rw [← Builder.arrange_map (weight_truncate n), List.map_map]
      congr 1
      refine List.map_congr_left fun s hs => ?_
      have hchildren := ih s hs (depth + 1)
      rw [Nat.add_sub_cancel_left] at hchildren
      rw [Function.comp_apply, truncate_eq, hchildren]
    · have hhidden : ¬(⟨sort, some limit⟩ : BuildOptions).Shows (depth + 1) :=
        fun h => hd (h limit rfl)
      have hn : limit - depth = 0 := by omega
      rw [if_neg hhidden, hn, truncateAll_zero]

namespace Outline

theorem build_capped (sort : Bool) (limit : Nat) (log : Log) (symbols : List Symbol) :
    (build ⟨sort, some limit⟩ log symbols).1
      = (build ⟨sort, none⟩ log symbols).1.truncate limit := by
  rw [build_eq, build_eq, truncate, Entry.ofLevel_capped]
  rfl

theorem levels_build_le_cap {options : BuildOptions} {limit : Nat}
    (h : options.maxDepth = some limit) (log : Log) (symbols : List Symbol) :
    (build options log symbols).1.levels ≤ limit := by
  obtain ⟨sort, maxDepth⟩ := options
  obtain rfl : maxDepth = some limit := h
  rw [build_capped]
  exact Entry.levelsAll_truncateAll_le limit _

/-- A cap cuts the outline of all levels off below it: the entries with
addresses no longer than the cap are left, with their fields. So two caps are
the lower of the two, a higher cap shows no fewer entries, a cap of zero shows
none, and a cap that all levels fit in shows all. -/
theorem cap_cuts_off (sort : Bool) (log : Log) (symbols : List Symbol) :
    (∀ limit, (build ⟨sort, some limit⟩ log symbols).1
        = (build ⟨sort, none⟩ log symbols).1.truncate limit)
      ∧ (∀ limit a, (Entry.at? (build ⟨sort, some limit⟩ log symbols).1.entries a).map Entry.bare
          = if a.length ≤ limit then
              (Entry.at? (build ⟨sort, none⟩ log symbols).1.entries a).map Entry.bare
            else none)
      ∧ (∀ limit limit', (build ⟨sort, some limit⟩ log symbols).1.truncate limit'
          = (build ⟨sort, some (min limit limit')⟩ log symbols).1)
      ∧ (∀ limit limit', limit ≤ limit' → (build ⟨sort, some limit⟩ log symbols).1.count
          ≤ (build ⟨sort, some limit'⟩ log symbols).1.count)
      ∧ (build ⟨sort, some 0⟩ log symbols).1.entries = []
      ∧ ∀ limit, (build ⟨sort, none⟩ log symbols).1.levels ≤ limit →
          (build ⟨sort, some limit⟩ log symbols).1 = (build ⟨sort, none⟩ log symbols).1 := by
  refine ⟨fun limit => build_capped sort limit log symbols, ?_, ?_, ?_, ?_, ?_⟩
  · intro limit a
    rw [build_capped]
    exact Entry.at?_truncateAll limit _ a
  · intro limit limit'
    rw [build_capped, build_capped]
    exact congrArg Outline.mk (Entry.truncateAll_truncateAll limit' limit _)
  · intro limit limit' h
    rw [build_capped, build_capped, count_eq, count_eq]
    exact Entry.sizeAll_truncateAll_mono h _
  · rw [build_capped]
    exact Entry.truncateAll_zero _
  · intro limit h
    rw [build_capped]
    exact congrArg Outline.mk (Entry.truncateAll_of_levelsAll_le h)

/-- A class and its members are two levels. -/
theorem cap_of_server :
    (build ⟨false, none⟩ #[] [Symbol.server]).1.levels ≤ 2
      ∧ (build ⟨false, some 2⟩ #[] [Symbol.server]).1 = (build ⟨false, none⟩ #[] [Symbol.server]).1
      ∧ (build ⟨false, some 1⟩ #[] [Symbol.server]).1.count
          ≤ (build ⟨false, some 2⟩ #[] [Symbol.server]).1.count := by
  have hlevels : (build ⟨false, none⟩ #[] [Symbol.server]).1.levels ≤ 2 := by decide +kernel
  obtain ⟨-, -, -, hmono, -, hfits⟩ := cap_cuts_off false #[] [Symbol.server]
  exact ⟨hlevels, hfits 2 hlevels, hmono 1 2 (by decide)⟩

end Outline

end SymbolOutline
