import SymbolOutline.Outline.Levels

/-!
# The order of siblings

`Entry.byWeight` is a stable sort by weight (`isStableSort_byWeight`). Sorting
every level on the way to the entries is sorting the levels of the unsorted
entries in the end (`ofLevel_sorted`), and leaves their number as it is.
-/

namespace SymbolOutline.Entry

/-- The same entries by ascending weight, those of one weight in the order
they had. -/
structure IsStableSort (siblings sorted : List Entry) : Prop where
  ascending : sorted.Pairwise fun a b => a.weight ≤ b.weight
  stable : ∀ weight : Int32,
    (sorted.filter fun e => e.weight = weight) = siblings.filter fun e => e.weight = weight

theorem byWeight_perm (siblings : List Entry) : (byWeight siblings).Perm siblings :=
  List.mergeSort_perm siblings _

/-! ## Sorting by a weight -/

section

variable {α : Type} (weight : α → Int32)

theorem weight_trans (a b c : α) (hab : decide (weight a ≤ weight b))
    (hbc : decide (weight b ≤ weight c)) : decide (weight a ≤ weight c) :=
  decide_eq_true (Int32.le_trans (of_decide_eq_true hab) (of_decide_eq_true hbc))

theorem weight_total (a b : α) :
    decide (weight a ≤ weight b) || decide (weight b ≤ weight a) := by
  rcases Int32.le_total (weight a) (weight b) with h | h <;> simp [h]

theorem pairwise_mergeSort_weight (l : List α) :
    (l.mergeSort fun a b => weight a ≤ weight b).Pairwise fun a b => weight a ≤ weight b :=
  (List.pairwise_mergeSort (weight_trans weight) (weight_total weight) l).imp
    fun h => of_decide_eq_true h

/-- A sort leaves what has one weight in its order. -/
theorem filter_mergeSort_weight (l : List α) (w : Int32) :
    ((l.mergeSort fun a b => weight a ≤ weight b).filter fun a => weight a = w)
      = l.filter fun a => weight a = w := by
  -- what has one weight is sorted as it stands, so the sort keeps it as a sublist
  have hties : (l.filter fun a => weight a = w).Pairwise fun a b =>
      decide (weight a ≤ weight b) := by
    refine List.pairwise_of_forall_mem_list fun a ha b hb => ?_
    have haw : weight a = w := of_decide_eq_true (List.mem_filter.mp ha).2
    have hbw : weight b = w := of_decide_eq_true (List.mem_filter.mp hb).2
    rw [haw, hbw]
    exact decide_eq_true Int32.le_rfl
  have hsub := List.sublist_mergeSort (weight_trans weight) (weight_total weight) hties
    List.filter_sublist
  have hsub := hsub.filter fun a => decide (weight a = w)
  simp only [List.filter_filter, Bool.and_self] at hsub
  exact (hsub.eq_of_length ((List.mergeSort_perm l _).filter _).length_eq.symm).symm

theorem mem_of_ties {l l' : List α}
    (hties : ∀ w, (l.filter fun a => weight a = w) = l'.filter fun a => weight a = w) {a : α}
    (ha : a ∈ l) : a ∈ l' := by
  have hfilter : a ∈ l.filter fun b => weight b = weight a :=
    List.mem_filter.mpr ⟨ha, decide_eq_true rfl⟩
  rw [hties] at hfilter
  exact (List.mem_filter.mp hfilter).1

/-- A sorted list is told by the order of what has one weight, for every weight. -/
theorem eq_of_ties {l l' : List α} (h : l.Pairwise fun a b => weight a ≤ weight b)
    (h' : l'.Pairwise fun a b => weight a ≤ weight b)
    (hties : ∀ w, (l.filter fun a => weight a = w) = l'.filter fun a => weight a = w) : l = l' := by
  induction l generalizing l' with
  | nil => exact (List.eq_nil_iff_forall_not_mem.mpr fun a ha =>
      List.not_mem_nil (mem_of_ties weight (fun w => (hties w).symm) ha)).symm
  | cons a l ih =>
    cases l' with
    | nil => exact absurd (mem_of_ties weight hties List.mem_cons_self) List.not_mem_nil
    | cons b l' =>
      obtain ⟨hfirst, hrest⟩ := List.pairwise_cons.mp h
      obtain ⟨hfirst', hrest'⟩ := List.pairwise_cons.mp h'
      -- neither head is heavier than the other, so both come first of one weight
      have hle : weight b ≤ weight a := by
        rcases List.mem_cons.mp (mem_of_ties weight hties (List.mem_cons_self (a := a))) with
          rfl | ha
        · exact Int32.le_rfl
        · exact hfirst' a ha
      have hge : weight a ≤ weight b := by
        have hb : b ∈ a :: l := mem_of_ties weight (fun w => (hties w).symm) List.mem_cons_self
        rcases List.mem_cons.mp hb with rfl | hb
        · exact Int32.le_rfl
        · exact hfirst b hb
      have hab : weight b = weight a := Int32.le_antisymm hle hge
      have heads := hties (weight a)
      simp only [List.filter_cons, hab, decide_true, if_true] at heads
      obtain ⟨rfl, -⟩ := List.cons.inj heads
      have htails : ∀ w, (l.filter fun a => weight a = w) = l'.filter fun a => weight a = w := by
        intro w
        have htail := hties w
        rw [List.filter_cons, List.filter_cons] at htail
        split at htail
        · exact (List.cons.inj htail).2
        · exact htail
      rw [ih hrest hrest' htails]

end

theorem isStableSort_byWeight (siblings : List Entry) :
    IsStableSort siblings (byWeight siblings) where
  ascending := pairwise_mergeSort_weight weight siblings
  stable := filter_mergeSort_weight weight siblings

/-- Siblings that differ in the order of different weights only are sorted alike. -/
theorem byWeight_eq_of_ties {l l' : List Entry}
    (h : ∀ w, (l.filter fun e => e.weight = w) = l'.filter fun e => e.weight = w) :
    byWeight l = byWeight l' := by
  have hl := isStableSort_byWeight l
  have hl' := isStableSort_byWeight l'
  refine eq_of_ties weight hl.ascending hl'.ascending ?_
  intro w
  rw [hl.stable, hl'.stable, h w]

/-- What leaves the weights as they are can be done before or after sorting. -/
theorem byWeight_map {f : Entry → Entry} (hf : ∀ e, (f e).weight = e.weight) (l : List Entry) :
    byWeight (l.map f) = (byWeight l).map f := by
  refine (List.map_mergeSort fun a _ b _ => ?_).symm
  rw [hf, hf]

/-! ## Sorted levels -/

theorem sortAll_eq_map (l : List Entry) : sortAll l = l.map sort := by
  induction l with
  | nil => rfl
  | cons e rest ih => rw [sortAll, ih, List.map_cons]

theorem ofLevel_sorted (maxDepth : Option Nat) (depth : Nat) (siblings : List Symbol) :
    ofLevel ⟨true, maxDepth⟩ depth siblings
      = byWeight (sortAll (ofLevel ⟨false, maxDepth⟩ depth siblings)) := by
  induction siblings using Symbol.children_induction generalizing depth with
  | children siblings ih =>
    by_cases hs : (⟨false, maxDepth⟩ : BuildOptions).Shows depth
    · have hs' : (⟨true, maxDepth⟩ : BuildOptions).Shows depth := hs
      have htrees : ofTrees ⟨true, maxDepth⟩ depth siblings
          = sortAll (ofTrees ⟨false, maxDepth⟩ depth siblings) := by
        rw [ofTrees_eq_map, ofTrees_eq_map, sortAll_eq_map, List.map_map]
        refine List.map_congr_left fun s hs => ?_
        rw [Function.comp_apply, ofTree_eq, ofTree_eq, ih s hs (depth + 1)]
        rfl
      rw [ofLevel, ofLevel, if_pos hs, if_pos hs', htrees]
      rfl
    · have hs' : ¬(⟨true, maxDepth⟩ : BuildOptions).Shows depth := hs
      rw [ofLevel, ofLevel, if_neg hs, if_neg hs', sortAll, byWeight_nil]

/-! ## Sizes -/

theorem sizeAll_perm {l l' : List Entry} (h : l.Perm l') : sizeAll l = sizeAll l' := by
  induction h with
  | nil => rfl
  | cons e _ ih => rw [sizeAll, sizeAll, ih]
  | swap e e' l => simp only [sizeAll]; omega
  | trans _ _ ih ih' => exact ih.trans ih'

mutual

theorem size_sort : ∀ e : Entry, e.sort.size = e.size
  | ⟨_, _, _, _, _, _, children⟩ => by
    rw [sort, size, size, sizeAll_perm (byWeight_perm _), sizeAll_sortAll children]

theorem sizeAll_sortAll : ∀ l : List Entry, sizeAll (sortAll l) = sizeAll l
  | [] => rfl
  | e :: rest => by
    rw [sortAll, sizeAll, sizeAll, size_sort e, sizeAll_sortAll rest]

end

theorem sizeAll_ofLevel (options : BuildOptions) (depth : Nat) (siblings : List Symbol) :
    sizeAll (ofLevel options depth siblings)
      = sizeAll (ofLevel ⟨false, options.maxDepth⟩ depth siblings) := by
  obtain ⟨sort, maxDepth⟩ := options
  cases sort with
  | false => rfl
  | true => rw [ofLevel_sorted, sizeAll_perm (byWeight_perm _), sizeAll_sortAll]

end SymbolOutline.Entry
