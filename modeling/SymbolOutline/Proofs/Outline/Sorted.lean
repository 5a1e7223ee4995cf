import SymbolOutline.Proofs.Outline.Provenance

/-!
# Sorted outlines

Sorting an outline moves entries among their siblings and does nothing else.
`unsortedAddress` says where the entry at an address of the sorted outline
stood before; it is a bijection on all addresses that respects parents, and
keeps the order of siblings with one weight (`rearranges_sorted`).
-/

namespace SymbolOutline

namespace Entry

/-- `φ` leads from the entries of `sorted` back to those of `plain`, which are
the same but for the order of siblings. -/
structure Rearranges (φ : List Nat → List Nat) (plain sorted : List Entry) : Prop where
  bijective : Function.Bijective φ
  roots : φ [] = []
  /-- The fields of an entry stay. -/
  fields : ∀ a, (at? sorted a).map bare = (at? plain (φ a)).map bare
  /-- An entry stays below the same parent. -/
  parent : ∀ a i, ∃ k, φ (a ++ [i]) = φ a ++ [k]
  /-- Siblings ascend by weight. -/
  ascending : ∀ a i j e e', i < j → at? sorted (a ++ [i]) = some e →
    at? sorted (a ++ [j]) = some e' → e.weight ≤ e'.weight
  /-- Siblings of one weight stand in the order they had. -/
  stable : ∀ a i j e e', i < j → at? sorted (a ++ [i]) = some e →
    at? sorted (a ++ [j]) = some e' → e.weight = e'.weight →
      ∃ k l, φ (a ++ [i]) = φ a ++ [k] ∧ φ (a ++ [j]) = φ a ++ [l] ∧ k < l

/-! ## Ranks -/

/-- Siblings by weight, with the indices they had. -/
def byRank (siblings : List Entry) : List (Entry × Nat) :=
  siblings.zipIdx.mergeSort fun r r' => r.1.weight ≤ r'.1.weight

/-- The index that the sibling with the given index had before sorting. -/
def rank (siblings : List Entry) (i : Nat) : Nat := ((byRank siblings)[i]?.map Prod.snd).getD i

theorem byRank_perm (l : List Entry) : (byRank l).Perm l.zipIdx := List.mergeSort_perm _ _

theorem length_byRank (l : List Entry) : (byRank l).length = l.length := by
  rw [(byRank_perm l).length_eq, List.length_zipIdx]

theorem map_fst_byRank (l : List Entry) : (byRank l).map Prod.fst = byWeight l := by
  have h : (byRank l).map Prod.fst = byWeight (l.zipIdx.map Prod.fst) :=
    List.map_mergeSort fun _ _ _ _ => rfl
  rw [h, List.zipIdx_map_fst]

theorem nodup_byRank (l : List Entry) : ((byRank l).map Prod.snd).Nodup := by
  rw [((byRank_perm l).map Prod.snd).nodup_iff, List.zipIdx_map_snd]
  exact List.nodup_range'

theorem mem_byRank {l : List Entry} {e : Entry} {j : Nat} : (e, j) ∈ byRank l ↔ l[j]? = some e := by
  rw [(byRank_perm l).mem_iff, List.mem_zipIdx_iff_getElem?]

theorem rank_of_getElem? {l : List Entry} {e : Entry} {i j : Nat}
    (h : (byRank l)[i]? = some (e, j)) : rank l i = j := by
  rw [rank, h]; rfl

theorem rank_of_length_le {l : List Entry} {i : Nat} (h : l.length ≤ i) : rank l i = i := by
  rw [rank, List.getElem?_eq_none (by rwa [length_byRank])]; rfl

/-- A sibling and its rank, where there is one. -/
theorem exists_byRank {l : List Entry} {i : Nat} (h : i < l.length) :
    ∃ e, (byRank l)[i]? = some (e, rank l i) ∧ l[rank l i]? = some e := by
  rw [← length_byRank] at h
  have hi : (byRank l)[i]? = some ((byRank l)[i].1, (byRank l)[i].2) := List.getElem?_eq_getElem h
  rw [rank_of_getElem? hi]
  exact ⟨_, hi, mem_byRank.mp (List.mem_of_getElem? hi)⟩

theorem rank_lt {l : List Entry} {i : Nat} (h : i < l.length) : rank l i < l.length := by
  obtain ⟨e, -, hj⟩ := exists_byRank h
  exact (List.getElem?_eq_some_iff.mp hj).1

theorem getElem?_byWeight (l : List Entry) (i : Nat) : (byWeight l)[i]? = l[rank l i]? := by
  rw [← map_fst_byRank, List.getElem?_map]
  by_cases h : i < l.length
  · obtain ⟨e, hi, hj⟩ := exists_byRank h
    rw [hi, hj]; rfl
  · have hle : l.length ≤ i := Nat.le_of_not_lt h
    rw [rank_of_length_le hle, List.getElem?_eq_none hle,
      List.getElem?_eq_none (by rwa [length_byRank])]
    rfl

theorem rank_lt_iff {l : List Entry} {i : Nat} : rank l i < l.length ↔ i < l.length := by
  by_cases h : i < l.length
  · exact iff_of_true (rank_lt h) h
  · rw [rank_of_length_le (Nat.le_of_not_lt h)]

theorem rank_injective (l : List Entry) : Function.Injective (rank l) := by
  intro i i' h
  have hsame : i < l.length ↔ i' < l.length := by rw [← rank_lt_iff, h, rank_lt_iff]
  by_cases hi : i < l.length
  · obtain ⟨e, hr, -⟩ := exists_byRank hi
    obtain ⟨e', hr', -⟩ := exists_byRank (hsame.mp hi)
    have heq : ((byRank l).map Prod.snd)[i]? = ((byRank l).map Prod.snd)[i']? := by
      rw [List.getElem?_map, List.getElem?_map, hr, hr', Option.map_some, Option.map_some, h]
    have hlt : i < ((byRank l).map Prod.snd).length := by rwa [List.length_map, length_byRank]
    exact (List.getElem?_inj hlt (nodup_byRank l)).mp heq
  · have hi' : ¬i' < l.length := mt hsame.mpr hi
    rwa [rank_of_length_le (Nat.le_of_not_lt hi), rank_of_length_le (Nat.le_of_not_lt hi')] at h

theorem rank_surjective (l : List Entry) : Function.Surjective (rank l) := by
  intro j
  by_cases h : j < l.length
  · obtain ⟨i, hi⟩ := List.mem_iff_getElem?.mp (mem_byRank.mpr (List.getElem?_eq_getElem h))
    exact ⟨i, rank_of_getElem? hi⟩
  · exact ⟨j, rank_of_length_le (Nat.le_of_not_lt h)⟩

/-- Ranks by weight, and within one weight by the index before. -/
theorem byRank_pairwise (l : List Entry) :
    (byRank l).Pairwise fun r r' => r.1.weight = r'.1.weight → r.2 < r'.2 := by
  have hzip : l.zipIdx.Pairwise fun r r' => r.2 < r'.2 := by
    rw [← List.pairwise_map, List.zipIdx_map_snd]
    exact List.pairwise_lt_range'
  have hties : ∀ w, (byRank l).Pairwise fun r r' =>
      r.1.weight = w → r'.1.weight = w → r.2 < r'.2 := by
    intro w
    have hfilter : ((byRank l).filter fun r => r.1.weight = w).Pairwise fun r r' => r.2 < r'.2 := by
      rw [byRank, filter_mergeSort_weight fun r : Entry × Nat => r.1.weight]
      exact hzip.filter _
    rw [List.pairwise_filter] at hfilter
    exact hfilter.imp fun h hr hr' => h (decide_eq_true hr) (decide_eq_true hr')
  rw [List.pairwise_iff_getElem]
  intro i j hi hj hij heq
  exact List.pairwise_iff_getElem.mp (hties (byRank l)[j].1.weight) i j hi hj hij heq rfl

/-! ## Addresses -/

/-- The entries right below one of siblings. -/
def childrenAt (siblings : List Entry) (i : Nat) : List Entry :=
  (siblings[i]?.map children).getD []

/-- The entries right below an address, and the roots below the empty one. -/
def siblingsBelow (roots : List Entry) : List Nat → List Entry
  | [] => roots
  | i :: address => siblingsBelow (childrenAt roots i) address

theorem at?_append_singleton (l : List Entry) (a : List Nat) (i : Nat) :
    at? l (a ++ [i]) = (siblingsBelow l a)[i]? := by
  induction a generalizing l with
  | nil => rfl
  | cons j a ih =>
    have hne : a ++ [i] ≠ [] := by simp
    rw [List.cons_append, at?_cons, siblingsBelow, ← ih, childrenAt]
    cases l[j]? with
    | none =>
      show none = at? [] (a ++ [i])
      rw [at?_nil]
    | some e => simp only [Option.bind_some, if_neg hne, Option.map_some, Option.getD_some]

/-- Where the entry at an address of the sorted outline stood before. -/
def unsortedAddress (roots : List Entry) : List Nat → List Nat
  | [] => []
  | i :: address => rank roots i :: unsortedAddress (childrenAt roots (rank roots i)) address

theorem unsortedAddress_append_singleton (l : List Entry) (a : List Nat) (i : Nat) :
    unsortedAddress l (a ++ [i])
      = unsortedAddress l a ++ [rank (siblingsBelow l (unsortedAddress l a)) i] := by
  induction a generalizing l with
  | nil => rfl
  | cons j a ih =>
    rw [List.cons_append, unsortedAddress, ih, unsortedAddress, siblingsBelow, List.cons_append]

theorem unsortedAddress_injective (l : List Entry) : Function.Injective (unsortedAddress l) := by
  intro a
  induction a generalizing l with
  | nil =>
    intro b h
    cases b with
    | nil => rfl
    | cons j b => cases h
  | cons i a ih =>
    intro b h
    cases b with
    | nil => cases h
    | cons j b =>
      obtain ⟨hrank, hrest⟩ := List.cons.inj h
      obtain rfl := rank_injective l hrank
      rw [ih _ hrest]

theorem unsortedAddress_surjective (l : List Entry) : Function.Surjective (unsortedAddress l) := by
  intro b
  induction b generalizing l with
  | nil => exact ⟨[], rfl⟩
  | cons j b ih =>
    obtain ⟨i, rfl⟩ := rank_surjective l j
    obtain ⟨a, rfl⟩ := ih (childrenAt l (rank l i))
    exact ⟨i :: a, rfl⟩

/-! ## Sorted siblings -/

@[simp] theorem weight_sort (e : Entry) : e.sort.weight = e.weight := by
  cases e; rfl

@[simp] theorem bare_sort (e : Entry) : e.sort.bare = e.bare := by
  cases e; rfl

theorem children_sort (e : Entry) : e.sort.children = byWeight (sortAll e.children) := by
  cases e; rfl

theorem getElem?_sorted (l : List Entry) (i : Nat) :
    (byWeight (sortAll l))[i]? = l[rank l i]?.map sort := by
  rw [sortAll_eq_map, byWeight_map weight_sort, List.getElem?_map, getElem?_byWeight]

theorem childrenAt_sorted (l : List Entry) (i : Nat) :
    childrenAt (byWeight (sortAll l)) i = byWeight (sortAll (childrenAt l (rank l i))) := by
  rw [childrenAt, childrenAt, getElem?_sorted]
  cases l[rank l i]? with
  | none => exact byWeight_nil.symm
  | some e => exact children_sort e

theorem siblingsBelow_sorted (l : List Entry) (a : List Nat) :
    siblingsBelow (byWeight (sortAll l)) a
      = byWeight (sortAll (siblingsBelow l (unsortedAddress l a))) := by
  induction a generalizing l with
  | nil => rfl
  | cons i a ih => rw [siblingsBelow, childrenAt_sorted, ih, unsortedAddress, siblingsBelow]

theorem at?_sorted (l : List Entry) (a : List Nat) (i : Nat) :
    at? (byWeight (sortAll l)) (a ++ [i]) = (at? l (unsortedAddress l (a ++ [i]))).map sort := by
  rw [at?_append_singleton, siblingsBelow_sorted, getElem?_sorted, unsortedAddress_append_singleton,
    at?_append_singleton]

theorem rank_lt_rank {l : List Entry} {i j : Nat} {e e' : Entry} (hij : i < j)
    (he : (byWeight l)[i]? = some e) (he' : (byWeight l)[j]? = some e')
    (hw : e.weight = e'.weight) : rank l i < rank l j := by
  rw [← map_fst_byRank, List.getElem?_map, Option.map_eq_some_iff] at he he'
  obtain ⟨⟨_, k⟩, hk, rfl⟩ := he
  obtain ⟨⟨_, k'⟩, hk', rfl⟩ := he'
  obtain ⟨hi, hget⟩ := List.getElem?_eq_some_iff.mp hk
  obtain ⟨hj, hget'⟩ := List.getElem?_eq_some_iff.mp hk'
  have hlt := List.pairwise_iff_getElem.mp (byRank_pairwise l) i j hi hj hij
  rw [hget, hget'] at hlt
  rw [rank_of_getElem? hk, rank_of_getElem? hk']
  exact hlt hw

theorem rearranges_sorted (l : List Entry) :
    Rearranges (unsortedAddress l) l (byWeight (sortAll l)) where
  bijective := ⟨unsortedAddress_injective l, unsortedAddress_surjective l⟩
  roots := rfl
  fields a := by
    rcases List.eq_nil_or_concat a with rfl | ⟨a, i, rfl⟩
    · rfl
    · rw [List.concat_eq_append, at?_sorted, Option.map_map]
      exact congrArg (Option.map · _) (funext bare_sort)
  parent a i := ⟨_, unsortedAddress_append_singleton l a i⟩
  ascending a i j e e' hij he he' := by
    rw [at?_append_singleton, siblingsBelow_sorted] at he he'
    obtain ⟨hi, rfl⟩ := List.getElem?_eq_some_iff.mp he
    obtain ⟨hj, rfl⟩ := List.getElem?_eq_some_iff.mp he'
    exact List.pairwise_iff_getElem.mp (isStableSort_byWeight _).ascending i j hi hj hij
  stable a i j e e' hij he he' hw := by
    refine ⟨_, _, unsortedAddress_append_singleton l a i,
      unsortedAddress_append_singleton l a j, ?_⟩
    rw [at?_append_singleton, siblingsBelow_sorted, sortAll_eq_map, byWeight_map weight_sort,
      List.getElem?_map, Option.map_eq_some_iff] at he he'
    obtain ⟨e, he, rfl⟩ := he
    obtain ⟨e', he', rfl⟩ := he'
    rw [weight_sort, weight_sort] at hw
    exact rank_lt_rank hij he he' hw

end Entry

namespace Outline

theorem build_sorted (maxDepth : Option Nat) (log : Log) (symbols : List Symbol) :
    (build ⟨true, maxDepth⟩ log symbols).1 = (build ⟨false, maxDepth⟩ log symbols).1.sort := by
  rw [build_eq, build_eq, Entry.ofLevel_sorted]
  rfl

/-- Sorting on the way is sorting the siblings of all levels in the end, by a
stable sort. So it moves entries among their siblings only: these ascend by
weight, those of one weight stay in their order, and every entry keeps its
fields and its parent. -/
theorem sort_only_permutes_siblings (maxDepth : Option Nat) (log : Log) (symbols : List Symbol) :
    (build ⟨true, maxDepth⟩ log symbols).1 = (build ⟨false, maxDepth⟩ log symbols).1.sort
      ∧ (∀ siblings, Entry.IsStableSort siblings (Entry.byWeight siblings))
      ∧ (∃ φ, Entry.Rearranges φ (build ⟨false, maxDepth⟩ log symbols).1.entries
          (build ⟨true, maxDepth⟩ log symbols).1.entries)
      ∧ (build ⟨true, maxDepth⟩ log symbols).1.count
          = (build ⟨false, maxDepth⟩ log symbols).1.count := by
  refine ⟨build_sorted maxDepth log symbols, Entry.isStableSort_byWeight, ?_, ?_⟩
  · rw [build_sorted]
    exact ⟨_, Entry.rearranges_sorted _⟩
  · rw [count_build, count_build]

end Outline

end SymbolOutline
