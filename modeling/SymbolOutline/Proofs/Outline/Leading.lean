import SymbolOutline.Proofs.Outline.Sorted
import SymbolOutline.Proofs.Response.Nested

/-!
# Leading kinds

Siblings of a sorted outline ascend by the weights of their kinds
(`Outline.siblings_ascending`), so leading kinds stand in their order and all
others by number. A leading kind comes before every kind with a number above its
weight, which is at most -94 (`SymbolKind.weight_of_leading`). A kind that the
protocol does not name may have a lower number, and then comes first
(`Outline.leading_kinds_precede_greater`).
-/

namespace SymbolOutline

namespace SymbolKind

theorem weight_of_not_leading {kind : SymbolKind} (h : kind ∉ leading) :
    kind.weight = kind.ordinal := by
  rw [weight, List.idxOf?_eq_none_iff.mpr h]

theorem weight_of_leading {kind : SymbolKind} (h : kind ∈ leading) :
    -100 ≤ kind.weight ∧ kind.weight ≤ -94 :=
  (by decide : ∀ kind ∈ leading, -100 ≤ kind.weight ∧ kind.weight ≤ -94) kind h

theorem idxOf_le_of_weight_le {kind kind' : SymbolKind} (h : kind ∈ leading)
    (h' : kind' ∈ leading) (hle : kind.weight ≤ kind'.weight) :
    leading.idxOf kind ≤ leading.idxOf kind' :=
  (by decide : ∀ kind ∈ leading, ∀ kind' ∈ leading, kind.weight ≤ kind'.weight →
    leading.idxOf kind ≤ leading.idxOf kind') kind h kind' h' hle

end SymbolKind

namespace Entry

@[simp] theorem siblingsBelow_nil (address : List Nat) : siblingsBelow [] address = [] := by
  induction address with
  | nil => rfl
  | cons i address ih => exact ih

/-- The weights of built entries are those of their kinds. -/
theorem weight_of_mem_siblingsBelow {options : BuildOptions} {depth : Nat}
    {siblings : List Symbol} {address : List Nat} {e : Entry}
    (h : e ∈ siblingsBelow (ofLevel options depth siblings) address) :
    e.weight = e.kind.weight := by
  -- an entry of a level comes of a symbol there, whose children are the next level
  have hsource : ∀ depth siblings e, e ∈ ofLevel options depth siblings → ∃ s ∈ siblings,
      e = { ofSymbol s with children := ofLevel options (depth + 1) s.childList } := by
    intro depth siblings e he
    rw [Builder.ofLevel_eq] at he
    split at he
    · rw [(Builder.arrange_perm options _).mem_iff] at he
      obtain ⟨s, hs, rfl⟩ := List.mem_map.mp he
      exact ⟨s, hs, rfl⟩
    · cases he
  induction address generalizing depth siblings with
  | nil =>
    obtain ⟨s, -, rfl⟩ := hsource depth siblings e h
    rfl
  | cons i address ih =>
    rw [siblingsBelow, childrenAt] at h
    cases hi : (ofLevel options depth siblings)[i]? with
    | none =>
      have hnil : e ∈ siblingsBelow [] address := by rwa [hi] at h
      rw [siblingsBelow_nil] at hnil
      cases hnil
    | some parent =>
      obtain ⟨s, -, rfl⟩ := hsource depth siblings parent (List.mem_of_getElem? hi)
      rw [hi] at h
      exact ih h

@[simp] theorem kind_sort (e : Entry) : e.sort.kind = e.kind := by
  cases e; rfl

/-- Two siblings of which the second weighs less change places. -/
theorem byWeight_pair {e e' : Entry} (h : e'.weight < e.weight) : byWeight [e, e'] = [e', e] := by
  have hsorted := isStableSort_byWeight [e, e']
  refine eq_of_ties weight hsorted.ascending (List.pairwise_pair.mpr (Int32.le_of_lt h)) ?_
  intro w
  rw [hsorted.stable]
  by_cases hw : e.weight = w
  · have hw' : e'.weight ≠ w := fun hw' => Int32.ne_of_lt h (hw'.trans hw.symm)
    simp [hw, hw']
  · simp [List.filter_cons, hw]

end Entry

namespace Outline

open SymbolKind (leading)

theorem siblings_ascending (maxDepth : Option Nat) (log : Log) (symbols : List Symbol)
    (address : List Nat) :
    (Entry.siblingsBelow (build ⟨true, maxDepth⟩ log symbols).1.entries address).Pairwise
      fun e e' => e.kind.weight ≤ e'.kind.weight := by
  have hweight : ∀ e ∈ Entry.siblingsBelow (build ⟨true, maxDepth⟩ log symbols).1.entries address,
      e.weight = e.kind.weight := by
    intro e he
    rw [build_eq] at he
    exact Entry.weight_of_mem_siblingsBelow he
  have hsorted : (Entry.siblingsBelow (build ⟨true, maxDepth⟩ log symbols).1.entries
      address).Pairwise fun e e' => e.weight ≤ e'.weight := by
    rw [build_sorted, sort, Entry.siblingsBelow_sorted]
    exact (Entry.isStableSort_byWeight _).ascending
  refine hsorted.imp_of_mem fun he he' hle => ?_
  rwa [hweight _ he, hweight _ he'] at hle

/-- What weighs less than a sibling does not stand after it. -/
theorem not_pairwise_of_lighter {siblings : List Entry} {R : Entry → Entry → Prop}
    (hsorted : siblings.Pairwise fun e e' => e.kind.weight ≤ e'.kind.weight) {e e' : Entry}
    (he : e ∈ siblings) (he' : e' ∈ siblings) (hlt : e.kind.weight < e'.kind.weight)
    (hR : ¬R e e') : ¬siblings.Pairwise R := by
  intro h
  obtain ⟨i, hi, rfl⟩ := List.getElem_of_mem he
  obtain ⟨j, hj, rfl⟩ := List.getElem_of_mem he'
  rcases Nat.lt_trichotomy i j with hij | rfl | hji
  · exact hR (List.pairwise_iff_getElem.mp h i j hi hj hij)
  · exact Int32.lt_irrefl hlt
  · have hle := List.pairwise_iff_getElem.mp hsorted j i hj hi hji
    exact Int32.not_lt.mpr hle hlt

/-- In a sorted outline, leading kinds stand among their siblings in their
order, and other kinds by number. Of the other kinds only one with a number up to
its weight stands before a leading kind, and one with a number below it does. No
weight of a leading kind is above -94. -/
theorem leading_kinds_precede_greater (maxDepth : Option Nat) (log : Log) (symbols : List Symbol)
    (address : List Nat) :
    let siblings := Entry.siblingsBelow (build ⟨true, maxDepth⟩ log symbols).1.entries address
    (siblings.Pairwise fun e e' => e.kind ∈ leading → e'.kind ∈ leading →
        leading.idxOf e.kind ≤ leading.idxOf e'.kind)
      ∧ (siblings.Pairwise fun e e' => e.kind ∉ leading → e'.kind ∉ leading →
        e.kind.ordinal ≤ e'.kind.ordinal)
      ∧ (siblings.Pairwise fun e e' => e'.kind ∈ leading →
        e.kind ∈ leading ∨ e.kind.ordinal ≤ e'.kind.weight ∧ e'.kind.weight ≤ -94)
      ∧ ∀ e ∈ siblings, ∀ e' ∈ siblings, e.kind ∉ leading → e'.kind ∈ leading →
        e.kind.ordinal < e'.kind.weight →
          ¬siblings.Pairwise fun e e' => e'.kind ∈ leading → e.kind ∈ leading := by
  intro siblings
  have hsorted : siblings.Pairwise fun e e' => e.kind.weight ≤ e'.kind.weight :=
    siblings_ascending maxDepth log symbols address
  refine ⟨?_, ?_, ?_, ?_⟩
  · exact hsorted.imp fun hle h h' => SymbolKind.idxOf_le_of_weight_le h h' hle
  · refine hsorted.imp fun hle h h' => ?_
    rwa [SymbolKind.weight_of_not_leading h, SymbolKind.weight_of_not_leading h'] at hle
  · refine hsorted.imp fun {e e'} hle h' => ?_
    by_cases h : e.kind ∈ leading
    · exact .inl h
    · rw [SymbolKind.weight_of_not_leading h] at hle
      exact .inr ⟨hle, (SymbolKind.weight_of_leading h').2⟩
  · intro e he e' he' h h' hlt
    rw [← SymbolKind.weight_of_not_leading h] at hlt
    exact not_pairwise_of_lighter hsorted he he' hlt fun hR => h (hR h')

/-- A class and a symbol of a kind with a number below all weights. -/
def outranked : List Symbol := [.plain .classKind "Server" [], .plain ⟨-200⟩ "extra" []]

/-- A server may send such a kind, and its symbol is shown before the class. -/
theorem unnamed_kind_before_class :
    Response.parse (Symbol.responseText outranked) = .ok outranked
      ∧ (build {} #[] outranked).1.entries.map Entry.kind = [⟨-200⟩, .classKind]
      ∧ SymbolKind.classKind ∈ leading ∧ (⟨-200⟩ : SymbolKind) ∉ leading
      ∧ ¬(build {} #[] outranked).1.entries.Pairwise fun e e' =>
          e'.kind ∈ leading → e.kind ∈ leading := by
  have hkinds : (build {} #[] outranked).1.entries.map Entry.kind = [⟨-200⟩, .classKind] := by
    have hunsorted : (build ⟨false, none⟩ #[] outranked).1.entries.map
        (fun e => (e.kind, e.weight)) = [(.classKind, -100), (⟨-200⟩, -200)] := by decide +kernel
    obtain ⟨e, rest, hentries, he, hrest⟩ := List.map_eq_cons_iff.mp hunsorted
    obtain ⟨e', tail, rfl, he', hnil⟩ := List.map_eq_cons_iff.mp hrest
    obtain rfl := List.map_eq_nil_iff.mp hnil
    obtain ⟨hkind, hweight⟩ := Prod.mk.inj he
    obtain ⟨hkind', hweight'⟩ := Prod.mk.inj he'
    have hlighter : e'.sort.weight < e.sort.weight := by
      rw [Entry.weight_sort, Entry.weight_sort, hweight, hweight']
      decide
    have hsorted : (build {} #[] outranked).1.entries = [e'.sort, e.sort] := by
      show (build ⟨true, none⟩ #[] outranked).1.entries = _
      rw [build_sorted, sort, hentries]
      exact Entry.byWeight_pair hlighter
    rw [hsorted, List.map_cons, List.map_singleton, Entry.kind_sort, Entry.kind_sort, hkind, hkind']
  refine ⟨Response.parse_responseText_of_le (by decide), hkinds, by decide, by decide, ?_⟩
  intro h
  have hmapped : ((build {} #[] outranked).1.entries.map Entry.kind).Pairwise fun k k' =>
      k' ∈ leading → k ∈ leading := List.pairwise_map.mpr h
  rw [hkinds] at hmapped
  exact absurd hmapped (by decide)

end Outline

end SymbolOutline
