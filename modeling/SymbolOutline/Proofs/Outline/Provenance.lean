import Mathlib.Data.Set.Function
import SymbolOutline.Proofs.Outline.Displayed
import SymbolOutline.Proofs.Outline.Order

/-!
# Where entries come from

Sorting moves entries among their siblings, so an entry of an outline and its
node in the source have different addresses. `origin` leads from one to the
other: it looks up each index in `ranked`, the symbols of a level in display
order with the indices they have in the source. It is a bijection onto the
displayed nodes (`bijOn_origin`), and respects parents (`origin_dropLast`).
-/

namespace SymbolOutline

/-- The entry at an address, which gives the index among its siblings of each
entry on the way down. -/
def Entry.at? : List Entry → List Nat → Option Entry
  | _, [] => none
  | siblings, [i] => siblings[i]?
  | siblings, i :: j :: address => siblings[i]?.bind fun e => at? e.children (j :: address)

theorem Entry.at?_nil (address : List Nat) : at? [] address = none := by
  cases address with
  | nil => rfl
  | cons i address => cases address <;> rfl

theorem Entry.at?_cons (l : List Entry) (i : Nat) (address : List Nat) :
    at? l (i :: address)
      = l[i]?.bind fun e => if address = [] then some e else at? e.children address := by
  cases address with
  | nil => simp [at?]
  | cons j address => simp [at?]

namespace Symbol

/-- The symbols that get past their parent, in display order, with their
indices in the source. -/
def ranked (options : BuildOptions) (parent : Option Symbol) (forest : List Symbol) :
    List (Symbol × Nat) :=
  let admitted := forest.zipIdx.filter fun r => admits parent r.1
  if options.sort then admitted.mergeSort fun r r' => r.1.kind.weight ≤ r'.1.kind.weight
  else admitted

/-- The address of the node that the entry at an address comes from. -/
def origin (options : BuildOptions) (parent : Option Symbol) (forest : List Symbol) :
    List Nat → List Nat
  | [] => []
  | i :: address =>
    match (ranked options parent forest)[i]? with
    | some (s, j) => j :: origin options (some s) s.childList address
    | none => i :: address

section

variable {options : BuildOptions} {parent : Option Symbol} {forest : List Symbol} {s : Symbol}
  {i j : Nat} {address : List Nat}

/-! ## Ranks -/

theorem ranked_perm :
    (ranked options parent forest).Perm (forest.zipIdx.filter fun r => admits parent r.1) := by
  rw [ranked]
  split
  · exact List.mergeSort_perm _ _
  · exact List.Perm.refl _

theorem mem_ranked (options : BuildOptions) :
    (s, j) ∈ ranked options parent forest ↔ forest[j]? = some s ∧ admits parent s := by
  rw [ranked_perm.mem_iff, List.mem_filter, List.mem_zipIdx_iff_getElem?]

/-- No two ranks belong to the same symbol of the source. -/
theorem nodup_ranked : ((ranked options parent forest).map Prod.snd).Nodup := by
  rw [(ranked_perm.map Prod.snd).nodup_iff]
  have hsub := (List.filter_sublist (l := forest.zipIdx)
    (p := fun r => admits parent r.1)).map Prod.snd
  refine hsub.nodup ?_
  rw [List.zipIdx_map_snd]
  exact List.nodup_range'

/-- The entries of a shown level by rank. -/
theorem ofLevel_ranked {depth : Nat} (h : options.Shows depth) :
    Entry.ofLevel options depth (shownUnder parent forest)
      = (ranked options parent forest).map fun r =>
          Entry.ofTree options depth (r.1.rebuilt (nameUnder parent r.1)) := by
  have hfilter : forest.filter (admits parent)
      = (forest.zipIdx.filter fun r => admits parent r.1).map Prod.fst := by
    conv => lhs; rw [← List.zipIdx_map_fst 0 forest, List.filter_map]
    rfl
  rw [Builder.ofLevel_eq_arrange, if_pos h, Entry.ofTrees_eq_map, shownUnder, hfilter,
    List.map_map, List.map_map, Builder.arrange, ranked]
  split
  · refine (List.map_mergeSort fun r _ r' _ => ?_).symm
    simp only [Function.comp_apply, ofTree_rebuilt]
    rfl
  · rfl

/-- An entry of a level is that of a symbol there, or lies below it. -/
theorem at?_ofLevel {depth : Nat} {e : Entry} :
    Entry.at? (Entry.ofLevel options (depth + 1) (shownUnder parent forest)) (i :: address) = some e
      ↔ options.Shows (depth + 1) ∧ ∃ s j, (ranked options parent forest)[i]? = some (s, j)
        ∧ (address = [] ∧ e = Entry.ofTree options (depth + 1) (s.rebuilt (nameUnder parent s))
          ∨ Entry.at? (Entry.ofLevel options (depth + 1 + 1) (shownUnder (some s) s.childList))
              address = some e) := by
  by_cases hd : options.Shows (depth + 1)
  · rw [ofLevel_ranked hd]
    cases address with
    | nil =>
      rw [Entry.at?, List.getElem?_map, Option.map_eq_some_iff]
      constructor
      · rintro ⟨⟨s, j⟩, hr, rfl⟩
        exact ⟨hd, s, j, hr, .inl ⟨rfl, rfl⟩⟩
      · rintro ⟨-, s, j, hr, ⟨-, rfl⟩ | h⟩
        · exact ⟨(s, j), hr, rfl⟩
        · cases h
    | cons k address =>
      rw [Entry.at?, List.getElem?_map, Option.bind_eq_some_iff]
      constructor
      · rintro ⟨_, htree, h⟩
        obtain ⟨⟨s, j⟩, hr, rfl⟩ := Option.map_eq_some_iff.mp htree
        rw [ofTree_rebuilt] at h
        exact ⟨hd, s, j, hr, .inr h⟩
      · rintro ⟨-, s, j, hr, ⟨h, -⟩ | h⟩
        · cases h
        · refine ⟨_, Option.map_eq_some_iff.mpr ⟨(s, j), hr, rfl⟩, ?_⟩
          rw [ofTree_rebuilt]
          exact h
  · rw [Entry.ofLevel, if_neg hd]
    cases address <;> simp [Entry.at?, hd]

/-! ## Origins -/

theorem origin_cons {j : Nat} (h : (ranked options parent forest)[i]? = some (s, j)) :
    origin options parent forest (i :: address)
      = j :: origin options (some s) s.childList address := by
  simp only [origin, h]

theorem length_origin (options : BuildOptions) (parent : Option Symbol) (forest : List Symbol)
    (address : List Nat) :
    (origin options parent forest address).length = address.length := by
  induction address generalizing parent forest with
  | nil => rfl
  | cons i address ih =>
    cases hr : (ranked options parent forest)[i]? with
    | none => simp only [origin, hr]
    | some r => rw [origin_cons hr, List.length_cons, List.length_cons, ih]

/-- The origin of the entry around another is the parent of that one's origin. -/
theorem origin_dropLast (options : BuildOptions) (parent : Option Symbol) (forest : List Symbol)
    (address : List Nat) :
    origin options parent forest address.dropLast
      = (origin options parent forest address).dropLast := by
  induction address generalizing parent forest with
  | nil => rfl
  | cons i address ih =>
    cases address with
    | nil =>
      refine (List.eq_nil_of_length_eq_zero ?_).symm
      rw [List.length_dropLast, length_origin]
      rfl
    | cons k address =>
      rw [List.dropLast_cons_cons]
      cases hr : (ranked options parent forest)[i]? with
      | none => simp only [origin, hr, List.dropLast_cons_cons]
      | some r =>
        have hne : origin options (some r.1) r.1.childList (k :: address) ≠ [] := by
          intro h
          have hlen := length_origin options (some r.1) r.1.childList (k :: address)
          rw [h] at hlen
          cases hlen
        rw [origin_cons hr, origin_cons hr, ih, List.dropLast_cons_of_ne_nil hne]

/-- An entry is that of the node it comes from, which is displayed. -/
theorem exists_node_of_at? {depth : Nat} {e : Entry}
    (h : Entry.at? (Entry.ofLevel options (depth + 1) (shownUnder parent forest)) address
      = some e) :
    ∃ n ∈ nodesAll 0 forest, n.IsShownUnder options parent depth
      ∧ n.address = origin options parent forest address ∧ e.bare = n.entryUnder parent := by
  induction address generalizing parent forest depth with
  | nil => cases h
  | cons i address ih =>
    obtain ⟨hd, s, j, hr, h⟩ := at?_ofLevel.mp h
    obtain ⟨hj, hs⟩ := (mem_ranked options).mp (List.mem_of_getElem? hr)
    rw [origin_cons hr]
    rcases h with ⟨rfl, rfl⟩ | h
    · refine ⟨.top j s, mem_nodesAll.mpr ⟨j, s, hj, .inl ?_⟩, ?_, rfl, bare_ofTree _ _ j _ _⟩
      · rw [Nat.zero_add]
      · exact Node.isShownUnder_top.mpr ⟨hs, hd⟩
    · obtain ⟨n, hn, hshown, ha, he⟩ := ih h
      refine ⟨n.under j s, mem_nodesAll.mpr ⟨j, s, hj, .inr ⟨n, hn, ?_⟩⟩, ?_, ?_, ?_⟩
      · rw [Nat.zero_add]
      · exact Node.isShownUnder_under.mpr ⟨hs, hshown⟩
      · rw [← ha]; rfl
      · rw [he, Node.entryUnder_under]

/-- Every displayed node has an entry. -/
theorem exists_entry {parent : Option Symbol} {forest : List Symbol} {depth : Nat} {n : Node}
    (hn : n ∈ nodesAll 0 forest) (h : n.IsShownUnder options parent depth) :
    ∃ address e, Entry.at? (Entry.ofLevel options (depth + 1) (shownUnder parent forest)) address
        = some e ∧ origin options parent forest address = n.address := by
  obtain ⟨j, s, hj, hn⟩ := mem_nodesAll.mp hn
  rw [Nat.zero_add] at hn
  rcases hn with rfl | ⟨m, hm, hunder⟩
  · obtain ⟨hs, hd⟩ := Node.isShownUnder_top.mp h
    obtain ⟨i, hr⟩ := List.mem_iff_getElem?.mp ((mem_ranked options).mpr ⟨hj, hs⟩)
    refine ⟨[i], _, at?_ofLevel.mpr ⟨hd, s, j, hr, .inl ⟨rfl, rfl⟩⟩, ?_⟩
    rw [origin_cons hr]
    rfl
  · have hlt : m.depth < n.depth := by
      rw [hunder, Node.depth_under]
      omega
    have hd := h.shows
    rw [hunder] at h ⊢
    obtain ⟨hs, hm'⟩ := Node.isShownUnder_under.mp h
    obtain ⟨i, hr⟩ := List.mem_iff_getElem?.mp ((mem_ranked options).mpr ⟨hj, hs⟩)
    obtain ⟨address, e, ha, ho⟩ := exists_entry hm hm'
    refine ⟨i :: address, e, at?_ofLevel.mpr ⟨hd, s, j, hr, .inr ha⟩, ?_⟩
    rw [origin_cons hr, ho]
    rfl
termination_by n.depth

/-- Entries from the same place are the same. -/
theorem origin_inj {address' : List Nat} {depth : Nat} {e e' : Entry}
    (h : Entry.at? (Entry.ofLevel options (depth + 1) (shownUnder parent forest)) address = some e)
    (h' : Entry.at? (Entry.ofLevel options (depth + 1) (shownUnder parent forest)) address'
      = some e')
    (ho : origin options parent forest address = origin options parent forest address') :
    address = address' := by
  have hlen : address.length = address'.length := by
    rw [← length_origin options parent forest address, ho, length_origin]
  induction address generalizing parent forest depth address' with
  | nil => cases h
  | cons i address ih =>
    cases address' with
    | nil => cases h'
    | cons k address' =>
      obtain ⟨-, s, j, hr, h⟩ := at?_ofLevel.mp h
      obtain ⟨-, t, l, hr', h'⟩ := at?_ofLevel.mp h'
      rw [origin_cons hr, origin_cons hr', List.cons.injEq] at ho
      obtain ⟨rfl, ho⟩ := ho
      -- equal indices in the source are equal ranks
      have hrank : ((ranked options parent forest).map Prod.snd)[i]?
          = ((ranked options parent forest).map Prod.snd)[k]? := by
        rw [List.getElem?_map, List.getElem?_map, hr, hr']
        rfl
      have hi : i < ((ranked options parent forest).map Prod.snd).length := by
        rw [List.length_map]
        exact (List.getElem?_eq_some_iff.mp hr).1
      obtain rfl := (List.getElem?_inj hi nodup_ranked).mp hrank
      obtain ⟨rfl, -⟩ := Prod.mk.inj (Option.some.inj (hr.symm.trans hr'))
      have hlen : address.length = address'.length := Nat.succ.inj hlen
      rcases h with ⟨rfl, -⟩ | h
      · rw [List.eq_nil_of_length_eq_zero hlen.symm]
      · rcases h' with ⟨rfl, -⟩ | h'
        · rw [List.eq_nil_of_length_eq_zero hlen]
        · rw [ih h h' ho hlen]

/-- The entries of a level and below it come from the displayed nodes, each
from one of its own. -/
theorem bijOn_origin (options : BuildOptions) (parent : Option Symbol) (forest : List Symbol)
    (depth : Nat) :
    Set.BijOn (origin options parent forest)
      {a | ∃ e, Entry.at? (Entry.ofLevel options (depth + 1) (shownUnder parent forest)) a = some e}
      {a | ∃ n ∈ nodesAll 0 forest, n.IsShownUnder options parent depth ∧ n.address = a} := by
  refine ⟨?_, ?_, ?_⟩
  · rintro a ⟨e, h⟩
    obtain ⟨n, hn, hshown, ha, -⟩ := exists_node_of_at? h
    exact ⟨n, hn, hshown, ha⟩
  · rintro a ⟨e, h⟩ a' ⟨e', h'⟩ ho
    exact origin_inj h h' ho
  · rintro _ ⟨n, hn, hshown, rfl⟩
    obtain ⟨a, e, h, ha⟩ := exists_entry hn hshown
    exact ⟨a, ⟨e, h⟩, ha⟩

end

end Symbol

namespace Outline

open SymbolOutline.Symbol (displayed nodesAll origin shownUnder)

theorem entries_build (options : BuildOptions) (log : Log) (symbols : List Symbol) :
    (build options log symbols).1.entries = Entry.ofLevel options 1 (shownUnder none symbols) := by
  rw [build_eq, Symbol.shownUnder_none]

theorem preorder_unsorted (maxDepth : Option Nat) (log : Log) (symbols : List Symbol) :
    ((Entry.preorderAll 1 (build ⟨false, maxDepth⟩ log symbols).1.entries).map
        fun p => (p.1, p.2.bare))
      = (displayed maxDepth symbols).map fun n => (n.depth, n.entry) := by
  have h := Symbol.preorderAll_ofLevel maxDepth none symbols 0 0
  simp only [Nat.zero_add] at h
  simp only [entries_build, Symbol.displayed_eq false, Symbol.Node.entry_eq_entryUnder]
  exact h

/-- As many entries as there are displayed nodes, sorted or not. -/
theorem count_build (options : BuildOptions) (log : Log) (symbols : List Symbol) :
    (build options log symbols).1.count = (displayed options.maxDepth symbols).length := by
  have h := congrArg List.length (preorder_unsorted options.maxDepth log symbols)
  rw [List.length_map, List.length_map, Entry.length_preorderAll, entries_build] at h
  rw [count_eq, entries_build, Entry.sizeAll_ofLevel, h]

theorem count_build_le (options : BuildOptions) (log : Log) (symbols : List Symbol) :
    (build options log symbols).1.count ≤ Symbol.sizeAll symbols := by
  rw [count_build, ← Symbol.length_nodesAll 0 symbols]
  exact List.length_filter_le _ _

/-- The nodes of the source, each listed once and in preorder, account for all
entries. Where siblings are not sorted, the entries are the displayed nodes in
their order; sorted or not, a bijection leads from the entries to the displayed
nodes, from the entry around another to the parent of its node, and from roots
to roots. So there are as many of the one as of the other. -/
theorem build_provenance (maxDepth : Option Nat) (log : Log) (symbols : List Symbol) :
    (((nodesAll 0 symbols).map fun n => (n.depth, n.symbol)) = Symbol.preorderAll 1 symbols
        ∧ ((nodesAll 0 symbols).map Symbol.Node.address).Nodup)
      ∧ ((Entry.preorderAll 1 (build ⟨false, maxDepth⟩ log symbols).1.entries).map
            fun p => (p.1, p.2.bare))
          = (displayed maxDepth symbols).map (fun n => (n.depth, n.entry))
      ∧ (∀ sort, ∃ φ : List Nat → List Nat, φ [] = []
          ∧ Set.BijOn φ
              {a | ∃ e, Entry.at? (build ⟨sort, maxDepth⟩ log symbols).1.entries a = some e}
              {a | ∃ n ∈ displayed maxDepth symbols, n.address = a}
          ∧ ∀ a e, Entry.at? (build ⟨sort, maxDepth⟩ log symbols).1.entries a = some e →
              φ a.dropLast = (φ a).dropLast
                ∧ ∃ n ∈ displayed maxDepth symbols,
                  n.address = φ a ∧ n.depth = a.length ∧ e.bare = n.entry)
      ∧ ∀ sort, (build ⟨sort, maxDepth⟩ log symbols).1.count = (displayed maxDepth symbols).length
          ∧ (build ⟨sort, maxDepth⟩ log symbols).1.count ≤ Symbol.sizeAll symbols := by
  refine ⟨⟨?_, Symbol.nodup_address 0 symbols⟩, preorder_unsorted maxDepth log symbols, ?_, ?_⟩
  · have h := Symbol.map_nodesAll 0 0 symbols
    simp only [Nat.zero_add] at h
    exact h
  · intro sort
    have hmem : ∀ n, n ∈ displayed maxDepth symbols
        ↔ n ∈ nodesAll 0 symbols ∧ n.IsShownUnder ⟨sort, maxDepth⟩ none 0 := by
      intro n
      rw [Symbol.displayed_eq sort, List.mem_filter, decide_eq_true_iff]
    rw [entries_build, ← Nat.zero_add 1]
    refine ⟨origin ⟨sort, maxDepth⟩ none symbols, rfl, ?_, ?_⟩
    · have h := Symbol.bijOn_origin ⟨sort, maxDepth⟩ none symbols 0
      simp only [hmem, and_assoc]
      exact h
    · intro a e h
      obtain ⟨n, hn, hshown, ha, he⟩ := Symbol.exists_node_of_at? h
      have hdepth : n.depth = a.length := by
        rw [← Symbol.length_address hn, ha, Symbol.length_origin]
      exact ⟨Symbol.origin_dropLast ⟨sort, maxDepth⟩ none symbols a, n,
        (hmem n).mpr ⟨hn, hshown⟩, ha, hdepth, he⟩
  · intro sort
    exact ⟨count_build ⟨sort, maxDepth⟩ log symbols, count_build_le ⟨sort, maxDepth⟩ log symbols⟩

/-- The accessor, third in the class, is shown second. -/
theorem provenance_of_accessor :
    ∃ e, Entry.at? (build ⟨false, none⟩ #[] [Symbol.server]).1.entries [0, 1] = some e
      ∧ e.name = "address"
      ∧ ∃ n ∈ displayed none [Symbol.server], n.depth = 2 ∧ e.bare = n.entry := by
  have hname : (Entry.at? (build ⟨false, none⟩ #[] [Symbol.server]).1.entries [0, 1]).map Entry.name
      = some "address" := by decide +kernel
  obtain ⟨e, h, hname⟩ := Option.map_eq_some_iff.mp hname
  obtain ⟨φ, -, -, hφ⟩ := (build_provenance none #[] [Symbol.server]).2.2.1 false
  obtain ⟨-, n, hn, -, hdepth, he⟩ := hφ [0, 1] e h
  exact ⟨e, h, hname, n, hn, hdepth, he⟩

end Outline

end SymbolOutline
