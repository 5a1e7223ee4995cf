import SymbolOutline.Proofs.Outline.Hidden
import SymbolOutline.Proofs.Outline.Order

/-!
# The order in which a server lists siblings

A server may list the siblings of any level in another order
(`Symbol.Reordered`). As long as those of one weight keep theirs, hidden ones
or not, a sorted outline is the same.
-/

namespace SymbolOutline

namespace Symbol

/-- The same siblings in another order, where those of one weight keep theirs. -/
structure TiesKept (before after : List Symbol) : Prop where
  perm : after.Perm before
  ties : ∀ weight : Int32,
    (after.filter fun s => s.kind.weight = weight) = before.filter fun s => s.kind.weight = weight

/-- Two forests that differ in the order of siblings of different weights, on
any set of levels. -/
inductive Reordered : List Symbol → List Symbol → Prop where
  | nil : Reordered [] []
  /-- Below a symbol, and among the siblings after it. -/
  | cons {s t : Symbol} {rest rest' : List Symbol} :
      t = { s with children := t.children } → Reordered s.childList t.childList →
      Reordered rest rest' → Reordered (s :: rest) (t :: rest')
  /-- Among all siblings of the forest. -/
  | siblings {forest forest' forest'' : List Symbol} :
      Reordered forest forest' → TiesKept forest' forest'' → Reordered forest forest''

theorem Reordered.refl (forest : List Symbol) : Reordered forest forest := by
  induction forest using forest_induction with
  | nil => exact .nil
  | cons s rest ihc ihr => exact .cons (by cases s; rfl) ihc ihr

/-- Neighbours of different weights may change places. -/
theorem tiesKept_swap {s t : Symbol} (h : s.kind.weight ≠ t.kind.weight) (rest : List Symbol) :
    TiesKept (s :: t :: rest) (t :: s :: rest) where
  perm := .swap s t rest
  ties weight := by
    by_cases hs : s.kind.weight = weight
    · have ht : t.kind.weight ≠ weight := fun ht => h (hs.trans ht.symm)
      simp [hs, ht]
    · simp [List.filter_cons, hs]

/-- `server` with its members in another order. -/
def serverReordered : Symbol :=
  .plain .classKind "Server" [.plain .propertyKind "(get) address" [],
    .plain .methodKind "start" [], .plain .fieldKind "_socket" []]

theorem weight_ofTree_rebuilt (options : BuildOptions) (depth : Nat) (s : Symbol) (name : String) :
    (Entry.ofTree options depth (s.rebuilt name)).weight = s.kind.weight := by
  rw [ofTree_rebuilt]
  rfl

section

variable {parent : Option Symbol} {options : BuildOptions} {depth : Nat}

/-- The entries of one weight come from the symbols of that weight. -/
theorem filter_ofTrees (parent : Option Symbol) (options : BuildOptions) (depth : Nat)
    (forest : List Symbol) (w : Int32) :
    ((Entry.ofTrees options depth (shownUnder parent forest)).filter fun e => e.weight = w)
      = Entry.ofTrees options depth
          (shownUnder parent (forest.filter fun s => s.kind.weight = w)) := by
  rw [Entry.ofTrees_eq_map, Entry.ofTrees_eq_map, shownUnder, shownUnder, List.map_map,
    List.map_map, List.filter_map, List.filter_filter, List.filter_filter]
  congr 1
  refine List.filter_congr fun s _ => ?_
  rw [Bool.and_comm, Function.comp_apply, Function.comp_apply, weight_ofTree_rebuilt]

theorem ofTrees_cons_of_admits {s : Symbol} (hs : admits parent s) (rest : List Symbol) :
    Entry.ofTrees options depth (shownUnder parent (s :: rest))
      = Entry.ofTree options depth (s.rebuilt (nameUnder parent s))
        :: Entry.ofTrees options depth (shownUnder parent rest) := by
  rw [shownUnder, List.filter_cons_of_pos hs, List.map_cons, Entry.ofTrees, ← shownUnder]

theorem shownUnder_cons_of_not_admits {s : Symbol} (hs : ¬admits parent s) (rest : List Symbol) :
    shownUnder parent (s :: rest) = shownUnder parent rest := by
  rw [shownUnder, List.filter_cons_of_neg hs, ← shownUnder]

/-- With the entries of each weight in one order, a sorted level is the same. -/
theorem ofLevel_sorted_congr {maxDepth : Option Nat} {siblings siblings' : List Symbol}
    (h : ∀ w, ((Entry.ofTrees ⟨true, maxDepth⟩ depth siblings).filter fun e => e.weight = w)
      = (Entry.ofTrees ⟨true, maxDepth⟩ depth siblings').filter fun e => e.weight = w) :
    Entry.ofLevel ⟨true, maxDepth⟩ depth siblings
      = Entry.ofLevel ⟨true, maxDepth⟩ depth siblings' := by
  rw [Entry.ofLevel, Entry.ofLevel, if_pos rfl, if_pos rfl, Entry.byWeight_eq_of_ties h]

end

/-- The entries of one weight stand in one order, whatever the order of the
siblings, and are the same ones. -/
theorem Reordered.ties {forest forest' : List Symbol} (h : Reordered forest forest')
    (maxDepth : Option Nat) (parent : Option Symbol) (depth : Nat) (w : Int32) :
    ((Entry.ofTrees ⟨true, maxDepth⟩ depth (shownUnder parent forest')).filter fun e =>
          e.weight = w)
      = (Entry.ofTrees ⟨true, maxDepth⟩ depth (shownUnder parent forest)).filter fun e =>
          e.weight = w := by
  -- The forests are walked down together. What shows of a level is compared weight by weight,
  -- as this is all that is left of its order once it is sorted.
  induction h generalizing parent depth w with
  | nil => rfl
  | @cons s t rest rest' ht _ _ ihc ihr =>
    have hk : t.kind = s.kind := by rw [ht]
    have hn : t.name = s.name := by rw [ht]
    by_cases hs : admits parent s
    · have htadmits : admits parent t := by rwa [admits_congr hk hn]
      have hchildren : Entry.ofLevel ⟨true, maxDepth⟩ (depth + 1) (shownUnder (some t) t.childList)
          = Entry.ofLevel ⟨true, maxDepth⟩ (depth + 1) (shownUnder (some s) s.childList) := by
        have hparent : shownUnder (some t) t.childList = shownUnder (some s) t.childList := by
          rw [shownUnder_some, shownUnder_some, hk]
        rw [hparent]
        exact ofLevel_sorted_congr (ihc (some s) (depth + 1))
      have hentry : Entry.ofSymbol t = Entry.ofSymbol s := by
        rw [ht]
        rfl
      have htree : Entry.ofTree ⟨true, maxDepth⟩ depth (t.rebuilt (nameUnder parent t))
          = Entry.ofTree ⟨true, maxDepth⟩ depth (s.rebuilt (nameUnder parent s)) := by
        rw [ofTree_rebuilt, ofTree_rebuilt, hchildren, nameUnder_congr hn, hentry]
      rw [ofTrees_cons_of_admits hs, ofTrees_cons_of_admits htadmits, htree, List.filter_cons,
        List.filter_cons, ihr parent depth w]
    · have htadmits : ¬admits parent t := by rwa [admits_congr hk hn]
      rw [shownUnder_cons_of_not_admits hs, shownUnder_cons_of_not_admits htadmits]
      exact ihr parent depth w
  | siblings _ hkept ih =>
    rw [filter_ofTrees, hkept.ties w, ← filter_ofTrees]
    exact ih parent depth w

end Symbol

namespace Outline

/-- A sorted outline does not tell in which order the server listed siblings
of different weights, on any level. -/
theorem sorted_ignores_listing_order (maxDepth : Option Nat) (log log' : Log)
    {symbols symbols' : List Symbol} (h : Symbol.Reordered symbols symbols') :
    (build ⟨true, maxDepth⟩ log' symbols').1 = (build ⟨true, maxDepth⟩ log symbols).1 := by
  rw [build_eq, build_eq, ← Symbol.shownUnder_none, ← Symbol.shownUnder_none]
  exact congrArg Outline.mk (Symbol.ofLevel_sorted_congr (h.ties maxDepth none 1))

/-- The members of a class change places, and the class goes before the functions. -/
theorem sorted_ignores_order_of_members :
    Symbol.Reordered [.plain .functionKind "run" [], .server, .plain .functionKind "main" []]
        [.serverReordered, .plain .functionKind "run" [], .plain .functionKind "main" []]
      ∧ (build ⟨true, some 2⟩ #[]
          [.serverReordered, .plain .functionKind "run" [], .plain .functionKind "main" []]).1
        = (build ⟨true, some 2⟩ #[]
          [.plain .functionKind "run" [], .server, .plain .functionKind "main" []]).1 := by
  have hmembers : Symbol.Reordered Symbol.server.childList Symbol.serverReordered.childList :=
    .siblings
      (.cons rfl (.refl _) (.siblings (.refl _) (Symbol.tiesKept_swap (by decide) [])))
      (Symbol.tiesKept_swap (by decide) _)
  have hroots : Symbol.Reordered
      [.plain .functionKind "run" [], .server, .plain .functionKind "main" []]
      [.plain .functionKind "run" [], .serverReordered, .plain .functionKind "main" []] :=
    .cons rfl .nil (.cons rfl hmembers (.refl _))
  have h := hroots.siblings (Symbol.tiesKept_swap (by decide) _)
  exact ⟨h, sorted_ignores_listing_order (some 2) #[] #[] h⟩

end Outline

end SymbolOutline
