import Mathlib.Data.List.Chain
import SymbolOutline.Proofs.Outline.Build
import SymbolOutline.Proofs.Symbol.Node

/-!
# Displayed nodes

A node of the source is displayed if its root is visible, nothing on the way
down to it is hidden, and its level is shown (`Node.IsDisplayed`). Where
siblings are not sorted, the entries of an outline are the displayed nodes in
their order (`preorderAll_ofLevel`).

Roots and symbols further down follow different rules. Here both are symbols
under a `parent : Option Symbol`, which a root does not have.
-/

namespace SymbolOutline

/-- An entry by itself, without the entries below it. -/
def Entry.bare (e : Entry) : Entry := { e with children := [] }

namespace Symbol

/-- Whether the symbol gets past its parent. -/
def admits (parent : Option Symbol) (s : Symbol) : Bool :=
  match parent with
  | none => s.isVisibleRoot
  | some parent => ¬s.IsHidden parent.kind

def nameUnder (parent : Option Symbol) (s : Symbol) : String :=
  match parent with
  | none => s.name
  | some _ => Name.stripMarkers s.name

/-- Each symbol of the path gets past the one before it. -/
def admitsAll (parent : Option Symbol) : List Symbol → Bool
  | [] => true
  | s :: path => admits parent s && admitsAll (some s) path

/-- What is left of siblings and of everything below them. -/
def shownUnder (parent : Option Symbol) (forest : List Symbol) : List Symbol :=
  (forest.filter (admits parent)).map fun s => s.rebuilt (nameUnder parent s)

theorem shownUnder_none (forest : List Symbol) : shownUnder none forest = shownRoots forest := by
  rw [shownUnder, shownRoots]
  exact List.map_congr_left fun s _ => (normalized_eq s).symm

theorem shownUnder_some (parent : Symbol) (forest : List Symbol) :
    shownUnder (some parent) forest = survivors parent.kind forest := (survivors_eq _ _).symm

theorem admitsAll_some {parent : Symbol} {path : List Symbol} :
    admitsAll (some parent) path
      ↔ (parent :: path).IsChain fun parent child => ¬child.IsHidden parent.kind := by
  induction path generalizing parent with
  | nil => simp [admitsAll]
  | cons s path ih =>
    rw [admitsAll, Bool.and_eq_true, ih, List.isChain_cons_cons, admits, decide_eq_true_iff]

namespace Node

/-- The root of the node is no property and its name does not start with an
underscore. On the way down to the node no symbol is of a kind excluded under the
one above, or has a name that starts so once its markers are off. And the node is
not too deep. -/
def IsDisplayed (maxDepth : Option Nat) (n : Node) : Prop :=
  (n.root.name.toList.head? ≠ some '_' ∧ n.root.kind ≠ SymbolKind.propertyKind)
    ∧ (n.path.IsChain fun parent child =>
        child.kind ∉ parent.kind.excludedUnder
          ∧ (Name.stripMarkers child.name).toList.head? ≠ some '_')
    ∧ ∀ limit ∈ maxDepth, n.depth ≤ limit

instance (maxDepth : Option Nat) (n : Node) : Decidable (n.IsDisplayed maxDepth) :=
  inferInstanceAs (Decidable (_ ∧ _ ∧ _))

/-- The entry of a displayed node, without those below it. A root keeps its
name as it is. -/
def entry (n : Node) : Entry where
  name := if n.above.isEmpty then n.symbol.name else Name.stripMarkers n.symbol.name
  kind := n.symbol.kind
  label := n.symbol.kind.label
  weight := n.symbol.kind.weight
  detail := n.symbol.detail.filter (· ≠ "")
  line := n.symbol.range.start.line
  children := []

/-- `entry` where the forest of the node lies under `parent`. -/
def entryUnder (parent : Option Symbol) (n : Node) : Entry :=
  { Entry.ofSymbol n.symbol with
    name := if n.above.isEmpty then nameUnder parent n.symbol
      else Name.stripMarkers n.symbol.name }

/-- `IsDisplayed` where the forest of the node lies under `parent`, on a level below `depth`. -/
def IsShownUnder (options : BuildOptions) (parent : Option Symbol) (depth : Nat) (n : Node) :
    Prop :=
  admitsAll parent n.path ∧ options.Shows (depth + n.depth)

instance (options : BuildOptions) (parent : Option Symbol) (depth : Nat) (n : Node) :
    Decidable (n.IsShownUnder options parent depth) :=
  inferInstanceAs (Decidable (_ ∧ _))

theorem entry_eq_entryUnder (n : Node) : n.entry = n.entryUnder none := rfl

theorem isDisplayed_iff_visible {maxDepth : Option Nat} {n : Node} :
    n.IsDisplayed maxDepth
      ↔ n.root.isVisibleRoot
        ∧ (n.path.IsChain fun parent child => ¬child.IsHidden parent.kind)
        ∧ ∀ limit ∈ maxDepth, n.depth ≤ limit := by
  have hhidden : ∀ parent child : Symbol, (child.kind ∉ parent.kind.excludedUnder
        ∧ (Name.stripMarkers child.name).toList.head? ≠ some '_')
      ↔ ¬child.IsHidden parent.kind := by
    intro parent child
    rw [IsHidden, not_or, Name.isPrivate_iff]
    rfl
  simp only [IsDisplayed, hhidden, isVisibleRoot_iff, Name.isPrivate_iff, ne_eq]

theorem isDisplayed_iff {sort : Bool} {maxDepth : Option Nat} {n : Node} :
    n.IsDisplayed maxDepth ↔ n.IsShownUnder ⟨sort, maxDepth⟩ none 0 := by
  obtain ⟨address, above, s⟩ := n
  rw [isDisplayed_iff_visible, IsShownUnder, Nat.zero_add, ← and_assoc]
  refine and_congr_left fun _ => ?_
  cases above with
  | nil => simp [path, root, admitsAll, admits]
  | cons r above =>
    show _ ↔ admitsAll none (r :: (above ++ [s]))
    rw [admitsAll, Bool.and_eq_true, admitsAll_some]
    rfl

section

variable {options : BuildOptions} {parent : Option Symbol} {depth i : Nat} {s : Symbol} {n : Node}

theorem isShownUnder_top :
    (top i s).IsShownUnder options parent depth ↔ admits parent s ∧ options.Shows (depth + 1) := by
  rw [IsShownUnder, depth_top]
  simp [top, path, admitsAll]

theorem isShownUnder_under :
    (n.under i s).IsShownUnder options parent depth
      ↔ admits parent s ∧ n.IsShownUnder options (some s) (depth + 1) := by
  rw [IsShownUnder, IsShownUnder, path_under, admitsAll, depth_under, Bool.and_eq_true, and_assoc,
    Nat.add_assoc, Nat.add_comm 1]

/-- With a node, the level right below `depth` is shown. -/
theorem IsShownUnder.shows (h : n.IsShownUnder options parent depth) : options.Shows (depth + 1) :=
  h.2.mono (Nat.add_le_add_left n.depth_pos depth)

theorem entryUnder_under :
    (n.under i s).entryUnder parent = n.entryUnder (some s) := by
  cases h : n.above.isEmpty <;> simp [entryUnder, under, nameUnder]

end

end Node

/-- The displayed nodes of a forest, in preorder. -/
def displayed (maxDepth : Option Nat) (forest : List Symbol) : List Node :=
  (nodesAll 0 forest).filter fun n => n.IsDisplayed maxDepth

theorem displayed_eq (sort : Bool) (maxDepth : Option Nat) (forest : List Symbol) :
    displayed maxDepth forest
      = (nodesAll 0 forest).filter fun n => n.IsShownUnder ⟨sort, maxDepth⟩ none 0 :=
  List.filter_congr fun _ _ => decide_eq_decide.mpr Node.isDisplayed_iff

/-! ## Unsorted levels -/

theorem ofTree_rebuilt (options : BuildOptions) (depth : Nat) (s : Symbol) (name : String) :
    Entry.ofTree options depth (s.rebuilt name)
      = { Entry.ofSymbol s with
          name
          children := Entry.ofLevel options (depth + 1) (shownUnder (some s) s.childList) } := by
  rw [Entry.ofTree_eq, rebuilt_eq, shownUnder_some]
  rfl

theorem bare_ofTree (options : BuildOptions) (depth i : Nat) (parent : Option Symbol) (s : Symbol) :
    (Entry.ofTree options depth (s.rebuilt (nameUnder parent s))).bare
      = (Node.top i s).entryUnder parent := by
  rw [ofTree_rebuilt]
  rfl

section

variable {maxDepth : Option Nat} {depth : Nat}

theorem ofLevel_cons (h : (⟨false, maxDepth⟩ : BuildOptions).Shows depth) (s : Symbol)
    (rest : List Symbol) :
    Entry.ofLevel ⟨false, maxDepth⟩ depth (s :: rest)
      = Entry.ofTree ⟨false, maxDepth⟩ depth s :: Entry.ofLevel ⟨false, maxDepth⟩ depth rest := by
  rw [Entry.ofLevel, Entry.ofLevel, if_pos h, if_pos h]
  rfl

/-- The nodes of a root that gets past its parent: itself, and those below it. -/
theorem filter_nodes {options : BuildOptions} {parent : Option Symbol} {s : Symbol} (i : Nat)
    (hs : admits parent s) (h : options.Shows (depth + 1)) :
    ((nodes i s).filter fun n => n.IsShownUnder options parent depth)
      = .top i s :: ((nodesAll 0 s.childList).filter fun n =>
          n.IsShownUnder options (some s) (depth + 1)).map (.under i s) := by
  have htop : (Node.top i s).IsShownUnder options parent depth :=
    Node.isShownUnder_top.mpr ⟨hs, h⟩
  rw [nodes_eq, List.filter_cons, if_pos (decide_eq_true htop), List.filter_map]
  congr 2
  refine List.filter_congr fun n _ => ?_
  simp only [Function.comp_apply, Node.isShownUnder_under, hs, true_and]

theorem filter_nodes_of_not_admits {options : BuildOptions} {parent : Option Symbol} {s : Symbol}
    (i : Nat) (hs : ¬admits parent s) :
    ((nodes i s).filter fun n => n.IsShownUnder options parent depth) = [] := by
  refine List.filter_eq_nil_iff.mpr fun n hn => ?_
  rw [decide_eq_true_iff]
  rw [nodes_eq, List.mem_cons, List.mem_map] at hn
  rcases hn with rfl | ⟨m, -, rfl⟩
  · exact fun h => hs (Node.isShownUnder_top.mp h).1
  · exact fun h => hs (Node.isShownUnder_under.mp h).1

/-- The entries of a level, and those below it, are its displayed nodes in
their order. -/
theorem preorderAll_ofLevel (maxDepth : Option Nat) (parent : Option Symbol) (forest : List Symbol)
    (i depth : Nat) :
    ((Entry.preorderAll (depth + 1)
        (Entry.ofLevel ⟨false, maxDepth⟩ (depth + 1) (shownUnder parent forest))).map
          fun p => (p.1, p.2.bare))
      = ((nodesAll i forest).filter fun n =>
          n.IsShownUnder ⟨false, maxDepth⟩ parent depth).map fun n =>
            (depth + n.depth, n.entryUnder parent) := by
  induction forest using forest_induction generalizing parent i depth with
  | nil =>
    rw [shownUnder, Entry.ofLevel, if_neg Bool.false_ne_true]
    simp [Entry.ofTrees, Entry.preorderAll, nodesAll]
  | cons s rest ihc ihr =>
    by_cases hd : (⟨false, maxDepth⟩ : BuildOptions).Shows (depth + 1)
    · rw [nodesAll, List.filter_append, List.map_append, ← ihr parent (i + 1) depth]
      by_cases hs : admits parent s
      · rw [shownUnder, List.filter_cons_of_pos hs, List.map_cons, ofLevel_cons hd,
          Entry.preorderAll, List.map_append, ← shownUnder, filter_nodes i hs hd]
        congr 1
        have hbelow : (fun n : Node =>
              (depth + (n.under i s).depth, (n.under i s).entryUnder parent))
            = fun n => (depth + 1 + n.depth, n.entryUnder (some s)) := by
          funext n
          rw [Node.depth_under, Node.entryUnder_under, Nat.add_assoc, Nat.add_comm 1]
        -- the entry of `s` comes first, and then those of the nodes below it
        rw [Entry.preorder_eq, List.map_cons, bare_ofTree _ _ i, ofTree_rebuilt,
          ihc (some s) 0 (depth + 1), List.map_cons, List.map_map, Node.depth_top, ← hbelow]
        rfl
      · rw [filter_nodes_of_not_admits i hs, shownUnder, List.filter_cons_of_neg hs]
        rfl
    · have hnone : ∀ n ∈ nodesAll i (s :: rest),
          ¬decide (n.IsShownUnder ⟨false, maxDepth⟩ parent depth) := by
        intro n _ h
        exact hd (of_decide_eq_true h).shows
      rw [Entry.ofLevel, if_neg hd, List.filter_eq_nil_iff.mpr hnone]
      rfl

end

end Symbol

end SymbolOutline
