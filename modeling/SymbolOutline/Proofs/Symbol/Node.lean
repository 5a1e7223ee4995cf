import SymbolOutline.Symbol.Basic

/-!
# Nodes of a forest

A `Node` is a symbol with its place in a forest: how to get to it from the
roots, and the symbols passed on the way. `Symbol.nodesAll` lists the nodes of
a forest in preorder.
-/

namespace SymbolOutline.Symbol

structure Node where
  /-- The index among its siblings of each symbol on the way from the root down. -/
  address : List Nat
  /-- The symbols above, from the root down. -/
  above : List Symbol
  symbol : Symbol

namespace Node

/-- The symbols from the root down to the node itself. -/
def path (n : Node) : List Symbol := n.above ++ [n.symbol]

/-- The level of the node, 1 for a root. -/
def depth (n : Node) : Nat := n.path.length

def root (n : Node) : Symbol := n.above.headD n.symbol

/-- A root with the given index. -/
def top (i : Nat) (s : Symbol) : Node := ⟨[i], [], s⟩

/-- A node of the children of `s`, seen from the siblings of `s`. -/
def under (i : Nat) (s : Symbol) (n : Node) : Node := ⟨i :: n.address, s :: n.above, n.symbol⟩

theorem depth_top (i : Nat) (s : Symbol) : (top i s).depth = 1 := rfl

theorem depth_under (i : Nat) (s : Symbol) (n : Node) : (n.under i s).depth = n.depth + 1 := rfl

theorem path_under (i : Nat) (s : Symbol) (n : Node) : (n.under i s).path = s :: n.path := rfl

theorem depth_pos (n : Node) : 1 ≤ n.depth := by
  simp [depth, path]

end Node

mutual

/-- The nodes of the tree whose root has the given index, a parent before its
children. -/
def nodes (i : Nat) : Symbol → List Node
  | s@⟨_, _, _, _, _, _, _, none⟩ => [.top i s]
  | s@⟨_, _, _, _, _, _, _, some children⟩ => .top i s :: (nodesAll 0 children).map (.under i s)

/-- The nodes of a forest whose roots are numbered from `i`. -/
def nodesAll (i : Nat) : List Symbol → List Node
  | [] => []
  | s :: rest => nodes i s ++ nodesAll (i + 1) rest

end

theorem nodes_eq (i : Nat) (s : Symbol) :
    s.nodes i = .top i s :: (nodesAll 0 s.childList).map (.under i s) := by
  obtain ⟨_, _, _, _, _, _, _, children⟩ := s
  cases children <;> rfl

/-- A node is a root or lies below one. -/
theorem mem_nodesAll {i : Nat} {forest : List Symbol} {n : Node} :
    n ∈ nodesAll i forest ↔ ∃ j s, forest[j]? = some s
      ∧ (n = .top (i + j) s ∨ ∃ m ∈ nodesAll 0 s.childList, n = m.under (i + j) s) := by
  induction forest generalizing i with
  | nil => simp [nodesAll]
  | cons s rest ih =>
    rw [nodesAll, List.mem_append, nodes_eq, List.mem_cons, List.mem_map, ih]
    constructor
    · rintro ((rfl | ⟨m, hm, rfl⟩) | ⟨j, t, ht, h⟩)
      · exact ⟨0, s, rfl, .inl rfl⟩
      · exact ⟨0, s, rfl, .inr ⟨m, hm, rfl⟩⟩
      · rw [Nat.add_assoc, Nat.add_comm 1 j] at h
        exact ⟨j + 1, t, ht, h⟩
    · rintro ⟨j, t, ht, h⟩
      cases j with
      | zero =>
        obtain rfl := Option.some.inj ht
        rcases h with rfl | ⟨m, hm, rfl⟩
        · exact .inl (.inl rfl)
        · exact .inl (.inr ⟨m, hm, rfl⟩)
      | succ j =>
        rw [← Nat.add_assoc, Nat.add_right_comm] at h
        exact .inr ⟨j, t, ht, h⟩

theorem length_address {i : Nat} {forest : List Symbol} {n : Node} (hn : n ∈ nodesAll i forest) :
    n.address.length = n.depth := by
  induction forest using forest_induction generalizing i n with
  | nil => cases hn
  | cons s rest ihc ihr =>
    rw [nodesAll, List.mem_append, nodes_eq, List.mem_cons, List.mem_map] at hn
    rcases hn with (rfl | ⟨m, hm, rfl⟩) | hn
    · rfl
    · rw [Node.depth_under, ← ihc hm]
      rfl
    · exact ihr hn

theorem head?_address_of_nodes {i : Nat} {s : Symbol} {n : Node} (hn : n ∈ nodes i s) :
    n.address.head? = some i := by
  rw [nodes_eq, List.mem_cons, List.mem_map] at hn
  rcases hn with rfl | ⟨m, -, rfl⟩
  · rfl
  · rfl

theorem head?_address {i : Nat} {forest : List Symbol} {n : Node} (hn : n ∈ nodesAll i forest) :
    ∃ j, i ≤ j ∧ n.address.head? = some j := by
  obtain ⟨j, s, -, rfl | ⟨m, -, rfl⟩⟩ := mem_nodesAll.mp hn
  · exact ⟨i + j, Nat.le_add_right i j, rfl⟩
  · exact ⟨i + j, Nat.le_add_right i j, rfl⟩

theorem nodup_address (i : Nat) (forest : List Symbol) :
    ((nodesAll i forest).map Node.address).Nodup := by
  rw [List.Nodup, List.pairwise_map]
  induction forest using forest_induction generalizing i with
  | nil => exact List.Pairwise.nil
  | cons s rest ihc ihr =>
    have hnodes : (nodes i s).Pairwise fun n m => n.address ≠ m.address := by
      rw [nodes_eq, List.pairwise_cons, List.pairwise_map]
      refine ⟨?_, (ihc 0).imp fun hne h => hne (List.cons.inj h).2⟩
      intro n hn h
      obtain ⟨m, hm, rfl⟩ := List.mem_map.mp hn
      obtain ⟨j, -, hj⟩ := head?_address hm
      rw [← (List.cons.inj h).2] at hj
      cases hj
    rw [nodesAll, List.pairwise_append]
    refine ⟨hnodes, ihr (i + 1), ?_⟩
    -- the siblings that follow have larger indices
    intro n hn m hm h
    obtain ⟨j, hj, hm⟩ := head?_address hm
    rw [← h, head?_address_of_nodes hn] at hm
    have hij : i = j := Option.some.inj hm
    omega

/-- The nodes are listed in the order of the forest. -/
theorem map_nodesAll (i depth : Nat) (forest : List Symbol) :
    ((nodesAll i forest).map fun n => (depth + n.depth, n.symbol))
      = preorderAll (depth + 1) forest := by
  induction forest using forest_induction generalizing i depth with
  | nil => rfl
  | cons s rest ihc ihr =>
    have hchildren : ((nodesAll 0 s.childList).map fun n =>
        (depth + (n.under i s).depth, (n.under i s).symbol))
          = preorderAll (depth + 1 + 1) s.childList := by
      rw [← ihc 0 (depth + 1)]
      refine List.map_congr_left fun n _ => ?_
      rw [Node.depth_under, Nat.add_assoc, Nat.add_comm 1]
      rfl
    rw [nodesAll, preorderAll, List.map_append, ihr, nodes_eq, preorder_eq, List.map_cons,
      List.map_map, ← hchildren]
    rfl

theorem length_nodesAll (i : Nat) (forest : List Symbol) :
    (nodesAll i forest).length = sizeAll forest := by
  induction forest using forest_induction generalizing i with
  | nil => rfl
  | cons s rest ihc ihr =>
    rw [nodesAll, sizeAll, size_eq, List.length_append, nodes_eq, List.length_cons,
      List.length_map, ihc, ihr, Nat.add_comm 1]

end SymbolOutline.Symbol
