import SymbolOutline.Symbol.Basic

/-!
# Outlines

An `Outline` is the list of root entries shown for a document, each with the
entries below it. `Outline.count` counts the entries of all levels.
-/

namespace SymbolOutline

structure Entry where
  name : String
  kind : SymbolKind
  label : String
  weight : Int32
  detail : Option String
  /-- The line the symbol starts on, counted from zero. -/
  line : UInt32
  children : List Entry
  deriving Repr, Inhabited

structure Outline where
  entries : List Entry
  deriving Repr, Inhabited

namespace Entry

/-- The entry of a symbol, with nothing below it. An empty detail is none. -/
def ofSymbol (s : Symbol) : Entry where
  name := s.name
  kind := s.kind
  label := s.kind.label
  weight := s.kind.weight
  detail := s.detail.filter (· ≠ "")
  line := s.range.start.line
  children := []

/-- Siblings by weight; ties keep their order. -/
def byWeight (siblings : List Entry) : List Entry :=
  siblings.mergeSort fun a b => a.weight ≤ b.weight

@[simp] theorem byWeight_nil : byWeight [] = [] := List.mergeSort_nil

mutual

/-- The entries of a tree with their depths, a parent before its children. -/
def preorder (depth : Nat) : Entry → List (Nat × Entry)
  | e@⟨_, _, _, _, _, _, children⟩ => (depth, e) :: preorderAll (depth + 1) children

def preorderAll (depth : Nat) : List Entry → List (Nat × Entry)
  | [] => []
  | e :: rest => preorder depth e ++ preorderAll depth rest

end

mutual

/-- The number of entries of a tree. -/
def size : Entry → Nat
  | ⟨_, _, _, _, _, _, children⟩ => 1 + sizeAll children

def sizeAll : List Entry → Nat
  | [] => 0
  | e :: rest => size e + sizeAll rest

end

mutual

/-- The number of levels of a tree. -/
def levels : Entry → Nat
  | ⟨_, _, _, _, _, _, children⟩ => 1 + levelsAll children

def levelsAll : List Entry → Nat
  | [] => 0
  | e :: rest => max (levels e) (levelsAll rest)

end

theorem preorder_eq (depth : Nat) (e : Entry) :
    e.preorder depth = (depth, e) :: preorderAll (depth + 1) e.children := by
  cases e; rfl

theorem preorderAll_cons (depth : Nat) (e : Entry) (rest : List Entry) :
    preorderAll depth (e :: rest)
      = (depth, e) :: (preorderAll (depth + 1) e.children ++ preorderAll depth rest) := by
  rw [preorderAll, preorder_eq, List.cons_append]

theorem size_eq (e : Entry) : e.size = 1 + sizeAll e.children := by
  cases e; rfl

theorem levels_eq (e : Entry) : e.levels = 1 + levelsAll e.children := by
  cases e; rfl

/-- Induction on forests: an entry comes after its children and its later siblings. -/
@[elab_as_elim]
theorem forest_induction {motive : List Entry → Prop} (nil : motive [])
    (cons : ∀ e rest, motive e.children → motive rest → motive (e :: rest))
    (forest : List Entry) : motive forest := by
  cases forest with
  | nil => exact nil
  | cons e rest =>
    exact cons e rest (forest_induction nil cons e.children) (forest_induction nil cons rest)
termination_by sizeAll forest
decreasing_by
  all_goals
    have := e.size_eq
    simp only [sizeAll]
    omega

mutual

theorem length_preorder (depth : Nat) : ∀ e : Entry, (e.preorder depth).length = e.size
  | ⟨_, _, _, _, _, _, children⟩ => by
    rw [preorder, size, List.length_cons, length_preorderAll (depth + 1) children, Nat.add_comm]

theorem length_preorderAll (depth : Nat) :
    ∀ entries : List Entry, (preorderAll depth entries).length = sizeAll entries
  | [] => rfl
  | e :: rest => by
    rw [preorderAll, sizeAll, List.length_append, length_preorder depth e,
      length_preorderAll depth rest]

end

theorem sizeAll_append (l₁ l₂ : List Entry) : sizeAll (l₁ ++ l₂) = sizeAll l₁ + sizeAll l₂ := by
  induction l₁ with
  | nil => simp [sizeAll]
  | cons e rest ih => simp only [List.cons_append, sizeAll, ih]; omega

theorem sizeAll_reverse (l : List Entry) : sizeAll l.reverse = sizeAll l := by
  induction l with
  | nil => rfl
  | cons e rest ih =>
    rw [List.reverse_cons, sizeAll_append, ih]
    simp only [sizeAll]
    omega

/-- The pending entries with siblings pushed onto them, so that the last is on top. -/
def pushAll (siblings pending : List Entry) : List Entry := siblings.reverse ++ pending

theorem sizeAll_pushAll (siblings pending : List Entry) :
    sizeAll (pushAll siblings pending) = sizeAll siblings + sizeAll pending := by
  rw [pushAll, sizeAll_append, sizeAll_reverse]

/-- The entries, each with the same depth. -/
def atDepth (depth : Nat) (entries : List Entry) : List (Nat × Entry) := entries.map (depth, ·)

theorem map_snd_atDepth (depth : Nat) (entries : List Entry) :
    (atDepth depth entries).map Prod.snd = entries := by
  simp [atDepth, Function.comp_def]

end Entry

namespace Outline

def isEmpty (outline : Outline) : Bool := outline.entries.isEmpty

/-- The number of levels, none if there are no entries. -/
def levels (outline : Outline) : Nat := Entry.levelsAll outline.entries

/-- The entries of all levels with their depths, in the order they are shown. -/
def preorder (outline : Outline) : List (Nat × Entry) := Entry.preorderAll 0 outline.entries

/-- The number of entries at all levels, the last of siblings counted first. -/
def count (outline : Outline) : Nat :=
  go 0 (Entry.pushAll outline.entries [])
where
  /-- Counts the pending entries and all below them on top of `n`. -/
  go (n : Nat) : List Entry → Nat
    | [] => n
    | e :: pending => go (n + 1) (Entry.pushAll e.children pending)
  termination_by pending => Entry.sizeAll pending
  decreasing_by
    simp only [Entry.sizeAll_pushAll, Entry.sizeAll, Entry.size_eq]; omega

theorem count_go (n : Nat) (pending : List Entry) :
    count.go n pending = n + Entry.sizeAll pending := by
  fun_induction count.go n pending with
  | case1 => rfl
  | case2 n e pending ih =>
    rw [ih, Entry.sizeAll_pushAll, Entry.sizeAll, Entry.size_eq]
    omega

theorem count_eq (outline : Outline) : outline.count = Entry.sizeAll outline.entries := by
  rw [count, count_go, Nat.zero_add, Entry.sizeAll_pushAll]
  rfl

end Outline

end SymbolOutline
