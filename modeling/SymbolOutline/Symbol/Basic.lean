import SymbolOutline.Kind

/-!
# Symbols

A `Symbol` is one node of the tree a language server reports for a document:
a class, a function, a field. `children` tells "not reported" from an empty
list; `childList` forgets the difference.
-/

namespace SymbolOutline

/-- A place in a document, counted from zero. -/
structure Position where
  line : UInt32
  character : UInt32
  deriving DecidableEq, Repr, Inhabited

structure Range where
  start : Position
  stop : Position
  deriving DecidableEq, Repr, Inhabited

structure Symbol where
  name : String
  detail : Option String
  kind : SymbolKind
  tags : Option (List Int32)
  deprecated : Option Bool
  range : Range
  /-- The part of `range` to select when the symbol is picked. -/
  selectionRange : Range
  children : Option (List Symbol)
  deriving Repr, Inhabited

namespace Symbol

def childList (s : Symbol) : List Symbol := s.children.getD []

/-- A symbol with no more than a kind, a name and children. -/
def plain (kind : SymbolKind) (name : String) (children : List Symbol) : Symbol :=
  { (default : Symbol) with kind, name, children := some children }

mutual

/-- The symbols of a tree with their depths, a parent before its children. -/
def preorder (depth : Nat) : Symbol → List (Nat × Symbol)
  | s@⟨_, _, _, _, _, _, _, none⟩ => [(depth, s)]
  | s@⟨_, _, _, _, _, _, _, some children⟩ => (depth, s) :: preorderAll (depth + 1) children

def preorderAll (depth : Nat) : List Symbol → List (Nat × Symbol)
  | [] => []
  | s :: rest => preorder depth s ++ preorderAll depth rest

end

mutual

/-- The number of symbols of a tree. -/
def size : Symbol → Nat
  | ⟨_, _, _, _, _, _, _, none⟩ => 1
  | ⟨_, _, _, _, _, _, _, some children⟩ => 1 + sizeAll children

def sizeAll : List Symbol → Nat
  | [] => 0
  | s :: rest => size s + sizeAll rest

end

mutual

/-- The number of levels of a tree. -/
def levels : Symbol → Nat
  | ⟨_, _, _, _, _, _, _, none⟩ => 1
  | ⟨_, _, _, _, _, _, _, some children⟩ => 1 + levelsAll children

def levelsAll : List Symbol → Nat
  | [] => 0
  | s :: rest => max (levels s) (levelsAll rest)

end

theorem size_eq (s : Symbol) : s.size = 1 + sizeAll s.childList := by
  obtain ⟨_, _, _, _, _, _, _, children⟩ := s
  cases children <;> rfl

theorem preorder_eq (depth : Nat) (s : Symbol) :
    s.preorder depth = (depth, s) :: preorderAll (depth + 1) s.childList := by
  obtain ⟨_, _, _, _, _, _, _, children⟩ := s
  cases children <;> rfl

theorem levels_eq (s : Symbol) : s.levels = 1 + levelsAll s.childList := by
  obtain ⟨_, _, _, _, _, _, _, children⟩ := s
  cases children <;> rfl

/-- Induction on forests: a symbol comes after its children and its later siblings. -/
@[elab_as_elim]
theorem forest_induction {motive : List Symbol → Prop} (nil : motive [])
    (cons : ∀ s rest, motive s.childList → motive rest → motive (s :: rest)) :
    ∀ forest, motive forest
  | [] => nil
  | s :: rest =>
    cons s rest (forest_induction nil cons s.childList) (forest_induction nil cons rest)
termination_by forest => sizeAll forest
decreasing_by
  all_goals
    have := s.size_eq
    simp only [sizeAll]
    omega

/-- Induction on forests, from the children of all siblings at once. -/
@[elab_as_elim]
theorem children_induction {motive : List Symbol → Prop}
    (children : ∀ forest, (∀ s ∈ forest, motive s.childList) → motive forest) :
    ∀ forest, motive forest := by
  intro forest
  refine children forest ?_
  induction forest using forest_induction with
  | nil => intro s hs; cases hs
  | cons s rest ihc ihr =>
    intro t ht
    rcases List.mem_cons.mp ht with rfl | ht
    · exact children t.childList ihc
    · exact ihr t ht

end Symbol

end SymbolOutline
