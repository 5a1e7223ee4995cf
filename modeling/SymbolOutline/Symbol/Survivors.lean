import SymbolOutline.Log
import SymbolOutline.Symbol.Policy

/-!
# Survivors

What normalization leaves of a tree, by recursion on the tree. `survivors` is
what is left of the children of a symbol and `eventsAll` what is logged about
them; `IsNormalAll` describes children of which nothing is to be taken away.
-/

namespace SymbolOutline.Symbol

/-- Below a parent of the given kind the symbol goes, with all below it. -/
def IsHidden (parent : SymbolKind) (s : Symbol) : Prop :=
  s.kind.IsExcludedUnder parent ∨ Name.isPrivate (Name.stripMarkers s.name)

instance (parent : SymbolKind) (s : Symbol) : Decidable (s.IsHidden parent) :=
  inferInstanceAs (Decidable (_ ∨ _))

mutual

/-- The symbol under a new name, with what is left of its children. -/
def rebuilt (name : String) : Symbol → Symbol
  | ⟨_, detail, kind, tags, deprecated, range, selectionRange, none⟩ =>
    ⟨name, detail, kind, tags, deprecated, range, selectionRange, some []⟩
  | ⟨_, detail, kind, tags, deprecated, range, selectionRange, some children⟩ =>
    ⟨name, detail, kind, tags, deprecated, range, selectionRange, some (survivors kind children)⟩

/-- What is left of the children of a symbol of the given kind. -/
def survivors (parent : SymbolKind) : List Symbol → List Symbol
  | [] => []
  | s :: rest =>
    if s.IsHidden parent then survivors parent rest
    else rebuilt (Name.stripMarkers s.name) s :: survivors parent rest

end

mutual

/-- The events for a symbol that is kept under a name: those for its children,
and one with their number. -/
def events (name : String) : Symbol → List Event
  | ⟨_, _, _, _, _, _, _, none⟩ => [.normalized name 0 0]
  | ⟨_, _, kind, _, _, _, _, some children⟩ =>
    eventsAll kind children
      ++ [.normalized name (survivors kind children).length children.length]

def eventsAll (parent : SymbolKind) : List Symbol → List Event
  | [] => []
  | s :: rest =>
    (if s.kind.IsExcludedUnder parent then [.hidChild s.kind s.name parent]
      else if Name.isPrivate (Name.stripMarkers s.name) then [.hidPrivate s.name]
      else events (Name.stripMarkers s.name) s) ++ eventsAll parent rest

end

theorem rebuilt_eq (name : String) (s : Symbol) :
    s.rebuilt name = { s with name, children := some (survivors s.kind s.childList) } := by
  obtain ⟨_, _, _, _, _, _, _, children⟩ := s
  cases children <;> rfl

theorem events_eq (name : String) (s : Symbol) :
    s.events name = eventsAll s.kind s.childList
      ++ [.normalized name (survivors s.kind s.childList).length s.childList.length] := by
  obtain ⟨_, _, _, _, _, _, _, children⟩ := s
  cases children <;> rfl

/-- The symbols that are not hidden, in their order, each rebuilt. -/
theorem survivors_eq (parent : SymbolKind) (forest : List Symbol) :
    survivors parent forest
      = (forest.filter fun s => ¬s.IsHidden parent).map fun s =>
          s.rebuilt (Name.stripMarkers s.name) := by
  induction forest with
  | nil => rfl
  | cons s rest ih =>
    rw [survivors]
    by_cases h : s.IsHidden parent
    · rw [if_pos h, ih, List.filter_cons_of_neg (by simpa using h)]
    · rw [if_neg h, ih, List.filter_cons_of_pos (by simpa using h), List.map_cons]

/-- A class with a method, a private field and the accessor of a property. -/
def server : Symbol :=
  .plain .classKind "Server" [.plain .methodKind "start" [], .plain .fieldKind "_socket" [],
    .plain .propertyKind "(get) address" []]

example : (survivors server.kind server.childList).map name = ["start", "address"] := by decide

mutual

/-- A symbol that is kept as it is below a parent of the given kind. -/
def IsNormal (parent : SymbolKind) : Symbol → Prop
  | ⟨_, _, _, _, _, _, _, none⟩ => False
  | ⟨name, _, kind, _, _, _, _, some children⟩ =>
    ¬kind.IsExcludedUnder parent ∧ ¬Name.isPrivate name ∧ ¬Name.HasMarker name
      ∧ IsNormalAll kind children

def IsNormalAll (parent : SymbolKind) : List Symbol → Prop
  | [] => True
  | s :: rest => IsNormal parent s ∧ IsNormalAll parent rest

end

theorem isNormal_iff {parent : SymbolKind} {s : Symbol} :
    s.IsNormal parent ↔ s.children = some s.childList ∧ ¬s.kind.IsExcludedUnder parent
      ∧ ¬Name.isPrivate s.name ∧ ¬Name.HasMarker s.name ∧ IsNormalAll s.kind s.childList := by
  obtain ⟨_, _, _, _, _, _, _, children⟩ := s
  cases children <;> simp [IsNormal, childList]

end SymbolOutline.Symbol
