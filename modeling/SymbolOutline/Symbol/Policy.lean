import SymbolOutline.Symbol.Basic

/-!
# What an outline shows

`excludedUnder` lists the child kinds that a parent kind hides, `isPrivate`
and `stripMarkers` read names, and `Symbol.isVisibleRoot` decides which
symbols an outline starts from.
-/

namespace SymbolOutline

namespace SymbolKind

/-- The child kinds hidden under a parent kind. Callables and data holders
hide the literals and declarations in their bodies; classes keep methods,
properties and constructors. -/
def excludedUnder (parent : SymbolKind) : List SymbolKind :=
  if parent ∈ [constructorKind, enumKind, functionKind, interfaceKind, methodKind, objectKind,
      propertyKind, variableKind] then
    [arrayKind, booleanKind, constantKind, functionKind, numberKind, objectKind, packageKind,
      propertyKind, variableKind]
  else if parent = classKind then
    [arrayKind, booleanKind, classKind, constantKind, numberKind, stringKind, structKind,
      variableKind]
  else []

def IsExcludedUnder (child parent : SymbolKind) : Prop := child ∈ parent.excludedUnder

instance (child parent : SymbolKind) : Decidable (child.IsExcludedUnder parent) :=
  inferInstanceAs (Decidable (child ∈ parent.excludedUnder))

end SymbolKind

namespace Name

/-- Names that start with an underscore are private. -/
def isPrivate (name : String) : Bool :=
  match name.toList with
  | '_' :: _ => true
  | _ => false

theorem isPrivate_iff {name : String} : isPrivate name ↔ name.toList.head? = some '_' := by
  unfold isPrivate
  split
  · next rest h => simp [h]
  · next h =>
    cases hname : name.toList with
    | nil => simp
    | cons c rest =>
      have hc : c ≠ '_' := by
        rintro rfl
        exact h rest hname
      simp [hc]

/-- What a server puts before the name of an accessor. -/
def markers : List String := ["(get) ", "(set) "]

def HasMarker (name : String) : Prop := ∃ m ∈ markers, m.toList <+: name.toList

/-- The text without the accessor markers it starts with. -/
def dropMarkers : List Char → List Char
  | '(' :: 'g' :: 'e' :: 't' :: ')' :: ' ' :: rest => dropMarkers rest
  | '(' :: 's' :: 'e' :: 't' :: ')' :: ' ' :: rest => dropMarkers rest
  | text => text

/-- A name without the markers it starts with. -/
def stripMarkers (name : String) : String := String.ofList (dropMarkers name.toList)

example : stripMarkers "(get) (set) value" = "value" := by decide
example : stripMarkers "(get)value" = "(get)value" := by decide

end Name

/-- Whether an outline shows the symbol as a root: private names and bare
properties are left out. Its children do not matter. -/
def Symbol.isVisibleRoot (s : Symbol) : Bool :=
  !Name.isPrivate s.name && s.kind != SymbolKind.propertyKind

theorem Symbol.isVisibleRoot_iff {s : Symbol} :
    s.isVisibleRoot ↔ ¬Name.isPrivate s.name ∧ s.kind ≠ SymbolKind.propertyKind := by
  simp [isVisibleRoot]

end SymbolOutline
