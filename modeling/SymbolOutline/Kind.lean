/-!
# Symbol kinds

A `SymbolKind` is the number a language server sends for a symbol. The
protocol names the numbers 1 to 26 (`known`); every other 32-bit number is
carried along and has no name. `weight` orders the kinds for display: the
kinds of `leading` come first, in that order, and all others follow by number.
-/

namespace SymbolOutline

structure SymbolKind where
  ordinal : Int32
  deriving DecidableEq, Repr, Inhabited

namespace SymbolKind

def fileKind : SymbolKind := ⟨1⟩
def moduleKind : SymbolKind := ⟨2⟩
def namespaceKind : SymbolKind := ⟨3⟩
def packageKind : SymbolKind := ⟨4⟩
def classKind : SymbolKind := ⟨5⟩
def methodKind : SymbolKind := ⟨6⟩
def propertyKind : SymbolKind := ⟨7⟩
def fieldKind : SymbolKind := ⟨8⟩
def constructorKind : SymbolKind := ⟨9⟩
def enumKind : SymbolKind := ⟨10⟩
def interfaceKind : SymbolKind := ⟨11⟩
def functionKind : SymbolKind := ⟨12⟩
def variableKind : SymbolKind := ⟨13⟩
def constantKind : SymbolKind := ⟨14⟩
def stringKind : SymbolKind := ⟨15⟩
def numberKind : SymbolKind := ⟨16⟩
def booleanKind : SymbolKind := ⟨17⟩
def arrayKind : SymbolKind := ⟨18⟩
def objectKind : SymbolKind := ⟨19⟩
def keyKind : SymbolKind := ⟨20⟩
def nullKind : SymbolKind := ⟨21⟩
def enumMemberKind : SymbolKind := ⟨22⟩
def structKind : SymbolKind := ⟨23⟩
def eventKind : SymbolKind := ⟨24⟩
def operatorKind : SymbolKind := ⟨25⟩
def typeParameterKind : SymbolKind := ⟨26⟩

/-- The kinds of the protocol with their names, by number. -/
def named : List (SymbolKind × String) :=
  [(fileKind, "File"), (moduleKind, "Module"), (namespaceKind, "Namespace"),
    (packageKind, "Package"), (classKind, "Class"), (methodKind, "Method"),
    (propertyKind, "Property"), (fieldKind, "Field"), (constructorKind, "Constructor"),
    (enumKind, "Enum"), (interfaceKind, "Interface"), (functionKind, "Function"),
    (variableKind, "Variable"), (constantKind, "Constant"), (stringKind, "String"),
    (numberKind, "Number"), (booleanKind, "Boolean"), (arrayKind, "Array"),
    (objectKind, "Object"), (keyKind, "Key"), (nullKind, "Null"),
    (enumMemberKind, "EnumMember"), (structKind, "Struct"), (eventKind, "Event"),
    (operatorKind, "Operator"), (typeParameterKind, "TypeParameter")]

def known : List SymbolKind := named.map Prod.fst

/-- The label of a kind the protocol does not name. -/
def unknownLabel : String := "Unknown"

def label (kind : SymbolKind) : String := (named.lookup kind).getD unknownLabel

/-- The name of a kind in log messages, which tells unnamed kinds apart. -/
def logName (kind : SymbolKind) : String :=
  (named.lookup kind).getD s!"SymbolKind({kind.ordinal})"

/-- The kinds shown before all others, in their order. -/
def leading : List SymbolKind :=
  [classKind, constructorKind, propertyKind, methodKind, interfaceKind, functionKind, enumKind]

/-- The sort weight, least first: leading kinds count up from -100, and every
other kind weighs its number. -/
def weight (kind : SymbolKind) : Int32 :=
  match leading.idxOf? kind with
  | some i => -100 + Int32.ofNat i
  | none => kind.ordinal

/-- The known kinds by weight. -/
def table : List SymbolKind := known.mergeSort fun a b => a.weight ≤ b.weight

example : classKind.weight = -100 ∧ enumKind.weight = -94 ∧ fileKind.weight = 1 := by decide

end SymbolKind

end SymbolOutline
