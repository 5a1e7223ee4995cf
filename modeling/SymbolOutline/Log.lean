import SymbolOutline.Kind
import SymbolOutline.Settings.Basic

/-!
# Log events

An `Event` is something worth telling about a run; `Event.level` and
`Event.message` are how it is told. Functions that log take the events so far
and return them with their own at the end.
-/

namespace SymbolOutline

inductive Event.Level where
  | trace
  | debug
  | info
  | warn
  deriving DecidableEq, Repr

inductive Event where
  /-- A child went because of its kind. -/
  | hidChild (kind : SymbolKind) (name : String) (parent : SymbolKind)
  | hidPrivate (name : String)
  | normalized (name : String) (kept total : Nat)
  | keptRoots (kept total : Nat)
  | builtOutline (entries : Nat)
  | loadedSettings (path : String)
  | ignoredSettings (path reason : String)
  | usingSettings (settings : Settings)
  | readSymbols (count : Nat) (path : String)
  deriving DecidableEq, Repr

abbrev Log := Array Event

namespace Event

def level : Event → Level
  | hidChild .. | hidPrivate .. => .trace
  | normalized .. | keptRoots .. | builtOutline .. | loadedSettings .. | usingSettings .. => .debug
  | readSymbols .. => .info
  | ignoredSettings .. => .warn

def message : Event → String
  | hidChild kind name parent =>
    s!"Dropping {kind.logName} '" ++ name ++ s!"' under {parent.logName}"
  | hidPrivate name => "Dropping private symbol '" ++ name ++ "'"
  | normalized name kept total =>
    "Normalized '" ++ name ++ s!"': kept {kept} of {total} children"
  | keptRoots kept total => s!"Kept {kept} of {total} top-level symbols"
  | builtOutline entries => s!"Built outline with {entries} entries"
  | loadedSettings path => "Loaded settings from " ++ path
  | ignoredSettings path reason => "Ignoring unparsable config " ++ path ++ ": " ++ reason
  | usingSettings settings => "Using settings: " ++ settings.text
  | readSymbols count path => s!"Read {count} top-level symbols from " ++ path

end Event

end SymbolOutline
