import SymbolOutline.Files.Basic
import SymbolOutline.Log
import SymbolOutline.Settings.Toml

/-!
# Loading settings

`Settings.load` reads a settings file. `Settings.discover` looks for one in a
directory: the first candidate that is there and reads as settings is taken,
and without one the defaults hold.
-/

namespace SymbolOutline

/-- Why settings could not be loaded. -/
inductive LoadError where
  | notFound (path : String)
  | unreadable (e : FileError)
  /-- The file's text has no settings. -/
  | rejected (path : String) (text : List Char) (e : Settings.TomlError)
  deriving DecidableEq

namespace LoadError

def message : LoadError → String
  | notFound path => "Config file not found: " ++ path
  | unreadable e => "IO error: " ++ e.message
  | rejected path text e => "Failed to parse config " ++ path ++ ": " ++ e.message text

/-- The message, and after it the message of what lies behind the error. -/
def chain : LoadError → List String
  | e@(notFound _) => [e.message]
  | e@(unreadable inner) => [e.message, inner.message]
  | e@(rejected _ text inner) => [e.message, inner.message text]

end LoadError

namespace Settings

/-- The names of settings files, first choice first. -/
def candidates : List String := ["symtidy.toml", ".symtidy.toml"]

def load (files : Files) (log : Log) (path : String) : Except LoadError Settings × Log :=
  match files path with
  | none => (.error (.notFound path), log)
  | some stored =>
    match stored.text with
    | .error e => (.error (.unreadable e), log)
    | .ok text =>
      match ofToml text with
      | .error e => (.error (.rejected path text e), log)
      | .ok settings => (.ok settings, log.push (.loadedSettings path))

/-- Loads the first of the paths that is there and is not rejected. -/
def loadFirst (files : Files) (log : Log) : List String → Except LoadError Settings × Log
  | [] => (.ok {}, log)
  | path :: rest =>
    match files path with
    | none => loadFirst files log rest
    | some _ =>
      match load files log path with
      | (.error (.rejected path text e), log) =>
        loadFirst files (log.push (.ignoredSettings path (e.message text))) rest
      | result => result

/-- The path of a file in a directory. -/
def inDirectory (dir name : String) : String :=
  match dir.toList.getLast? with
  | none | some '/' => dir ++ name
  | some _ => dir ++ "/" ++ name

def discover (files : Files) (log : Log) (dir : String) : Except LoadError Settings × Log :=
  loadFirst files log (candidates.map (inDirectory dir))

end Settings

end SymbolOutline
