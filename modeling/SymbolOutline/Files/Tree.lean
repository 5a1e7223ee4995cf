import SymbolOutline.Files.Basic

/-!
# Trees of files

A `FileTree` holds files in memory. `FileTree.put` and `FileTree.files` follow
paths from its root, with `.`, `..` and repeated slashes; above the root there
are directories in which nothing else can be seen.
-/

namespace SymbolOutline

inductive FileTree where
  | file (bytes : ByteArray)
  | directory (entries : List (String × FileTree))
  deriving Inhabited

namespace FileTree

def empty : FileTree := directory []

def entries : FileTree → List (String × FileTree)
  | directory entries => entries
  | file _ => []

/-- A new tree under a name, in place of an older one. -/
def insert (t : FileTree) (name : String) (inner : FileTree) : FileTree :=
  if t.entries.any (·.1 = name) then
    directory (t.entries.map fun (n, old) => if n = name then (n, inner) else (n, old))
  else directory (t.entries ++ [(name, inner)])

/-- Puts a file at the end of a way from the root, or makes sure of a directory
there. The directories on the way are made. -/
def insertAt (content : Option ByteArray) : List String → FileTree → FileTree
  | [], t =>
    match content with
    | some bytes => file bytes
    | none => directory t.entries
  | name :: way, t => t.insert name (insertAt content way ((t.entries.lookup name).getD empty))

/-- The ways from the root to where each part of a path leads, after `way`. -/
def ways (way : List String) : List String → List (List String)
  | [] => []
  | name :: path =>
    let next :=
      if name = "" ∨ name = "." then way
      else if name = ".." then way.dropLast
      else way ++ [name]
    next :: ways next path

/-- Puts a file where a path leads, or makes sure of a directory there. The
path may have `.`, `..` and repeated slashes, and what it passes is made. -/
def put (content : Option ByteArray) (path : String) (t : FileTree) : FileTree :=
  let ways := ways [] (pathParts path)
  (ways.dropLast.foldl (fun t way => t.insertAt none way) t).insertAt content (ways.getLastD [])

/-- A place in a tree or above it. -/
inductive Spot where
  /-- The way from the root, innermost first, and what is there. -/
  | inside (way : List FileTree) (here : FileTree)
  | above
  deriving Inhabited

def Spot.enter? (spot : Spot) (name : String) : Option Spot :=
  match spot with
  | .inside _ (.file _) => none
  | .inside way (.directory entries) =>
    if name = "" ∨ name = "." then some spot
    else if name = ".." then
      match way with
      | [] => some .above
      | outer :: way => some (.inside way outer)
    else (entries.lookup name).map (.inside (.directory entries :: way))
  | .above => if name ∈ ["", ".", ".."] then some .above else none

def Spot.stored : Spot → Stored
  | .inside _ (.file bytes) => .file bytes
  | .inside _ (.directory _) | .above => .directory

def files (t : FileTree) : Files := fun path =>
  let start : Spot := if path.startsWith '/' then .above else .inside [] t
  if path = "" then none else ((pathParts path).foldlM Spot.enter? start).map Spot.stored

example : ways [] (pathParts "a//b/../c") = [["a"], ["a"], ["a", "b"], ["a"], ["a", "c"]] := by
  decide +kernel

end FileTree

end SymbolOutline
