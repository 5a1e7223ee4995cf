import SymbolOutline.Outline.Basic
import SymbolOutline.Settings.Basic

/-!
# Outlines level by level

`Entry.ofLevel` says by recursion on the tree which entries symbols turn into,
`Outline.truncate` cuts an outline off below a level, and `Outline.sort` sorts
the siblings of all levels.
-/

namespace SymbolOutline

namespace Entry

mutual

/-- The entry of a symbol on a level, 1 being the top. -/
def ofTree (options : BuildOptions) (depth : Nat) : Symbol → Entry
  | s@⟨_, _, _, _, _, _, _, none⟩ => ofSymbol s
  | s@⟨_, _, _, _, _, _, _, some children⟩ =>
    { ofSymbol s with
      children :=
        if options.Shows (depth + 1) then
          if options.sort then byWeight (ofTrees options (depth + 1) children)
          else ofTrees options (depth + 1) children
        else [] }

def ofTrees (options : BuildOptions) (depth : Nat) : List Symbol → List Entry
  | [] => []
  | s :: rest => ofTree options depth s :: ofTrees options depth rest

end

/-- The entries of siblings on a level. -/
def ofLevel (options : BuildOptions) (depth : Nat) (siblings : List Symbol) : List Entry :=
  if options.Shows depth then
    if options.sort then byWeight (ofTrees options depth siblings)
    else ofTrees options depth siblings
  else []

theorem ofTree_eq (options : BuildOptions) (depth : Nat) (s : Symbol) :
    ofTree options depth s
      = { ofSymbol s with children := ofLevel options (depth + 1) s.childList } := by
  obtain ⟨_, _, _, _, _, _, _, children⟩ := s
  cases children with
  | none => simp [ofTree, ofSymbol, ofLevel, ofTrees, Symbol.childList]
  | some children => rfl

theorem ofTrees_eq_map (options : BuildOptions) (depth : Nat) (siblings : List Symbol) :
    ofTrees options depth siblings = siblings.map (ofTree options depth) := by
  induction siblings with
  | nil => rfl
  | cons s rest ih => rw [ofTrees, ih, List.map_cons]

mutual

/-- The entry with so many levels below it. -/
def truncate (below : Nat) : Entry → Entry
  | ⟨name, kind, label, weight, detail, line, children⟩ =>
    ⟨name, kind, label, weight, detail, line, truncateAll below children⟩

/-- The first levels of siblings, theirs being the first. -/
def truncateAll (levels : Nat) : List Entry → List Entry
  | [] => []
  | e :: rest => if levels = 0 then [] else truncate (levels - 1) e :: truncateAll levels rest

end

mutual

/-- The entry with the siblings on all levels below it sorted. -/
def sort : Entry → Entry
  | ⟨name, kind, label, weight, detail, line, children⟩ =>
    ⟨name, kind, label, weight, detail, line, byWeight (sortAll children)⟩

def sortAll : List Entry → List Entry
  | [] => []
  | e :: rest => sort e :: sortAll rest

end

end Entry

namespace Outline

/-- The first levels of an outline. -/
def truncate (levels : Nat) (outline : Outline) : Outline :=
  ⟨Entry.truncateAll levels outline.entries⟩

/-- The outline with the siblings of every level sorted by weight. -/
def sort (outline : Outline) : Outline := ⟨Entry.byWeight (Entry.sortAll outline.entries)⟩

end Outline

end SymbolOutline
