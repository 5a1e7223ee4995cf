import SymbolOutline.Outline.Basic
import SymbolOutline.Settings.Basic
import SymbolOutline.Symbol.Normalize

/-!
# Building an outline

`Outline.build` takes the visible roots of a document, normalizes what is
below them and turns the result into entries, level by level up to the deepest
one shown, siblings sorted by weight if asked for. The conversion is a `Step`
machine whose stack holds a `Level` for each open entry, innermost first, and
one without an entry at the bottom for the roots.
-/

namespace SymbolOutline

namespace Builder

open SymbolOutline.Symbol (sizeAll)

/-- An entry whose children are still being converted. -/
structure Level where
  entry : Option Entry
  pending : List Symbol
  built : Array Entry
  depth : Nat

/-- Siblings in display order. -/
def arrange (options : BuildOptions) (siblings : List Entry) : List Entry :=
  if options.sort then Entry.byWeight siblings else siblings

def Level.opening (options : BuildOptions) (symbol : Symbol) (depth : Nat) : Level where
  entry := some (.ofSymbol symbol)
  pending := if options.Shows (depth + 1) then symbol.childList else []
  built := #[]
  depth := depth

/-- Takes the next pending symbol of the innermost level, or closes that level
and hands its entry to the one around it. -/
def step (options : BuildOptions) : List Level → Step (List Level) (List Entry)
  | [] => .stuck
  | level :: below =>
    match level.pending with
    | symbol :: rest =>
      let level := { level with pending := rest }
      if options.Shows (level.depth + 1) then
        .next (.opening options symbol (level.depth + 1) :: level :: below)
      else .next (level :: below)
    | [] =>
      let children := arrange options level.built.toList
      match below, level.entry with
      | parent :: below, some entry =>
        .next ({ parent with built := parent.built.push { entry with children } } :: below)
      | _, _ => .done children

/-- A level costs one step to close, and every symbol still pending one more
to open. -/
def work (stack : List Level) : Nat :=
  stack.foldr (fun level n => 1 + 2 * sizeAll level.pending + n) 0

theorem work_step (options : BuildOptions) (s t : List Level) (h : step options s = .next t) :
    work t < work s := by
  match s with
  | [] => simp [step] at h
  | level :: below =>
    simp only [step] at h
    split at h
    · next symbol rest hp =>
      have := symbol.size_eq
      split at h
      · obtain rfl := Step.next.inj h
        have : sizeAll (Level.opening options symbol (level.depth + 1)).pending
            ≤ sizeAll symbol.childList := by
          simp only [Level.opening]; split <;> simp [sizeAll]
        simp only [work, List.foldr_cons, hp, sizeAll]
        omega
      · obtain rfl := Step.next.inj h
        simp only [work, List.foldr_cons, hp, sizeAll]
        omega
    · next hp =>
      split at h
      · obtain rfl := Step.next.inj h
        simp only [work, List.foldr_cons, hp]
        omega
      · simp at h

/-- The entries of normalized symbols. -/
def entries (options : BuildOptions) (roots : List Symbol) : List Entry :=
  (Step.run (step options) work (work_step options) [⟨none, roots, #[], 0⟩]).getD []

end Builder

/-- Normalizes the children of each symbol, first to last. -/
def Symbol.normalizeAll (log : Log) : List Symbol → List Symbol × Log
  | [] => ([], log)
  | s :: rest =>
    let (children, log) := s.normalize log
    let (rest, log) := normalizeAll log rest
    ({ s with children := some children } :: rest, log)

/-- The outline of a document's symbols, and the log with the events of the
construction. -/
def Outline.build (options : BuildOptions) (log : Log) (symbols : List Symbol) : Outline × Log :=
  let (roots, log) := Symbol.normalizeAll log (symbols.filter Symbol.isVisibleRoot)
  let log := log.push (.keptRoots roots.length symbols.length)
  let outline : Outline := ⟨Builder.entries options roots⟩
  (outline, log.push (.builtOutline outline.count))

end SymbolOutline
