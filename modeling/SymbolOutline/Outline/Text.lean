import SymbolOutline.Outline.Basic
import SymbolOutline.Settings.Basic

/-!
# Outlines as text

One line per entry, indented by depth: label, name, and as the `TextStyle`
says the detail in brackets and the line number. A line can be padded by at
most `maxWidth` spaces; a deeper indent is an `IndentError`.
-/

namespace SymbolOutline

inductive IndentError where
  /-- The width of the indent does not fit 64 bits. -/
  | overflow
  /-- The indent is wider than a line can be padded. -/
  | tooWide
  deriving DecidableEq, Repr

def IndentError.message : IndentError → String
  | overflow => "attempt to multiply with overflow"
  | tooWide => "Formatting argument out of range"

namespace TextStyle

/-- The most spaces a line can be padded by. -/
def maxWidth : Nat := 65535

/-- The number of spaces before an entry. -/
def indentWidth (style : TextStyle) (depth : Nat) : Except IndentError Nat :=
  if Nat.pow 2 64 ≤ depth * style.indent then .error .overflow
  else if maxWidth < depth * style.indent then .error .tooWide
  else .ok (depth * style.indent)

/-- The line of an entry after its indent, with the newline. -/
def line (style : TextStyle) (e : Entry) : String :=
  e.label ++ " " ++ e.name
    ++ (if style.showDetail then
          match e.detail with
          | some detail => "  (" ++ detail ++ ")"
          | none => ""
        else "")
    ++ (if style.showLines then s!"  :{e.line.toNat + 1}" else "")
    ++ "\n"

end TextStyle

/-- The text of an outline. Entries are written in the order they are shown,
and the first one that cannot be indented ends the attempt. -/
def Outline.render (style : TextStyle) (outline : Outline) : Except IndentError String :=
  go "" (Entry.atDepth 0 outline.entries)
where
  /-- Writes the pending entries, with all below them, after `text`. -/
  go (text : String) : List (Nat × Entry) → Except IndentError String
    | [] => .ok text
    | (depth, e) :: pending =>
      match style.indentWidth depth with
      | .error err => .error err
      | .ok width =>
        go (text ++ String.ofList (List.replicate width ' ') ++ style.line e)
          (Entry.atDepth (depth + 1) e.children ++ pending)
  termination_by pending => Entry.sizeAll (pending.map Prod.snd)
  decreasing_by
    simp only [List.map_append, Entry.map_snd_atDepth, Entry.sizeAll_append, List.map_cons,
      Entry.sizeAll, Entry.size_eq]
    omega

end SymbolOutline
