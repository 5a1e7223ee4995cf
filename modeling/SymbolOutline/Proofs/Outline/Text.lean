import SymbolOutline.Outline.Text

/-!
# The lines of an outline

An outline is written line by line, one for each entry of `Outline.preorder`
(`Outline.render_eq`), a parent before its children. The attempt fails just
where the indent of some entry is wider than a line can be padded
(`Outline.render_fails_iff`).
-/

namespace SymbolOutline

/-- A list can be mapped unless one of its members cannot. -/
theorem exists_error_mapM {α β ε : Type} {f : α → Except ε β} {l : List α} :
    (∃ e, l.mapM f = .error e) ↔ ∃ a ∈ l, ∃ e, f a = .error e := by
  induction l with
  | nil => simp [pure, Except.pure]
  | cons a rest ih =>
    rw [List.mapM_cons]
    cases ha : f a with
    | error e => simp [bind, Except.bind, ha]
    | ok b =>
      cases hrest : rest.mapM f with
      | error e => simp [bind, Except.bind, ← ih, hrest]
      | ok bs => simp [bind, Except.bind, pure, Except.pure, ← ih, hrest, ha]

namespace TextStyle

/-- The line of an entry with its indent and the newline. -/
def indentedLine (style : TextStyle) (p : Nat × Entry) : Except IndentError String :=
  (style.indentWidth p.1).map fun width =>
    String.ofList (List.replicate width ' ') ++ style.line p.2

theorem indentWidth_of_le {style : TextStyle} {depth : Nat}
    (h : depth * style.indent ≤ maxWidth) :
    style.indentWidth depth = .ok (depth * style.indent) := by
  have hmax : maxWidth < Nat.pow 2 64 := by decide
  unfold indentWidth
  rw [if_neg (by omega), if_neg (by omega)]

theorem indentWidth_of_lt {style : TextStyle} {depth : Nat}
    (h : maxWidth < depth * style.indent) : ∃ e, style.indentWidth depth = .error e := by
  unfold indentWidth
  by_cases hfits : Nat.pow 2 64 ≤ depth * style.indent
  · exact ⟨.overflow, if_pos hfits⟩
  · rw [if_neg hfits, if_pos h]
    exact ⟨.tooWide, rfl⟩

theorem indentedLine_of_le {style : TextStyle} {p : Nat × Entry}
    (h : p.1 * style.indent ≤ maxWidth) :
    style.indentedLine p
      = .ok (String.ofList (List.replicate (p.1 * style.indent) ' ') ++ style.line p.2) := by
  rw [indentedLine, indentWidth_of_le h]
  rfl

theorem indentedLine_fails_iff {style : TextStyle} {p : Nat × Entry} :
    (∃ e, style.indentedLine p = .error e) ↔ maxWidth < p.1 * style.indent := by
  constructor
  · rintro ⟨e, he⟩
    by_cases hle : p.1 * style.indent ≤ maxWidth
    · rw [indentedLine_of_le hle] at he
      cases he
    · omega
  · intro h
    obtain ⟨e, he⟩ := indentWidth_of_lt h
    refine ⟨e, ?_⟩
    rw [indentedLine, he]
    rfl

end TextStyle

namespace Entry

theorem preorderAll_eq_flatMap (depth : Nat) (entries : List Entry) :
    preorderAll depth entries = (atDepth depth entries).flatMap fun p => p.2.preorder p.1 := by
  induction entries with
  | nil => rfl
  | cons e rest ih =>
    rw [preorderAll, ih]
    rfl

end Entry

namespace Outline

/-- What is pending is written after the text, each entry before those below it. -/
theorem render_go (style : TextStyle) (text : String) (pending : List (Nat × Entry)) :
    render.go style text pending
      = ((pending.flatMap fun p => p.2.preorder p.1).mapM style.indentedLine).map
          fun lines => text ++ String.join lines := by
  fun_induction render.go style text pending with
  | case1 text => simp [pure, Except.pure, Except.map]
  | case2 text depth e pending err herr =>
    have hline : style.indentedLine (depth, e) = .error err := by
      rw [TextStyle.indentedLine, herr]
      rfl
    rw [List.flatMap_cons, Entry.preorder_eq, List.cons_append, List.mapM_cons, hline]
    rfl
  | case3 text depth e pending width hwidth ih =>
    have hline : style.indentedLine (depth, e)
        = .ok (String.ofList (List.replicate width ' ') ++ style.line e) := by
      rw [TextStyle.indentedLine, hwidth]
      rfl
    rw [ih, List.flatMap_cons, Entry.preorder_eq, List.cons_append, List.mapM_cons, hline,
      List.flatMap_append, ← Entry.preorderAll_eq_flatMap]
    cases (Entry.preorderAll (depth + 1) e.children
        ++ pending.flatMap fun p => p.2.preorder p.1).mapM style.indentedLine with
    | error err => rfl
    | ok lines =>
      simp [bind, Except.bind, pure, Except.pure, Except.map, String.append_assoc]

theorem render_eq (style : TextStyle) (outline : Outline) :
    outline.render style = (outline.preorder.mapM style.indentedLine).map String.join := by
  rw [render, render_go, ← Entry.preorderAll_eq_flatMap, preorder]
  simp only [String.empty_append]

/-- The text cannot be written just where an entry is indented too far. -/
theorem render_fails_iff {style : TextStyle} {outline : Outline} :
    (∃ e, outline.render style = .error e)
      ↔ ∃ p ∈ outline.preorder, TextStyle.maxWidth < p.1 * style.indent := by
  have hlines : (∃ e, outline.render style = .error e)
      ↔ ∃ e, outline.preorder.mapM style.indentedLine = .error e := by
    rw [render_eq]
    cases outline.preorder.mapM style.indentedLine <;> simp [Except.map]
  rw [hlines, exists_error_mapM]
  simp only [TextStyle.indentedLine_fails_iff]

end Outline

end SymbolOutline
