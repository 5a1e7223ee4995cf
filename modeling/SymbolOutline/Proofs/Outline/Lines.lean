import SymbolOutline.Proofs.Outline.Build
import SymbolOutline.Proofs.Outline.Text
import SymbolOutline.Text.Decimal

/-!
# What stands on the lines

The text of an outline lists its entries in preorder, each on a line of its
own (`Outline.toList_of_render`): indent, label, name, and as the style says
detail and line number (`TextStyle.content`). So a text has as many newlines as
the outline has entries, and those that names and details bring along
(`Outline.count_newline`).
-/

namespace SymbolOutline

/-! ## Numbers -/

theorem Decimal.toDigits_eq (n : Nat) : Nat.toDigits 10 n = digits n := by
  fun_induction digits n with
  | case1 n h =>
    rw [Nat.toDigits_of_lt_base h]
    exact (by decide : ∀ n, n < 10 → [n.digitChar] = [digit n]) n h
  | case2 n h ih =>
    have hlast : (n % 10).digitChar = digit (n % 10) :=
      (by decide : ∀ n, n < 10 → n.digitChar = digit n) (n % 10) (by omega)
    rw [Nat.toDigits_eq_if (by decide), if_neg h, ih, hlast]

/-! ## Labels -/

namespace SymbolKind

theorem label_mem (kind : SymbolKind) : kind.label ∈ unknownLabel :: named.map Prod.snd := by
  rw [label]
  cases h : named.lookup kind with
  | none => exact List.mem_cons_self
  | some name =>
    obtain ⟨l₁, l₂, heq, -⟩ := List.lookup_eq_some_iff.mp h
    refine List.mem_cons_of_mem _ (List.mem_map.mpr ⟨(kind, name), ?_, rfl⟩)
    rw [heq]
    exact List.mem_append_right _ List.mem_cons_self

/-- A label is one word. -/
theorem label_word (kind : SymbolKind) :
    kind.label.toList ≠ [] ∧ ' ' ∉ kind.label.toList ∧ '\n' ∉ kind.label.toList :=
  (by decide : ∀ l ∈ unknownLabel :: named.map Prod.snd,
    l.toList ≠ [] ∧ ' ' ∉ l.toList ∧ '\n' ∉ l.toList) kind.label kind.label_mem

end SymbolKind

namespace Entry

theorem mem_preorderAll {p : Nat × Entry} {depth : Nat} {entries : List Entry} :
    p ∈ preorderAll depth entries ↔ ∃ e ∈ entries, p ∈ e.preorder depth := by
  rw [preorderAll_eq_flatMap, atDepth, List.flatMap_map, List.mem_flatMap]

/-- The labels of built entries are those of their kinds. -/
theorem label_of_mem_ofLevel {options : BuildOptions} {siblings : List Symbol} {p : Nat × Entry}
    {depth level : Nat} (h : p ∈ preorderAll depth (ofLevel options level siblings)) :
    p.2.label = p.2.kind.label := by
  induction siblings using Symbol.children_induction generalizing depth level with
  | children siblings ih =>
    obtain ⟨e, he, hp⟩ := mem_preorderAll.mp h
    rw [Builder.ofLevel_eq] at he
    split at he
    · rw [(Builder.arrange_perm options _).mem_iff] at he
      obtain ⟨s, hs, rfl⟩ := List.mem_map.mp he
      rw [preorder_eq] at hp
      rcases List.mem_cons.mp hp with rfl | hp
      · rfl
      · exact ih s hs hp
    · cases he

end Entry

/-! ## Lines -/

namespace TextStyle

/-- The detail of an entry as its line shows it. -/
def shownDetail (style : TextStyle) (e : Entry) : List Char :=
  if style.showDetail then
    match e.detail with
    | some detail => "  (".toList ++ detail.toList ++ [')']
    | none => []
  else []

/-- The number of an entry's line, counted from one. -/
def shownLine (style : TextStyle) (e : Entry) : List Char :=
  if style.showLines then "  :".toList ++ Decimal.digits (e.line.toNat + 1) else []

/-- What stands on the line of an entry at a depth. -/
def content (style : TextStyle) (p : Nat × Entry) : List Char :=
  List.replicate (p.1 * style.indent) ' ' ++ p.2.label.toList ++ ' ' :: p.2.name.toList
    ++ style.shownDetail p.2 ++ style.shownLine p.2

/-- What an entry brings along from elsewhere. -/
def given (style : TextStyle) (e : Entry) : List Char :=
  e.label.toList ++ e.name.toList ++ style.shownDetail e

variable {style : TextStyle}

theorem toList_line (e : Entry) :
    (style.line e).toList
      = e.label.toList ++ ' ' :: e.name.toList ++ style.shownDetail e ++ style.shownLine e
        ++ ['\n'] := by
  have hcolon : toString "  :" = "  :" := rfl
  cases hdetail : style.showDetail <;> cases hlines : style.showLines <;>
    cases hsome : e.detail <;>
      simp [line, shownDetail, shownLine, hdetail, hlines, hsome, hcolon, Decimal.toDigits_eq]

theorem toList_indentedLine {p : Nat × Entry} {text : String}
    (h : style.indentedLine p = .ok text) : text.toList = style.content p ++ ['\n'] := by
  by_cases hle : p.1 * style.indent ≤ maxWidth
  · rw [indentedLine_of_le hle] at h
    rw [← Except.ok.inj h, String.toList_append, String.toList_ofList, toList_line, content]
    simp
  · obtain ⟨e, he⟩ := indentedLine_fails_iff.mpr (Nat.lt_of_not_le hle)
    rw [he] at h
    cases h

theorem count_content (p : Nat × Entry) :
    (style.content p).count '\n' = (style.given p.2).count '\n' := by
  have hdigits : (style.shownLine p.2).count '\n' = 0 := by
    refine List.count_eq_zero_of_not_mem ?_
    unfold shownLine
    split
    · intro hmem
      rcases List.mem_append.mp hmem with h | h
      · exact absurd h (by decide)
      · exact absurd (Decimal.isDigit_of_mem_digits h) (by decide)
    · exact List.not_mem_nil
  have hblanks : (List.replicate (p.1 * style.indent) ' ').count '\n' = 0 :=
    List.count_eq_zero_of_not_mem fun hmem => absurd (List.eq_of_mem_replicate hmem) (by decide)
  have hblank : (' ' :: p.2.name.toList).count '\n' = p.2.name.toList.count '\n' :=
    List.count_cons_of_ne (by decide)
  simp only [content, given, List.count_append, hdigits, hblanks, hblank]
  omega

/-- A newline for each line, and those of what entries bring along. -/
theorem count_lines (l : List (Nat × Entry)) :
    (l.flatMap fun p => style.content p ++ ['\n']).count '\n'
      = l.length + (l.flatMap fun p => style.given p.2).count '\n' := by
  induction l with
  | nil => rfl
  | cons p l ih =>
    rw [List.flatMap_cons, List.flatMap_cons, List.count_append, List.count_append,
      List.count_append, ih, count_content, List.count_singleton_self, List.length_cons]
    omega

end TextStyle

namespace Outline

variable {style : TextStyle} {outline : Outline} {text : String}

theorem toList_of_mapM {l : List (Nat × Entry)} {lines : List String}
    (h : l.mapM style.indentedLine = .ok lines) :
    lines.flatMap String.toList = l.flatMap fun p => style.content p ++ ['\n'] := by
  induction l generalizing lines with
  | nil =>
    obtain rfl : [] = lines := Except.ok.inj h
    rfl
  | cons p l ih =>
    rw [List.mapM_cons] at h
    cases hp : style.indentedLine p with
    | error e => rw [hp] at h; cases h
    | ok line =>
      cases hl : l.mapM style.indentedLine with
      | error e => rw [hp, hl] at h; cases h
      | ok rest =>
        rw [hp, hl] at h
        obtain rfl : line :: rest = lines := Except.ok.inj h
        rw [List.flatMap_cons, List.flatMap_cons, ih hl, TextStyle.toList_indentedLine hp]

theorem toList_of_render (h : outline.render style = .ok text) :
    text.toList = outline.preorder.flatMap fun p => style.content p ++ ['\n'] := by
  rw [render_eq] at h
  cases hlines : outline.preorder.mapM style.indentedLine with
  | error e => rw [hlines] at h; cases h
  | ok lines =>
    rw [hlines] at h
    rw [← Except.ok.inj h, String.toList_join, toList_of_mapM hlines]

theorem render_of_toOption (h : (outline.render style).toOption = some text) :
    outline.render style = .ok text := by
  cases hrender : outline.render style with
  | error e => rw [hrender] at h; cases h
  | ok written => rw [hrender] at h; rw [Option.some.inj h]

theorem length_preorder (outline : Outline) : outline.preorder.length = outline.count := by
  rw [preorder, Entry.length_preorderAll, count_eq]

theorem preorder_eq_nil_iff : outline.preorder = [] ↔ outline.isEmpty := by
  obtain ⟨entries⟩ := outline
  cases entries with
  | nil => exact iff_of_true rfl rfl
  | cons e rest =>
    refine iff_of_false ?_ Bool.false_ne_true
    rw [preorder, Entry.preorderAll_cons]
    exact List.cons_ne_nil _ _

theorem eq_empty_iff (h : outline.render style = .ok text) : text = "" ↔ outline.isEmpty := by
  rw [← preorder_eq_nil_iff, ← String.toList_eq_nil_iff, toList_of_render h]
  constructor
  · intro hnil
    rw [List.flatMap_eq_nil_iff] at hnil
    refine List.eq_nil_iff_forall_not_mem.mpr fun p hp => ?_
    exact List.cons_ne_nil _ _ (List.append_eq_nil_iff.mp (hnil p hp)).2
  · intro hnil
    rw [hnil]
    rfl

theorem count_newline (h : outline.render style = .ok text) :
    text.toList.count '\n'
      = outline.count + (outline.preorder.flatMap fun p => style.given p.2).count '\n' := by
  rw [toList_of_render h, TextStyle.count_lines, length_preorder]

/-- The labels of a built outline have no newlines. -/
theorem count_given_of_build {options : BuildOptions} {log : Log} {symbols : List Symbol}
    (h : (build options log symbols).1 = outline) :
    (outline.preorder.flatMap fun p => style.given p.2).count '\n'
      = (outline.preorder.flatMap fun p =>
          p.2.name.toList ++ style.shownDetail p.2).count '\n' := by
  have hlabel : ∀ p ∈ outline.preorder, p.2.label.toList.count '\n' = 0 := by
    intro p hp
    rw [← h, build_eq] at hp
    rw [Entry.label_of_mem_ofLevel hp]
    exact List.count_eq_zero_of_not_mem p.2.kind.label_word.2.2
  generalize outline.preorder = l at hlabel
  induction l with
  | nil => rfl
  | cons p l ih =>
    rw [List.flatMap_cons, List.flatMap_cons, List.count_append, List.count_append,
      ih fun q hq => hlabel q (List.mem_cons_of_mem p hq), TextStyle.given, List.append_assoc,
      List.count_append, hlabel p List.mem_cons_self, Nat.zero_add]

/-- An outline can be written if no entry is indented too far. Its text is the
lines of its entries, those of one parent in their order and each before those
below it. It has a newline for each of its entries, however they are counted,
and the newlines of their names and details; it is empty for an empty outline
only. -/
theorem render_lists_preorder (style : TextStyle) (outline : Outline) :
    ((∃ e, outline.render style = .error e)
        ↔ ∃ p ∈ outline.preorder, TextStyle.maxWidth < p.1 * style.indent)
      ∧ ∀ text, outline.render style = .ok text →
        (text.toList = outline.preorder.flatMap fun p =>
            List.replicate (p.1 * style.indent) ' ' ++ p.2.label.toList ++ ' ' :: p.2.name.toList
              ++ style.shownDetail p.2 ++ style.shownLine p.2 ++ ['\n'])
          ∧ outline.preorder.length = outline.count
          ∧ text.toList.count '\n' = outline.count
            + (outline.preorder.flatMap fun p =>
                p.2.label.toList ++ p.2.name.toList ++ style.shownDetail p.2).count '\n'
          ∧ (∀ options log symbols, (build options log symbols).1 = outline →
              text.toList.count '\n' = outline.count
                + (outline.preorder.flatMap fun p =>
                    p.2.name.toList ++ style.shownDetail p.2).count '\n')
          ∧ (text = "" ↔ outline.isEmpty) := by
  refine ⟨render_fails_iff, ?_⟩
  intro text h
  refine ⟨toList_of_render h, length_preorder outline, count_newline h, ?_, eq_empty_iff h⟩
  intro options log symbols hbuild
  rw [count_newline h, count_given_of_build hbuild]

/-- A class on the last line there is, and a method with a newline in its name. -/
def lastLine : Outline :=
  ⟨[⟨"Server", .classKind, "Class", -100, none, 4294967295,
    [⟨"start\n", .methodKind, "Method", -97, some "()", 0, []⟩]⟩]⟩

/-- The number of the last line does not wrap around, and the name has its newline. -/
theorem render_lists_lastLine :
    ∃ text, lastLine.render ⟨2, true, true⟩ = .ok text
      ∧ text = "Class Server  :4294967296\n  Method start\n  (())  :1\n"
      ∧ text.toList = lastLine.preorder.flatMap (fun p =>
          List.replicate (p.1 * 2) ' ' ++ p.2.label.toList ++ ' ' :: p.2.name.toList
            ++ TextStyle.shownDetail ⟨2, true, true⟩ p.2 ++ TextStyle.shownLine ⟨2, true, true⟩ p.2
            ++ ['\n']) := by
  have h : lastLine.render ⟨2, true, true⟩
      = .ok "Class Server  :4294967296\n  Method start\n  (())  :1\n" :=
    render_of_toOption (by decide +kernel)
  exact ⟨_, h, rfl, ((render_lists_preorder _ lastLine).2 _ h).1⟩

end Outline

end SymbolOutline
