import Mathlib.Algebra.Group.Nat.Defs
import SymbolOutline.Proofs.Outline.Text

/-!
# How deep the entries of an outline are

The depths in `Outline.preorder` go from zero to the number of levels less one,
and an entry below another comes after one that is a single level higher
(`Entry.depth_of_preorderAll`). So an outline cannot be written just where its
last level is indented too far (`Outline.render_fails_iff_levels`), and as
depths grow by steps of one, the indent is found too wide for a line before it
can be too wide for a word (`Outline.eq_tooWide_of_render`).
-/

namespace SymbolOutline

/-- The error of mapping a list is that of the first member that cannot be mapped. -/
theorem first_error_mapM {α β ε : Type} {f : α → Except ε β} {l : List α} {e : ε}
    (h : l.mapM f = .error e) : ∃ before a after, l = before ++ a :: after
      ∧ (∀ b ∈ before, ∃ c, f b = .ok c) ∧ f a = .error e := by
  induction l with
  | nil => cases h
  | cons a rest ih =>
    rw [List.mapM_cons] at h
    cases ha : f a with
    | error e' =>
      rw [ha] at h
      obtain rfl : e' = e := Except.error.inj h
      exact ⟨[], a, rest, rfl, fun b hb => absurd hb List.not_mem_nil, ha⟩
    | ok c =>
      cases hrest : rest.mapM f with
      | ok cs =>
        rw [ha, hrest] at h
        cases h
      | error e' =>
        rw [ha, hrest] at h
        obtain rfl : e' = e := Except.error.inj h
        obtain ⟨before, b, after, rfl, hbefore, hb⟩ := ih hrest
        exact ⟨a :: before, b, after, rfl, List.forall_mem_cons.mpr ⟨⟨c, ha⟩, hbefore⟩, hb⟩

namespace Entry

variable {depth : Nat} {entries : List Entry} {p : Nat × Entry}

theorem depth_lt_of_mem (h : p ∈ preorderAll depth entries) :
    p.1 < depth + levelsAll entries := by
  induction entries using forest_induction generalizing depth with
  | nil => cases h
  | cons e rest ihc ihr =>
    rw [levelsAll, levels_eq]
    rw [preorderAll_cons] at h
    rcases List.mem_cons.mp h with rfl | h
    · show depth < _
      omega
    · rcases List.mem_append.mp h with h | h
      · have := ihc h
        omega
      · have := ihr h
        omega

/-- On the last level there is an entry. -/
theorem exists_deepest (h : entries ≠ []) :
    ∃ p ∈ preorderAll depth entries, p.1 + 1 = depth + levelsAll entries := by
  induction entries using forest_induction generalizing depth with
  | nil => exact absurd rfl h
  | cons e rest ihc ihr =>
    rw [preorderAll_cons, levelsAll, levels_eq]
    by_cases hrest : 1 + levelsAll e.children ≤ levelsAll rest
    · have hne : rest ≠ [] := by
        rintro rfl
        exact absurd (show 1 + levelsAll e.children ≤ 0 from hrest) (by omega)
      obtain ⟨p, hp, hdepth⟩ : ∃ p ∈ preorderAll depth rest, p.1 + 1 = depth + levelsAll rest :=
        ihr hne
      exact ⟨p, List.mem_cons_of_mem _ (List.mem_append_right _ hp), by omega⟩
    · by_cases hne : e.children = []
      · refine ⟨(depth, e), List.mem_cons_self, ?_⟩
        rw [hne, levelsAll] at hrest ⊢
        show depth + 1 = _
        omega
      · obtain ⟨p, hp, hdepth⟩ : ∃ p ∈ preorderAll (depth + 1) e.children,
            p.1 + 1 = depth + 1 + levelsAll e.children := ihc hne
        exact ⟨p, List.mem_cons_of_mem _ (List.mem_append_left _ hp), by omega⟩

/-- Before an entry that is not on the first level stands one a level higher. -/
theorem depth_of_preorderAll {before after : List (Nat × Entry)}
    (h : preorderAll depth entries = before ++ p :: after) :
    p.1 = depth ∨ ∃ q ∈ before, p.1 = q.1 + 1 := by
  induction entries using forest_induction generalizing depth before after with
  | nil => simp [preorderAll] at h
  | cons e rest ihc ihr =>
    rw [preorderAll_cons] at h
    cases before with
    | nil =>
      obtain ⟨rfl, -⟩ := List.cons.inj h
      exact .inl rfl
    | cons q before =>
      obtain ⟨rfl, hbelow⟩ := List.cons.inj h
      rcases List.append_eq_append_iff.mp hbelow with ⟨first, rfl, hrest⟩ | ⟨last, hchildren, hlast⟩
      · -- the entry is one of the later siblings or stands below one of them
        rcases ihr hrest with hp | ⟨q, hq, hp⟩
        · exact .inl hp
        · exact .inr ⟨q, List.mem_cons_of_mem _ (List.mem_append_right _ hq), hp⟩
      · cases last with
        | nil =>
          rw [List.append_nil] at hchildren
          have hrest : preorderAll depth rest = [] ++ p :: after := hlast.symm
          rcases ihr hrest with hp | ⟨q, hq, -⟩
          · exact .inl hp
          · cases hq
        | cons p' last =>
          obtain ⟨rfl, -⟩ := List.cons.inj hlast
          rcases ihc hchildren with hp | ⟨q, hq, hp⟩
          · exact .inr ⟨(depth, e), List.mem_cons_self, hp⟩
          · exact .inr ⟨q, List.mem_cons_of_mem _ hq, hp⟩

end Entry

namespace Outline

variable {style : TextStyle} {outline : Outline}

/-- The text cannot be written just where the last level is indented too far. -/
theorem render_fails_iff_levels :
    (∃ e, outline.render style = .error e)
      ↔ ¬outline.isEmpty ∧ TextStyle.maxWidth < (outline.levels - 1) * style.indent := by
  rw [render_fails_iff]
  constructor
  · rintro ⟨p, hp, hwide⟩
    have hlt : p.1 < 0 + outline.levels := Entry.depth_lt_of_mem hp
    refine ⟨?_, Nat.lt_of_lt_of_le hwide (Nat.mul_le_mul_right style.indent (by omega))⟩
    intro hempty
    rw [preorder, List.isEmpty_iff.mp hempty] at hp
    cases hp
  · rintro ⟨hne, hwide⟩
    obtain ⟨p, hp, hdepth⟩ : ∃ p ∈ outline.preorder, p.1 + 1 = 0 + outline.levels :=
      Entry.exists_deepest fun hnil => hne (List.isEmpty_iff.mpr hnil)
    have hlast : outline.levels - 1 = p.1 := by omega
    exact ⟨p, hp, hlast ▸ hwide⟩

/-- As long as no line was too wide, the next indent is far from filling a word. -/
theorem width_lt_word (hword : style.indent < 2 ^ 64) {before after : List (Nat × Entry)}
    {p : Nat × Entry} (h : outline.preorder = before ++ p :: after)
    (hbefore : ∀ q ∈ before, q.1 * style.indent ≤ TextStyle.maxWidth) :
    p.1 * style.indent < 2 ^ 64 := by
  have hmax : TextStyle.maxWidth = 65535 := rfl
  rcases Entry.depth_of_preorderAll h with htop | ⟨q, hq, hbelow⟩
  · rw [htop, Nat.zero_mul]
    omega
  · have hparent := hbefore q hq
    rw [hbelow, Nat.succ_mul]
    rcases Nat.eq_zero_or_pos q.1 with hzero | hpos
    · rw [hzero, Nat.zero_mul]
      omega
    · -- a parent that is indented bounds the indent of one level
      have hindent : 1 * style.indent ≤ q.1 * style.indent := Nat.mul_le_mul_right _ hpos
      omega

/-- The first indent that fails fits a word, and is too wide for a line. -/
theorem eq_tooWide_of_render (hword : style.indent < 2 ^ 64) {e : IndentError}
    (h : outline.render style = .error e) : e = .tooWide := by
  have hlines : outline.preorder.mapM style.indentedLine = .error e := by
    rw [render_eq] at h
    cases hlines : outline.preorder.mapM style.indentedLine with
    | error e' => rw [hlines] at h; rw [Except.error.inj h]
    | ok lines => rw [hlines] at h; cases h
  obtain ⟨before, p, after, hsplit, hbefore, hp⟩ := first_error_mapM hlines
  have hwide : TextStyle.maxWidth < p.1 * style.indent :=
    TextStyle.indentedLine_fails_iff.mp ⟨e, hp⟩
  have hfits : p.1 * style.indent < 2 ^ 64 := by
    refine width_lt_word hword hsplit fun q hq => Nat.le_of_not_lt fun hq' => ?_
    obtain ⟨line, hline⟩ := hbefore q hq
    obtain ⟨e', he'⟩ := TextStyle.indentedLine_fails_iff.mpr hq'
    rw [hline] at he'
    cases he'
  have hwidth : style.indentWidth p.1 = .error .tooWide := by
    have hnot : ¬Nat.pow 2 64 ≤ p.1 * style.indent := Nat.not_le_of_lt hfits
    unfold TextStyle.indentWidth
    rw [if_neg hnot, if_pos hwide]
  rw [TextStyle.indentedLine, hwidth] at hp
  exact (Except.error.inj hp).symm

end Outline

end SymbolOutline
