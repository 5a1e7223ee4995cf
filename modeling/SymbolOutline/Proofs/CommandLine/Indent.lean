import Mathlib.Algebra.Group.Nat.Defs
import SymbolOutline.Proofs.CommandLine.Run
import SymbolOutline.Proofs.Outline.Depths
import SymbolOutline.Proofs.Outline.Lines
import SymbolOutline.Proofs.Outline.Truncated

/-!
# Indents that are too wide

The outline command crashes only where it writes text, and only at an indent
(`crashed_of_outlineOutput`). An outline of accepted input has at most
`Response.maxLevels` levels, so an indent of up to 1074 per level always fits, and
any indent does if no more than one level is shown (`indent_fits_of_narrow`).
-/

namespace SymbolOutline.CommandLine

section

variable {around : Surroundings} {input : String} {symbols : List Symbol} {settings : Settings}

/-- A response on standard input is accepted if it is not too deep. -/
theorem accepts_responseText (hstdin : isStdin input = true)
    (hbytes : around.stdin = (String.ofList (Symbol.responseText symbols)).toUTF8)
    (hlevels : Symbol.levelsAll symbols ≤ Response.maxLevels) : Accepts around input symbols := by
  refine ⟨Symbol.responseText symbols, ?_, Response.parse_responseText_of_le hlevels⟩
  rw [readInput, if_pos hstdin, hbytes, decodeText_toUTF8, String.toList_ofList]
  rfl

theorem crashed_of_outlineOutput {format : Format} {log : Log} {e : IndentError}
    (h : (outlineOutput around input format settings log).1 = .error (.crashed e)) :
    format = .text ∧ ∃ symbols, Accepts around input symbols
      ∧ (Outline.build settings.outline log symbols).1.render settings.render = .error e := by
  rcases accepts_or_inputFails around input with ⟨symbols, haccepts⟩ | hfails
  · rw [fst_outlineOutput haccepts format settings log log] at h
    cases format with
    | json => cases h
    | text =>
      refine ⟨rfl, symbols, haccepts, ?_⟩
      cases hrender : (Outline.build settings.outline log symbols).1.render settings.render with
      | ok text =>
        simp only [hrender] at h
        cases h
      | error e' =>
        simp only [hrender] at h
        cases h
        rfl
  · obtain ⟨failure, hfailure⟩ := outlineOutput_of_inputFails hfails format settings log
    rw [hfailure] at h
    cases h

/-- Each level is indented by little, or only the top one is shown. -/
def Narrow (settings : Settings) : Prop :=
  settings.render.indent ≤ 1074 ∨ ∃ limit ∈ settings.outline.maxDepth, limit ≤ 1

theorem indent_fits_of_narrow (haccepts : Accepts around input symbols) (h : Narrow settings)
    (log : Log) :
    ((Outline.build settings.outline log symbols).1.levels - 1) * settings.render.indent
      ≤ TextStyle.maxWidth := by
  have hmax : TextStyle.maxWidth = 65535 := rfl
  rcases h with hindent | ⟨limit, hlimit, hone⟩
  · have hlevels : Symbol.levelsAll symbols ≤ 62 := levelsAll_of_accepts haccepts
    have hbuilt := Outline.levels_build_le settings.outline log symbols
    have hwidth : ((Outline.build settings.outline log symbols).1.levels - 1)
        * settings.render.indent ≤ 61 * 1074 := Nat.mul_le_mul (by omega) hindent
    omega
  · have hbuilt := Outline.levels_build_le_cap hlimit log symbols
    have htop : (Outline.build settings.outline log symbols).1.levels - 1 = 0 := by omega
    rw [htop, Nat.zero_mul]
    exact Nat.zero_le _

theorem not_crashed_of_narrow (h : Narrow settings) (log : Log) (e : IndentError) :
    (outlineOutput around input .text settings log).1 ≠ .error (.crashed e) := by
  intro hcrashed
  obtain ⟨-, symbols, haccepts, hrender⟩ := crashed_of_outlineOutput hcrashed
  have hfits := indent_fits_of_narrow haccepts h log
  obtain ⟨-, hwide⟩ := Outline.render_fails_iff_levels.mp ⟨e, hrender⟩
  omega

end

/-- With an indent of 64 bits per level, an outline cannot be written just where
its last level is indented by more than 65535. What fails is then the width of a
line: the product of depth and indent is taken for an entry only if all entries
before it could be written, and so it fits 64 bits. An accepted input is always
written as text where each level is indented by no more than 1074 or only one
level is shown, and no input at all makes the command crash on JSON. -/
theorem indent_fails_by_width {style : TextStyle} (hword : style.indent < 2 ^ 64)
    (outline : Outline) :
    ((∃ e, outline.render style = .error e)
        ↔ ¬outline.isEmpty ∧ 65535 < (outline.levels - 1) * style.indent)
      ∧ (∀ e, outline.render style = .error e → e = .tooWide)
      ∧ (∀ before p after, outline.preorder = before ++ p :: after →
          (∀ q ∈ before, ∃ text, style.indentedLine q = .ok text) → p.1 * style.indent < 2 ^ 64)
      ∧ (∀ around input settings log,
          settings.render.indent ≤ 1074 ∨ (∃ limit ∈ settings.outline.maxDepth, limit ≤ 1) →
            (∀ e, (outlineOutput around input .text settings log).1 ≠ .error (.crashed e))
            ∧ ∀ symbols, Accepts around input symbols →
              ∃ text, (outlineOutput around input .text settings log).1 = .ok text)
      ∧ ∀ around input settings log e,
          (outlineOutput around input .json settings log).1 ≠ .error (.crashed e) := by
  refine ⟨Outline.render_fails_iff_levels, fun e => Outline.eq_tooWide_of_render hword, ?_, ?_, ?_⟩
  · intro before p after hsplit hbefore
    refine Outline.width_lt_word hword hsplit fun q hq => Nat.le_of_not_lt fun hwide => ?_
    obtain ⟨text, htext⟩ := hbefore q hq
    obtain ⟨e, he⟩ := TextStyle.indentedLine_fails_iff.mpr hwide
    rw [htext] at he
    cases he
  · intro around input settings log hnarrow
    refine ⟨not_crashed_of_narrow hnarrow log, ?_⟩
    intro symbols haccepts
    have hfits := indent_fits_of_narrow haccepts hnarrow log
    rw [fst_outlineOutput haccepts .text settings log log]
    cases hrender : (Outline.build settings.outline log symbols).1.render settings.render with
    | ok text => exact ⟨text, rfl⟩
    | error e =>
      obtain ⟨-, hwide⟩ := Outline.render_fails_iff_levels.mp ⟨e, hrender⟩
      omega
  · intro around input settings log e hcrashed
    cases (crashed_of_outlineOutput hcrashed).1

/-- At the greatest indent a second level cannot be written; a class on standard
input is written with the greatest indent that always fits. -/
theorem indent_fails_at_greatest :
    (∃ e, Outline.lastLine.render { indent := 2 ^ 64 - 1 } = .error e)
      ∧ (∀ e, Outline.lastLine.render { indent := 2 ^ 64 - 1 } = .error e → e = .tooWide)
      ∧ ∃ text, (outlineOutput
          ⟨fun _ => none, (String.ofList (Symbol.responseText [.server])).toUTF8⟩ "-" .text
          { render := { indent := 1074 } } #[]).1 = .ok text := by
  have hword : ({ indent := 2 ^ 64 - 1 } : TextStyle).indent < 2 ^ 64 := by decide
  obtain ⟨hfails, hwidth, -, hnarrow, -⟩ := indent_fails_by_width hword Outline.lastLine
  refine ⟨hfails.mpr (by decide), hwidth, ?_⟩
  obtain ⟨-, hwritten⟩ := hnarrow
    ⟨fun _ => none, (String.ofList (Symbol.responseText [.server])).toUTF8⟩ "-"
    { render := { indent := 1074 } } #[] (.inl (by decide))
  exact hwritten [.server] (accepts_responseText (by decide) rfl (by decide))

end SymbolOutline.CommandLine
