import SymbolOutline.CommandLine.Outline
import SymbolOutline.Proofs.Outline.Json
import SymbolOutline.Proofs.Response.Levels

/-!
# The formats of an outline

Where the input is accepted, the outline command writes an outline, as text or
as JSON. The JSON is one that the reader of this library takes, brackets
counted, and holds the whole outline; so the text can be had from it
(`json_holds_outline`).
-/

namespace SymbolOutline.CommandLine

/-- The input is there and is a response with the given symbols. -/
def Accepts (around : Surroundings) (input : String) (symbols : List Symbol) : Prop :=
  ∃ text, readInput around input = .ok text ∧ Response.parse text = .ok symbols

section

variable {around : Surroundings} {input : String} {symbols : List Symbol}

theorem levelsAll_of_accepts (h : Accepts around input symbols) :
    Symbol.levelsAll symbols ≤ Response.maxLevels := by
  obtain ⟨text, -, hparse⟩ := h
  exact Response.levelsAll_le_of_parse hparse

/-- The outline that is written does not depend on what was logged before. -/
theorem fst_outlineOutput (h : Accepts around input symbols) (format : Format) (settings : Settings)
    (log log' : Log) :
    (outlineOutput around input format settings log).1
      = match format with
        | .json => .ok (Outline.build settings.outline log' symbols).1.jsonText
        | .text =>
          ((Outline.build settings.outline log' symbols).1.render settings.render).mapError
            .crashed := by
  obtain ⟨text, hread, hparse⟩ := h
  have hlog : ∀ log, (Outline.build settings.outline log symbols).1
      = (Outline.build settings.outline log' symbols).1 := by
    intro log
    rw [Outline.build_eq, Outline.build_eq]
  cases format with
  | json =>
    simp only [outlineOutput, hread, hparse, outlineText, hlog]
    rfl
  | text => simp only [outlineOutput, hread, hparse, outlineText, hlog]

/-- The outline of accepted input has room for its brackets. -/
theorem depth_toJson_of_accepts (h : Accepts around input symbols) (options : BuildOptions)
    (log : Log) : (Outline.build options log symbols).1.toJson.depth ≤ 127 := by
  have hlevels : Symbol.levelsAll symbols ≤ 62 := levelsAll_of_accepts h
  have hle := Outline.levels_build_le options log symbols
  rw [Outline.depth_toJson]
  omega

theorem read_jsonText_of_accepts (h : Accepts around input symbols) (options : BuildOptions)
    (log : Log) :
    Json.read (Outline.build options log symbols).1.jsonText.toList
      = .ok ((Outline.build options log symbols).1.toJson, ['\n']) := by
  have hdepth := depth_toJson_of_accepts h options log
  rw [Outline.depth_toJson] at hdepth
  exact Outline.read_jsonText hdepth

/-- The JSON of an accepted input is read with no more than 127 brackets open,
and stands for the outline that was built. So no other outline has the same
JSON, the style of the text has no part in it, and the text format writes the
outline that is read from it, or fails just where that cannot be written. -/
theorem json_holds_outline (h : Accepts around input symbols) (settings : Settings) (log : Log) :
    ∃ json value outline,
      (outlineOutput around input .json settings log).1 = .ok json
        ∧ (Json.read json.toList = .ok (value, ['\n']) ∧ Json.expectEnd ['\n'] = .ok ()
          ∧ value.depth ≤ 127)
        ∧ (Outline.ofJson? value = some outline
          ∧ outline = (Outline.build settings.outline log symbols).1)
        ∧ (∀ around' input' symbols' settings' log', Accepts around' input' symbols' →
            (outlineOutput around' input' .json settings' log').1 = .ok json →
              (Outline.build settings'.outline log' symbols').1 = outline)
        ∧ (∀ style,
            (outlineOutput around input .json { settings with render := style } log).1 = .ok json)
        ∧ (outlineOutput around input .text settings log).1
          = (outline.render settings.render).mapError .crashed := by
  have hread := read_jsonText_of_accepts h settings.outline log
  refine ⟨_, _, _, fst_outlineOutput h .json settings log log,
    ⟨hread, rfl, depth_toJson_of_accepts h settings.outline log⟩,
    ⟨Outline.ofJson?_toJson _, rfl⟩, ?_, ?_, fst_outlineOutput h .text settings log log⟩
  · intro around' input' symbols' settings' log' h' hjson
    rw [fst_outlineOutput h' .json settings' log' log'] at hjson
    have hread' := read_jsonText_of_accepts h' settings'.outline log'
    rw [Except.ok.inj hjson, hread] at hread'
    obtain ⟨hvalue, -⟩ := Prod.mk.inj (Except.ok.inj hread')
    -- equal values stand for equal outlines
    have houtline := Outline.ofJson?_toJson (Outline.build settings'.outline log' symbols').1
    rw [← hvalue, Outline.ofJson?_toJson] at houtline
    exact (Option.some.inj houtline).symm
  · intro style
    exact fst_outlineOutput h .json { settings with render := style } log log

end

/-- A name with a quote, a backslash, a newline and a letter beyond ASCII. -/
def quotedResponse : String :=
  "[\x7b\"name\":\"\\\"\\\\\\n\\u00e9\",\"kind\":5,\"range\":[[0,0],[1,0]],\"selectionRange\":[[0,0],[0,4]]\x7d]"

theorem json_holds_quoted_name :
    ∃ symbols, Accepts ⟨fun _ => none, quotedResponse.toUTF8⟩ "-" symbols
      ∧ symbols.map Symbol.name = ["\"\\\né"]
      ∧ ∃ json value,
        (outlineOutput ⟨fun _ => none, quotedResponse.toUTF8⟩ "-" .json {} #[]).1 = .ok json
          ∧ Json.read json.toList = .ok (value, ['\n'])
          ∧ Outline.ofJson? value = some (Outline.build {} #[] symbols).1 := by
  have hnames : (Response.parse quotedResponse.toList).toOption.map (·.map Symbol.name)
      = some ["\"\\\né"] := by decide +kernel
  obtain ⟨symbols, hparse, hnames⟩ := Option.map_eq_some_iff.mp hnames
  have hread : readInput ⟨fun _ => none, quotedResponse.toUTF8⟩ "-"
      = .ok quotedResponse.toList := by
    rw [readInput, if_pos (by decide), decodeText_toUTF8]
    rfl
  have h : Accepts ⟨fun _ => none, quotedResponse.toUTF8⟩ "-" symbols := by
    refine ⟨quotedResponse.toList, hread, ?_⟩
    cases hp : Response.parse quotedResponse.toList with
    | error e => rw [hp] at hparse; cases hparse
    | ok found =>
      rw [hp] at hparse
      rw [Option.some.inj hparse]
  obtain ⟨json, value, outline, hjson, ⟨hvalue, -, -⟩, ⟨houtline, heq⟩, -⟩ :=
    json_holds_outline h {} #[]
  exact ⟨symbols, h, hnames, json, value, hjson, hvalue, heq ▸ houtline⟩

end SymbolOutline.CommandLine
