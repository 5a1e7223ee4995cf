import SymbolOutline.CommandLine.Run
import SymbolOutline.Proofs.CommandLine.Formats
import SymbolOutline.Proofs.CommandLine.Requests
import SymbolOutline.Proofs.Outline.Text
import SymbolOutline.Proofs.Response.Nested
import SymbolOutline.Proofs.Settings.Load

/-!
# How a run ends

A request for an outline ends in one of four ways (`OutlineRequest.run_cases`):
its settings cannot be loaded, its input gives no symbols, its text cannot be
indented, or its output is printed. The first of these that applies decides, so
the exit code and what is printed are known from the settings and the input
(`outline_run_ends`). The settings that count are those loaded, with the order and
the depth that the request asks for (`OutlineRequest.override_eq`).
-/

namespace SymbolOutline.CommandLine

/-! ## The input -/

/-- The bytes of the input: those of a file, or standard input. -/
def inputBytes? (around : Surroundings) (input : String) : Option ByteArray :=
  if isStdin input then some around.stdin
  else
    match around.files input with
    | some (.file bytes) => some bytes
    | some .directory | some (.unreadable _) | none => none

/-- Why there are no symbols to show. -/
inductive InputFails (around : Surroundings) (input : String) : Prop where
  | missing (hfile : isStdin input = false) (h : around.files input = none)
  | directory (hfile : isStdin input = false) (h : around.files input = some .directory)
  | unreadable (hfile : isStdin input = false) {reason : String}
      (h : around.files input = some (.unreadable reason))
  | notText {bytes : ByteArray} (h : inputBytes? around input = some bytes)
      (htext : String.fromUTF8? bytes = none)
  | rejected {bytes : ByteArray} {text : String} {e : ResponseError}
      (h : inputBytes? around input = some bytes) (htext : String.fromUTF8? bytes = some text)
      (hparse : Response.parse text.toList = .error e)

section

variable {around : Surroundings} {input : String}

theorem readInput_of_bytes {bytes : ByteArray} (h : inputBytes? around input = some bytes) :
    ∃ wrap : FileError → Failure, readInput around input = (decodeText bytes).mapError wrap := by
  unfold inputBytes? at h
  unfold readInput
  by_cases hstdin : isStdin input = true
  · rw [if_pos hstdin] at h ⊢
    obtain rfl := Option.some.inj h
    exact ⟨_, rfl⟩
  · rw [if_neg hstdin] at h ⊢
    cases hstored : around.files input with
    | none => rw [hstored] at h; cases h
    | some stored =>
      rw [hstored] at h
      cases stored with
      | directory | unreadable => cases h
      | file found =>
        obtain rfl : found = bytes := Option.some.inj h
        exact ⟨_, rfl⟩

theorem readInput_of_text {bytes : ByteArray} {text : String}
    (h : inputBytes? around input = some bytes) (htext : String.fromUTF8? bytes = some text) :
    readInput around input = .ok text.toList := by
  obtain ⟨wrap, hread⟩ := readInput_of_bytes h
  rw [hread, decodeText, htext]
  rfl

/-- The symbols of an input come from a text in UTF-8 that is a response. -/
theorem accepts_of_text {bytes : ByteArray} {text : String} {symbols : List Symbol}
    (h : inputBytes? around input = some bytes) (htext : String.fromUTF8? bytes = some text)
    (hparse : Response.parse text.toList = .ok symbols) : Accepts around input symbols :=
  ⟨text.toList, readInput_of_text h htext, hparse⟩

theorem accepts_or_inputFails (around : Surroundings) (input : String) :
    (∃ symbols, Accepts around input symbols) ∨ InputFails around input := by
  cases hbytes : inputBytes? around input with
  | none =>
    right
    unfold inputBytes? at hbytes
    by_cases hstdin : isStdin input = true
    · rw [if_pos hstdin] at hbytes
      cases hbytes
    · rw [if_neg hstdin] at hbytes
      have hfile : isStdin input = false := Bool.eq_false_iff.mpr hstdin
      cases hstored : around.files input with
      | none => exact .missing hfile hstored
      | some stored =>
        cases stored with
        | directory => exact .directory hfile hstored
        | unreadable reason => exact .unreadable hfile hstored
        | file bytes => rw [hstored] at hbytes; cases hbytes
  | some bytes =>
    cases htext : String.fromUTF8? bytes with
    | none => exact .inr (.notText hbytes htext)
    | some text =>
      cases hparse : Response.parse text.toList with
      | error e => exact .inr (.rejected hbytes htext hparse)
      | ok symbols => exact .inl ⟨symbols, accepts_of_text hbytes htext hparse⟩

theorem readInput_of_inputFails (h : InputFails around input) :
    (∃ failure, readInput around input = .error failure)
      ∨ ∃ text e, readInput around input = .ok text ∧ Response.parse text = .error e := by
  cases h with
  | missing hfile h =>
    left
    rw [readInput, hfile, h]
    exact ⟨_, rfl⟩
  | directory hfile h | unreadable hfile h =>
    left
    rw [readInput, hfile, h]
    exact ⟨_, rfl⟩
  | notText h htext =>
    left
    obtain ⟨wrap, hread⟩ := readInput_of_bytes h
    rw [hread, decodeText, htext]
    exact ⟨_, rfl⟩
  | rejected h htext hparse => exact .inr ⟨_, _, readInput_of_text h htext, hparse⟩

theorem outlineOutput_of_inputFails (h : InputFails around input) (format : Format)
    (settings : Settings) (log : Log) :
    ∃ failure, (outlineOutput around input format settings log).1 = .error (.failed failure) := by
  unfold outlineOutput
  rcases readInput_of_inputFails h with ⟨failure, hread⟩ | ⟨text, e, hread, hparse⟩
  · rw [hread]
    exact ⟨failure, rfl⟩
  · rw [hread]
    simp only [hparse]
    exact ⟨_, rfl⟩

end

/-! ## The output -/

/-- The outline is to be written as text, and would have an entry indented too far. -/
def TooWide (format : Format) (settings : Settings) (symbols : List Symbol) : Prop :=
  format = .text
    ∧ ∃ p ∈ (Outline.build settings.outline #[] symbols).1.preorder,
        65535 < p.1 * settings.render.indent

section

variable {around : Surroundings} {input : String} {format : Format} {settings : Settings}
  {symbols : List Symbol}

theorem outlineOutput_of_tooWide (h : Accepts around input symbols)
    (hwide : TooWide format settings symbols) (log : Log) :
    ∃ e, (outlineOutput around input format settings log).1 = .error (.crashed e) := by
  obtain ⟨rfl, hdeep⟩ := hwide
  obtain ⟨e, he⟩ := Outline.render_fails_iff.mpr hdeep
  refine ⟨e, ?_⟩
  rw [fst_outlineOutput h .text settings log #[], he]
  rfl

theorem outlineOutput_of_not_tooWide (h : Accepts around input symbols)
    (hwide : ¬TooWide format settings symbols) (log : Log) :
    ∃ text, (outlineOutput around input format settings log).1 = .ok text := by
  rw [fst_outlineOutput h format settings log #[]]
  cases format with
  | json => exact ⟨_, rfl⟩
  | text =>
    cases hrender : (Outline.build settings.outline #[] symbols).1.render settings.render with
    | ok text => exact ⟨text, rfl⟩
    | error e => exact absurd ⟨rfl, Outline.render_fails_iff.mp ⟨e, hrender⟩⟩ hwide

end

/-! ## The outcome -/

namespace Outcome

/-- How a run ends with what the outline command gives. -/
def ofOutput : Except CommandError String → Outcome
  | .ok text => .printed text
  | .error (.failed failure) => .failed failure
  | .error (.crashed e) => .crashed e

theorem stdout_of_exitCode_ne {outcome : Outcome} (h : outcome.exitCode ≠ 0) :
    outcome.stdout = "" := by
  cases outcome with
  | printed text => exact absurd rfl h
  | failed failure => rfl
  | misused e => rfl
  | crashed e => rfl

end Outcome

namespace OutlineRequest

variable {around : Surroundings} {request : OutlineRequest} {log : Log}

/-- A request can keep siblings from being sorted, and its limit goes before the cap
of the settings. -/
theorem override_eq (request : OutlineRequest) (settings : Settings) :
    request.override settings
      = { outline :=
            { sort := settings.outline.sort && !request.noSort
              maxDepth := request.maxDepth.or settings.outline.maxDepth }
          render := settings.render } := rfl

theorem fst_run_of_error {e : LoadError}
    (h : (loadSettings around.files log request.config).1 = .error e) :
    (request.run around log).1 = .failed (.settings request.config e) := by
  obtain ⟨log', hload⟩ : ∃ log', loadSettings around.files log request.config = (.error e, log') :=
    ⟨_, Prod.ext h rfl⟩
  rw [run, hload]

theorem fst_run_of_ok {settings : Settings}
    (h : (loadSettings around.files log request.config).1 = .ok settings) :
    (request.run around log).1
      = .ofOutput (outlineOutput around request.input request.format (request.override settings)
          (loadSettings around.files log request.config).2).1 := by
  obtain ⟨log', hload⟩ :
      ∃ log', loadSettings around.files log request.config = (.ok settings, log') :=
    ⟨_, Prod.ext h rfl⟩
  rw [run, hload]
  simp only
  rcases outlineOutput around request.input request.format (request.override settings) log'
    with ⟨(failure | e) | text, log''⟩ <;> rfl

theorem fst_run_of_inputFails {settings : Settings}
    (h : (loadSettings around.files log request.config).1 = .ok settings)
    (hfails : InputFails around request.input) :
    ∃ failure, (request.run around log).1 = .failed failure := by
  obtain ⟨failure, hfailure⟩ := outlineOutput_of_inputFails hfails request.format
    (request.override settings) (loadSettings around.files log request.config).2
  exact ⟨failure, by rw [fst_run_of_ok h, hfailure, Outcome.ofOutput]⟩

theorem fst_run_of_tooWide {settings : Settings} {symbols : List Symbol}
    (h : (loadSettings around.files log request.config).1 = .ok settings)
    (haccepts : Accepts around request.input symbols)
    (hwide : TooWide request.format (request.override settings) symbols) :
    ∃ e, (request.run around log).1 = .crashed e := by
  obtain ⟨e, he⟩ := outlineOutput_of_tooWide haccepts hwide
    (loadSettings around.files log request.config).2
  exact ⟨e, by rw [fst_run_of_ok h, he, Outcome.ofOutput]⟩

theorem fst_run_of_not_tooWide {settings : Settings} {symbols : List Symbol}
    (h : (loadSettings around.files log request.config).1 = .ok settings)
    (haccepts : Accepts around request.input symbols)
    (hwide : ¬TooWide request.format (request.override settings) symbols) :
    ∃ text, (request.run around log).1 = .printed text
      ∧ (outlineOutput around request.input request.format (request.override settings)
          (loadSettings around.files log request.config).2).1 = .ok text := by
  obtain ⟨text, htext⟩ := outlineOutput_of_not_tooWide haccepts hwide
    (loadSettings around.files log request.config).2
  exact ⟨text, by rw [fst_run_of_ok h, htext, Outcome.ofOutput], htext⟩

/-- The four ways in which a request ends. -/
theorem run_cases (around : Surroundings) (request : OutlineRequest) (log : Log) :
    (∃ e, (loadSettings around.files log request.config).1 = .error e
      ∧ (request.run around log).1 = .failed (.settings request.config e))
    ∨ (InputFails around request.input ∧ ∃ failure, (request.run around log).1 = .failed failure)
    ∨ (∃ settings symbols, (loadSettings around.files log request.config).1 = .ok settings
      ∧ Accepts around request.input symbols
      ∧ TooWide request.format (request.override settings) symbols
      ∧ ∃ e, (request.run around log).1 = .crashed e)
    ∨ ∃ settings text, (loadSettings around.files log request.config).1 = .ok settings
      ∧ (outlineOutput around request.input request.format (request.override settings)
          (loadSettings around.files log request.config).2).1 = .ok text
      ∧ (request.run around log).1 = .printed text := by
  cases hload : (loadSettings around.files log request.config).1 with
  | error e => exact .inl ⟨e, rfl, fst_run_of_error hload⟩
  | ok settings =>
    right
    rcases accepts_or_inputFails around request.input with ⟨symbols, haccepts⟩ | hfails
    · right
      by_cases hwide : TooWide request.format (request.override settings) symbols
      · exact .inl ⟨settings, symbols, rfl, haccepts, hwide,
          fst_run_of_tooWide hload haccepts hwide⟩
      · obtain ⟨text, hprinted, htext⟩ := fst_run_of_not_tooWide hload haccepts hwide
        exact .inr ⟨settings, text, rfl, htext, hprinted⟩
    · exact .inl ⟨hfails, fst_run_of_inputFails hload hfails⟩

theorem exitCode_eq_one_iff :
    (request.run around log).1.exitCode = 1
      ↔ (∃ e, (loadSettings around.files log request.config).1 = .error e)
        ∨ InputFails around request.input := by
  constructor
  · intro hcode
    rcases run_cases around request log with
      ⟨e, hload, -⟩ | ⟨hfails, -⟩ | ⟨-, -, -, -, -, e, hrun⟩ | ⟨-, text, -, -, hrun⟩
    · exact .inl ⟨e, hload⟩
    · exact .inr hfails
    · rw [hrun] at hcode
      cases hcode
    · rw [hrun] at hcode
      cases hcode
  · intro hbad
    cases hload : (loadSettings around.files log request.config).1 with
    | error e => rw [fst_run_of_error hload, Outcome.exitCode]
    | ok settings =>
      rcases hbad with ⟨e, he⟩ | hfails
      · rw [hload] at he
        cases he
      · obtain ⟨failure, hrun⟩ := fst_run_of_inputFails hload hfails
        rw [hrun, Outcome.exitCode]

theorem exitCode_eq_crashed_iff :
    (request.run around log).1.exitCode = 101
      ↔ ∃ settings symbols, (loadSettings around.files log request.config).1 = .ok settings
        ∧ Accepts around request.input symbols
        ∧ TooWide request.format (request.override settings) symbols := by
  constructor
  · intro hcode
    rcases run_cases around request log with
      ⟨e, -, hrun⟩ | ⟨-, failure, hrun⟩ | ⟨settings, symbols, hload, haccepts, hwide, -⟩
        | ⟨-, text, -, -, hrun⟩
    · rw [hrun] at hcode
      cases hcode
    · rw [hrun] at hcode
      cases hcode
    · exact ⟨settings, symbols, hload, haccepts, hwide⟩
    · rw [hrun] at hcode
      cases hcode
  · rintro ⟨settings, symbols, hload, haccepts, hwide⟩
    obtain ⟨e, hrun⟩ := fst_run_of_tooWide hload haccepts hwide
    rw [hrun, Outcome.exitCode]

theorem output_of_exitCode_zero (h : (request.run around log).1.exitCode = 0) :
    ∃ settings, (loadSettings around.files log request.config).1 = .ok settings
      ∧ (outlineOutput around request.input request.format (request.override settings)
          (loadSettings around.files log request.config).2).1
        = .ok (request.run around log).1.stdout := by
  rcases run_cases around request log with
    ⟨e, -, hrun⟩ | ⟨-, failure, hrun⟩ | ⟨-, -, -, -, -, e, hrun⟩
      | ⟨settings, text, hload, htext, hrun⟩
  · rw [hrun] at h
    cases h
  · rw [hrun] at h
    cases h
  · rw [hrun] at h
    cases h
  · exact ⟨settings, hload, by rw [hrun, htext, Outcome.stdout]⟩

theorem exitCode_cases (around : Surroundings) (request : OutlineRequest) (log : Log) :
    (request.run around log).1.exitCode = 0 ∨ (request.run around log).1.exitCode = 1
      ∨ (request.run around log).1.exitCode = 101 := by
  rcases run_cases around request log with
    ⟨e, -, hrun⟩ | ⟨-, failure, hrun⟩ | ⟨-, -, -, -, -, e, hrun⟩ | ⟨-, text, -, -, hrun⟩
  · rw [hrun]
    exact .inr (.inl rfl)
  · rw [hrun]
    exact .inr (.inl rfl)
  · rw [hrun]
    exact .inr (.inr rfl)
  · rw [hrun]
    exact .inl rfl

end OutlineRequest

theorem loadSettings_of_rejected {files : Files} {path : String} {bytes : ByteArray}
    {text : String} {e : Settings.TomlError} (h : files path = some (.file bytes))
    (htext : String.fromUTF8? bytes = some text)
    (hrejected : Settings.ofToml text.toList = .error e) (log : Log) :
    (loadSettings files log (some path)).1 = .error (.rejected path text.toList e) := by
  have hstored : (Stored.file bytes).text = .ok text.toList := by
    rw [Stored.text, decodeText, htext]
  rw [loadSettings, Settings.load_of_rejected h hstored hrejected]

/-- A report on settings starts with where they should come from. -/
theorem report_of_settings (config : Option String) (e : LoadError) :
    ∃ behind, (Failure.settings config e).report
      = "Error: " ++ config.elim "Failed to load config from current directory"
          ("Failed to load config: " ++ ·) ++ "\n\nCaused by:\n" ++ behind := by
  cases config <;> cases e <;> exact ⟨_, rfl⟩

theorem fst_run_of_request {arguments : List String} {request : OutlineRequest}
    (h : Request.ofArguments arguments = .ok (.outline request)) (around : Surroundings) :
    (run around arguments).1 = (request.run around #[]).1 := by
  rw [run, h]
  rfl

/-- The exit code of an outline request tells bad settings and bad input, an
outline that cannot be indented, and success. Only success prints, and it
prints just what the outline command gives under the settings of the named or the
found file, but for the order and the depth that the arguments ask for. The
settings are looked at first: if they cannot be loaded, that is reported whatever
the input is. A file without settings is an error if it was named, and never if it
was found. -/
theorem outline_run_ends {arguments : List String} {request : OutlineRequest}
    (h : Request.ofArguments arguments = .ok (.outline request)) (around : Surroundings) :
    let loaded := loadSettings around.files #[] request.config
    let effective : Settings → Settings := fun settings =>
      { outline :=
          { sort := settings.outline.sort && !request.noSort
            maxDepth := request.maxDepth.or settings.outline.maxDepth }
        render := settings.render }
    let outcome := (run around arguments).1
    (∃ rest, arguments = "outline" :: rest ∧ request.SaidBy (Token.ofArguments .outline rest))
      ∧ ((∀ path, request.config = some path → loaded = Settings.load around.files #[] path)
        ∧ (request.config = none → loaded.1 = (Settings.discover around.files #[] ".").1))
      ∧ (outcome.exitCode = 1 ↔ (∃ e, loaded.1 = .error e) ∨ InputFails around request.input)
      ∧ (outcome.exitCode = 101 ↔ ∃ settings symbols, loaded.1 = .ok settings
          ∧ Accepts around request.input symbols
          ∧ TooWide request.format (effective settings) symbols)
      ∧ (outcome.exitCode = 0 ∨ outcome.exitCode = 1 ∨ outcome.exitCode = 101)
      ∧ (outcome.exitCode ≠ 0 → outcome.stdout = "")
      ∧ (outcome.exitCode = 0 → ∃ settings, loaded.1 = .ok settings
          ∧ (outlineOutput around request.input request.format (effective settings) loaded.2).1
            = .ok outcome.stdout)
      ∧ (∀ e, loaded.1 = .error e → outcome = .failed (.settings request.config e)
          ∧ ∃ behind, outcome.stderr
            = "Error: " ++ request.config.elim "Failed to load config from current directory"
                ("Failed to load config: " ++ ·) ++ "\n\nCaused by:\n" ++ behind)
      ∧ (∀ path bytes text e, request.config = some path → around.files path = some (.file bytes) →
          String.fromUTF8? bytes = some text → Settings.ofToml text.toList = .error e →
            loaded.1 = .error (.rejected path text.toList e))
      ∧ (request.config = none → ∀ e, loaded.1 = .error e → ∃ inner, e = .unreadable inner) := by
  simp only [fst_run_of_request h, ← OutlineRequest.override_eq]
  refine ⟨saidBy_of_ofArguments h, ⟨?_, ?_⟩, OutlineRequest.exitCode_eq_one_iff,
    OutlineRequest.exitCode_eq_crashed_iff, OutlineRequest.exitCode_cases around request #[],
    Outcome.stdout_of_exitCode_ne, OutlineRequest.output_of_exitCode_zero, ?_, ?_, ?_⟩
  · intro path hconfig
    rw [hconfig, loadSettings]
  · intro hconfig
    rw [hconfig, fst_loadSettings_none]
  · intro e hload
    have hrun := OutlineRequest.fst_run_of_error hload
    refine ⟨hrun, ?_⟩
    rw [hrun, Outcome.stderr]
    exact report_of_settings request.config e
  · intro path bytes text e hconfig hfile htext hrejected
    rw [hconfig]
    exact loadSettings_of_rejected hfile htext hrejected #[]
  · intro hconfig e hload
    rw [hconfig, fst_loadSettings_none] at hload
    exact Settings.discover_error hload

/-- What a file in the working directory holds: a cap of one level and a wide indent. -/
def wideSettings : String := "[outline]\nmax_depth = 1\n[render]\nindent = 70000\n"

/-- There is that file, and standard input has a class with a method. -/
def wideSurroundings : Surroundings where
  files path := if path = "./.symtidy.toml" then some (.file wideSettings.toUTF8) else none
  stdin := (String.ofList (Symbol.responseText [.server])).toUTF8

/-- The method is below the cap of the file, but not of the limit asked for. -/
theorem outline_run_of_wide :
    Request.ofArguments ["outline", "-", "--no-sort", "--max-depth", "2"]
        = .ok (.outline { input := "-", noSort := true, maxDepth := some 2 })
      ∧ (run wideSurroundings ["outline", "-", "--no-sort", "--max-depth", "2"]).1.exitCode = 101
      ∧ (run wideSurroundings ["outline", "-", "--no-sort", "--max-depth", "2"]).1.stdout = "" := by
  have hrequest : Request.ofArguments ["outline", "-", "--no-sort", "--max-depth", "2"]
      = .ok (.outline { input := "-", noSort := true, maxDepth := some 2 }) := rfl
  have hsettings : Settings.ofToml wideSettings.toList
      = .ok { outline := { maxDepth := some 1 }, render := { indent := 70000 } } := rfl
  have hloaded : (loadSettings wideSurroundings.files #[] none).1
      = .ok { outline := { maxDepth := some 1 }, render := { indent := 70000 } } := by
    have hfile : wideSurroundings.files "./.symtidy.toml"
        = some (.file wideSettings.toUTF8) := rfl
    have hbefore : ∀ p ∈ ["./symtidy.toml"], Settings.PassedOver wideSurroundings.files p := by
      intro p hp
      obtain rfl := List.mem_singleton.mp hp
      exact .inl rfl
    rw [fst_loadSettings_none]
    exact Settings.fst_loadFirst_of_settings hbefore hfile (Stored.text_toUTF8 wideSettings)
      hsettings [] #[]
  have haccepts : Accepts wideSurroundings "-" [.server] := by
    refine ⟨Symbol.responseText [.server], ?_, Response.parse_responseText_of_le (by decide)⟩
    show (decodeText (String.ofList _).toUTF8).mapError _ = _
    rw [decodeText_toUTF8, String.toList_ofList]
    rfl
  have hwide : TooWide .text ⟨⟨false, some 2⟩, { indent := 70000 }⟩ [.server] := by
    have hdepth : 1 ∈ (Outline.build ⟨false, some 2⟩ #[]
        [Symbol.server]).1.preorder.map Prod.fst := by decide +kernel
    obtain ⟨p, hp, hone⟩ := List.mem_map.mp hdepth
    refine ⟨rfl, p, hp, ?_⟩
    rw [hone]
    decide
  obtain ⟨-, -, -, hcrashed, -, hsilent, -⟩ := outline_run_ends hrequest wideSurroundings
  have hcode := hcrashed.mpr ⟨_, _, hloaded, haccepts, hwide⟩
  refine ⟨hrequest, hcode, hsilent ?_⟩
  rw [hcode]
  decide

end SymbolOutline.CommandLine
