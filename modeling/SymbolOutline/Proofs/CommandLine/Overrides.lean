import Mathlib.Algebra.Group.Nat.Defs
import SymbolOutline.Proofs.CommandLine.Run
import SymbolOutline.Proofs.CommandLine.Switches
import SymbolOutline.Proofs.Outline.Truncated
import SymbolOutline.Proofs.Settings.Toml

/-!
# Switches and settings agree

The switches for order and depth do what a settings file can say as well. A
run with them and a run without them, under a file that says the same, end
alike: exit code, output and report (`switches_agree_with_settings`). This is
so because a run sees no more of the file than its settings
(`sameReport_of_output`); only a run whose input is the settings file itself
sees its text, and is refused at its first letter (`parse_tomlOf`).
-/

namespace SymbolOutline

/-- The files, with a text where the given paths lead. -/
def Files.holding (files : Files) (here : String → Bool) (text : List Char) : Files := fun path =>
  if here path then some (.file (String.ofList text).toUTF8) else files path

/-- The end of the second character of a line, if both have one byte. -/
theorem Place.lineColumn_second {c d : Char} (hc : c.utf8Size = 1) (hd : d.utf8Size = 1)
    (hc' : c ≠ '\n') (hd' : d ≠ '\n') (rest : List Char) :
    (⟨d :: rest, 1⟩ : Place).lineColumn (c :: d :: rest) = (1, 2) := by
  have hlength : ∀ a l, utf8Length (a :: l) = a.utf8Size + utf8Length l := fun _ _ => rfl
  have hoffset : (⟨d :: rest, 1⟩ : Place).offset (c :: d :: rest) = 2 := by
    simp only [offset, hlength, hc, hd]
    omega
  have hend : lineColumnAfter.go 1 2 0 rest = (1, 2) := by
    cases rest with
    | nil => rfl
    | cons e rest => rw [lineColumnAfter.go, if_pos e.utf8Size_pos]
  rw [lineColumn, hoffset, lineColumnAfter, lineColumnAfter.go, hc, if_neg (by omega), if_neg hc',
    lineColumnAfter.go, hd, if_neg (by omega), if_neg hd']
  exact hend

namespace Settings

/-- The settings with no sorting or with a cap of their own, if asked for. -/
def changed (s : Settings) (noSort : Bool) (limit : Option Nat) : Settings where
  outline :=
    { sort := if noSort then false else s.outline.sort
      maxDepth := match limit with
        | none => s.outline.maxDepth
        | some n => some n }
  render := s.render

theorem isWritable_changed {s : Settings} (hs : s.IsWritable) (noSort : Bool) {limit : Option Nat}
    (hlimit : ∀ n ∈ limit, n < Nat.pow 2 63) : (s.changed noSort limit).IsWritable := by
  refine ⟨?_, hs.2⟩
  intro n hn
  cases limit with
  | none => exact hs.1 n hn
  | some cap =>
    obtain rfl : cap = n := Option.some.inj hn
    have hcap := hlimit cap rfl
    unfold maxCount
    omega

/-- The written form of settings is no response: a list cannot start with a letter. -/
theorem parse_tomlOf (s : Settings) (keep : Field → Bool) :
    ∃ e, Response.parse (s.tomlOf keep) = .error e
      ∧ e.message (s.tomlOf keep) = "expected value at line 1 column 2" := by
  obtain ⟨rest, htext⟩ : ∃ rest, s.tomlOf keep = '[' :: 'o' :: rest := ⟨_, rfl⟩
  rw [htext]
  refine ⟨.syntaxError (.here .expectedValue ('o' :: rest)), ?_, ?_⟩
  · have hopen : Json.Reader.step ⟨.value, [], '[' :: 'o' :: rest⟩
        = .next ⟨.arrayStart, [], 'o' :: rest⟩ := rfl
    have hrefuse : Json.Reader.step ⟨.arrayStart, [], 'o' :: rest⟩
        = .done (.error (.here .expectedValue ('o' :: rest))) := rfl
    have hread : Json.read ('[' :: 'o' :: rest)
        = .error (.here .expectedValue ('o' :: rest)) := by
      rw [Json.read, Step.run_next hopen, Step.run_done hrefuse]
      rfl
    exact Response.parse_of_read_error hread
  · have hplace := Place.lineColumn_second (c := '[') (d := 'o') (by decide) (by decide)
      (by decide) (by decide) rest
    have hhere : (Json.ReadError.here .expectedValue ('o' :: rest)).place = ⟨'o' :: rest, 1⟩ := rfl
    show Json.ReadError.message ('[' :: 'o' :: rest) (.here .expectedValue ('o' :: rest)) = _
    rw [Json.ReadError.message, hhere, hplace]
    rfl

end Settings

namespace CommandLine

/-- The surroundings, with a text where the given paths lead. -/
def Surroundings.holding (around : Surroundings) (here : String → Bool) (text : List Char) :
    Surroundings :=
  { around with files := around.files.holding here text }

/-- The settings are read where the given paths lead: from a named file, or from
the first candidate that is not passed over. -/
def ReadsFrom (files : Files) (here : String → Bool) : Option String → Prop
  | some path => here path = true
  | none => ∃ before path after,
      Settings.candidates.map (Settings.inDirectory ".") = before ++ path :: after
        ∧ here path = true ∧ ∀ p ∈ before, here p = false ∧ Settings.PassedOver files p

/-- Two runs end with the same exit code, output and report. -/
structure Outcome.SameReport (a b : Outcome) : Prop where
  exitCode : a.exitCode = b.exitCode
  stdout : a.stdout = b.stdout
  stderr : a.stderr = b.stderr

theorem Outcome.SameReport.of_eq {a b : Outcome} (h : a = b) : a.SameReport b := by
  subst h
  exact ⟨rfl, rfl, rfl⟩

/-! ## The settings file -/

section

variable {files : Files} {here : String → Bool} {text : List Char}

theorem holding_of_here {path : String} (h : here path = true) :
    files.holding here text path = some (.file (String.ofList text).toUTF8) := if_pos h

theorem holding_of_not_here {path : String} (h : here path = false) :
    files.holding here text path = files path := by
  rw [Files.holding, if_neg (by rw [h]; decide)]

theorem text_held : (Stored.file (String.ofList text).toUTF8).text = .ok text := by
  rw [Stored.text_toUTF8, String.toList_ofList]

theorem passedOver_holding {path : String} (h : here path = false)
    (hpassed : Settings.PassedOver files path) :
    Settings.PassedOver (files.holding here text) path := by
  unfold Settings.PassedOver
  rw [holding_of_not_here h]
  exact hpassed

/-- The settings of a run are those of the file they are read from. -/
theorem fst_loadSettings_holding {config : Option String} (h : ReadsFrom files here config)
    {s : Settings} (htext : Settings.ofToml text = .ok s) (log : Log) :
    (loadSettings (files.holding here text) log config).1 = .ok s := by
  cases config with
  | some path =>
    have hfile : files.holding here text path = some (.file (String.ofList text).toUTF8) :=
      holding_of_here h
    have hload := Settings.load_of_settings hfile text_held htext log
    rw [loadSettings, hload]
  | none =>
    obtain ⟨before, path, after, hcandidates, hpath, hbefore⟩ := h
    rw [fst_loadSettings_none, Settings.discover, hcandidates]
    refine Settings.fst_loadFirst_of_settings ?_ (holding_of_here hpath) text_held htext after log
    intro p hp
    obtain ⟨hnot, hpassed⟩ := hbefore p hp
    exact passedOver_holding hnot hpassed

end

/-! ## The input -/

section

variable {around : Surroundings} {here : String → Bool} {text : List Char} {input : String}

/-- An input other than the settings file does not change with it. -/
theorem readInput_holding (h : isStdin input = true ∨ here input = false) :
    readInput (around.holding here text) input = readInput around input := by
  unfold readInput
  by_cases hstdin : isStdin input = true
  · rw [if_pos hstdin, if_pos hstdin]
    rfl
  · rw [if_neg hstdin, if_neg hstdin]
    have hnot := h.resolve_left hstdin
    have hfiles : (around.holding here text).files input = around.files input :=
      holding_of_not_here hnot
    rw [hfiles]

theorem readInput_held (hfile : isStdin input = false) (hhere : here input = true) :
    readInput (around.holding here text) input = .ok text := by
  have hstored : (around.holding here text).files input
      = some (.file (String.ofList text).toUTF8) := holding_of_here hhere
  rw [readInput, hfile, hstored]
  simp only [text_held]
  rfl

end

/-! ## The output -/

theorem fst_outlineText_log (format : Format) (settings : Settings) (log log' : Log)
    (symbols : List Symbol) :
    (outlineText format settings log symbols).1 = (outlineText format settings log' symbols).1 := by
  have hbuild : (Outline.build settings.outline log symbols).1
      = (Outline.build settings.outline log' symbols).1 := by
    rw [Outline.build_eq, Outline.build_eq]
  cases format <;> simp only [outlineText, hbuild]

/-- Where the symbols look the same, so does the output. -/
theorem fst_outlineOutput_congr {around around' : Surroundings} {input : String}
    (hread : readInput around' input = readInput around input) {format : Format}
    {settings settings' : Settings}
    (h : ∀ symbols, Symbol.levelsAll symbols ≤ Response.maxLevels →
      (outlineText format settings #[] symbols).1 = (outlineText format settings' #[] symbols).1)
    (log log' : Log) :
    (outlineOutput around input format settings log).1
      = (outlineOutput around' input format settings' log').1 := by
  unfold outlineOutput
  rw [hread]
  cases htext : readInput around input with
  | error failure => rfl
  | ok text =>
    cases hparse : Response.parse text with
    | error e => simp only [hparse]
    | ok symbols =>
      have hsame := h symbols (Response.levelsAll_le_of_parse hparse)
      rw [fst_outlineText_log _ _ #[] (log.push (.readSymbols symbols.length input)),
        fst_outlineText_log _ settings' #[] (log'.push (.readSymbols symbols.length input))]
        at hsame
      simp only [hparse, hsame]

/-! ## Runs -/

section

variable {around : Surroundings} {here : String → Bool} {request request' : OutlineRequest}
  {s s' : Settings} {text text' : List Char}

/-- A run sees the settings of the file they are read from. -/
theorem fst_run_holding (hreads : ReadsFrom around.files here request.config)
    (htext : Settings.ofToml text = .ok s) :
    ∃ log, (request.run (around.holding here text) #[]).1
      = .ofOutput (outlineOutput (around.holding here text) request.input request.format
          (request.override s) log).1 := by
  have hload : (loadSettings (around.holding here text).files #[] request.config).1 = .ok s :=
    fst_loadSettings_holding hreads htext #[]
  exact ⟨_, OutlineRequest.fst_run_of_ok hload⟩

/-- The two requests show all symbols alike that an input can have. -/
def ShowAlike (request request' : OutlineRequest) (s s' : Settings) : Prop :=
  ∀ symbols, Symbol.levelsAll symbols ≤ Response.maxLevels →
    (outlineText request.format (request.override s) #[] symbols).1
      = (outlineText request.format (request'.override s') #[] symbols).1

/-- What the file says of settings cannot be told but by what they show, unless
the input is the file itself. -/
theorem sameReport_of_separate (hreads : ReadsFrom around.files here request.config)
    (hinput : request'.input = request.input) (hformat : request'.format = request.format)
    (hconfig : request'.config = request.config) (htext : Settings.ofToml text = .ok s)
    (htext' : Settings.ofToml text' = .ok s') (halike : ShowAlike request request' s s')
    (hseparate : isStdin request.input = true ∨ here request.input = false) :
    (request.run (around.holding here text) #[]).1.SameReport
      (request'.run (around.holding here text') #[]).1 := by
  obtain ⟨log, hrun⟩ := fst_run_holding hreads htext
  have hreads' : ReadsFrom around.files here request'.config := hconfig ▸ hreads
  obtain ⟨log', hrun'⟩ := fst_run_holding hreads' htext'
  have hread : readInput (around.holding here text') request.input
      = readInput (around.holding here text) request.input := by
    rw [readInput_holding hseparate, readInput_holding hseparate]
  refine .of_eq ?_
  rw [hrun, hrun', hinput, hformat, fst_outlineOutput_congr hread halike log log']

/-- The written form of settings is refused as input, always with one report. -/
theorem run_of_held (hreads : ReadsFrom around.files here request.config)
    (htext : Settings.ofToml (s.tomlOf fun _ => true) = .ok s)
    (hfile : isStdin request.input = false) (hhere : here request.input = true) :
    ∃ failure : Failure, (request.run (around.holding here (s.tomlOf fun _ => true)) #[]).1
        = .failed failure
      ∧ failure.chain = ["Failed to parse symbols from " ++ request.input,
          "Invalid symbol input: expected value at line 1 column 2",
          "expected value at line 1 column 2"] := by
  obtain ⟨log, hrun⟩ := fst_run_holding hreads htext
  obtain ⟨e, hparse, hmessage⟩ := Settings.parse_tomlOf s fun _ => true
  refine ⟨.badInput request.input (s.tomlOf fun _ => true) e, ?_, ?_⟩
  · rw [hrun, outlineOutput, readInput_held hfile hhere]
    simp only [hparse]
    rfl
  · rw [Failure.chain, hmessage]
    rfl

/-- Runs under the written forms of settings that show all alike end alike. -/
theorem sameReport_of_written (hreads : ReadsFrom around.files here request.config)
    (hinput : request'.input = request.input) (hformat : request'.format = request.format)
    (hconfig : request'.config = request.config) (hs : s.IsWritable) (hs' : s'.IsWritable)
    (halike : ShowAlike request request' s s') :
    (request.run (around.holding here (s.tomlOf fun _ => true)) #[]).1.SameReport
      (request'.run (around.holding here (s'.tomlOf fun _ => true)) #[]).1 := by
  have htext := Settings.ofToml_tomlOf_all hs
  have htext' := Settings.ofToml_tomlOf_all hs'
  by_cases hseparate : isStdin request.input = true ∨ here request.input = false
  · exact sameReport_of_separate hreads hinput hformat hconfig htext htext' halike hseparate
  -- The input is the settings file: the two runs read different texts, refused alike.
  · have hfile : isStdin request.input = false :=
      Bool.eq_false_iff.mpr fun h => hseparate (.inl h)
    have hhere : here request.input = true :=
      Bool.of_not_eq_false fun h => hseparate (.inr h)
    obtain ⟨failure, hrun, hchain⟩ := run_of_held hreads htext hfile hhere
    have hreads' : ReadsFrom around.files here request'.config := hconfig ▸ hreads
    obtain ⟨failure', hrun', hchain'⟩ :=
      run_of_held hreads' htext' (hinput ▸ hfile) (hinput ▸ hhere)
    rw [hrun, hrun']
    refine ⟨rfl, rfl, ?_⟩
    show failure.report = failure'.report
    rw [Failure.report, Failure.report, hchain, hchain', hinput]

end

/-! ## What the switches do -/

theorem override_changed {request : OutlineRequest} (hsort : request.noSort = false)
    (hdepth : request.maxDepth = none) (s : Settings) (noSort : Bool) (limit : Option Nat) :
    ({ request with noSort := noSort, maxDepth := limit } : OutlineRequest).override s
      = request.override (s.changed noSort limit) := by
  unfold OutlineRequest.override Settings.changed
  rw [hsort, hdepth]
  cases noSort <;> cases limit <;> simp

theorem build_of_levels_le {symbols : List Symbol} {limit : Nat}
    (h : Symbol.levelsAll symbols ≤ limit) (sort : Bool) (log : Log) :
    (Outline.build ⟨sort, some limit⟩ log symbols).1
      = (Outline.build ⟨sort, none⟩ log symbols).1 := by
  have hlevels := Outline.levels_build_le ⟨sort, none⟩ log symbols
  rw [Outline.build_capped]
  exact congrArg Outline.mk (Entry.truncateAll_of_levelsAll_le (Nat.le_trans hlevels h))

theorem showAlike_of_changed {request : OutlineRequest} (hsort : request.noSort = false)
    (hdepth : request.maxDepth = none) (s : Settings) (noSort : Bool) (limit : Option Nat) :
    ShowAlike { request with noSort := noSort, maxDepth := limit } request s
      (s.changed noSort limit) := by
  intro symbols _
  rw [override_changed hsort hdepth]

/-- A cap that all symbols fit in shows what no cap does. -/
theorem showAlike_of_maxLevels_le {n : Nat} (hn : Response.maxLevels ≤ n)
    (request : OutlineRequest) (s : Settings) :
    ShowAlike { request with maxDepth := some n } { request with maxDepth := none } s
      { s with outline.maxDepth := none } := by
  intro symbols hlevels
  have hfit := Nat.le_trans hlevels hn
  have hbuild := build_of_levels_le hfit (s.outline.sort && !request.noSort) #[]
  show (outlineText request.format ⟨⟨_, some n⟩, s.render⟩ #[] symbols).1
    = (outlineText request.format ⟨⟨_, none⟩, s.render⟩ #[] symbols).1
  cases request.format <;> simp only [outlineText, hbuild]

/-- The switches change nothing but the order and the depth, and only one way. -/
theorem override_keeps (request : OutlineRequest) (s : Settings) :
    (request.override s).render = s.render
      ∧ ((request.override s).outline.sort = true → s.outline.sort = true)
      ∧ ∀ cap, s.outline.maxDepth = some cap → ∃ cap',
          (request.override s).outline.maxDepth = some cap'
            ∧ (cap < cap' → request.maxDepth = some cap') := by
  refine ⟨rfl, ?_, ?_⟩
  · intro h
    exact (Bool.and_eq_true_iff.mp h).1
  · intro cap hcap
    show ∃ cap', request.maxDepth.or s.outline.maxDepth = some cap' ∧ _
    cases hlimit : request.maxDepth with
    | none =>
      refine ⟨cap, hcap, ?_⟩
      intro h
      omega
    | some limit => exact ⟨limit, rfl, fun _ => rfl⟩

/-- How a run ends under the written form of settings. -/
def endUnder (around : Surroundings) (here : String → Bool) (s : Settings)
    (arguments : List String) : Outcome :=
  (run (around.holding here (s.tomlOf fun _ => true)) arguments).1

/-- The switches for order and depth may be put before all other arguments of an
outline. Wherever they stand, they do what the settings file would do if it said
the same: the run ends with the same exit code, output and report. This holds
of every input under the written form of the settings, and of every text of the
settings file if the input is another one. A limit of 62 or more is none, as no
input has more levels. The switches leave the style alone, never turn sorting
on, and lift a cap only to the limit they name. -/
theorem switches_agree_with_settings {rest : List String} {request : OutlineRequest}
    (hplain : Request.ofArguments ("outline" :: rest) = .ok (.outline request))
    (hsort : request.noSort = false) (hdepth : request.maxDepth = none) {around : Surroundings}
    {here : String → Bool} (hreads : ReadsFrom around.files here request.config) {s : Settings}
    (hs : s.IsWritable) (noSort : Bool) (limit : Option Nat) :
    ((∀ n ∈ limit, n < 2 ^ 64) →
        Request.ofArguments ("outline" :: (switches noSort limit ++ rest))
          = .ok (.outline { request with noSort := noSort, maxDepth := limit }))
      ∧ ∀ arguments, Request.ofArguments arguments
            = .ok (.outline { request with noSort := noSort, maxDepth := limit }) →
          ((∀ n ∈ limit, n < 2 ^ 63) →
            (endUnder around here s arguments).SameReport
              (endUnder around here (s.changed noSort limit) ("outline" :: rest)))
          ∧ (∀ text text', Settings.ofToml text = .ok s →
              Settings.ofToml text' = .ok (s.changed noSort limit) →
              isStdin request.input = true ∨ here request.input = false →
                (run (around.holding here text) arguments).1.SameReport
                  (run (around.holding here text') ("outline" :: rest)).1)
          ∧ (∀ uncapped, Request.ofArguments uncapped
                = .ok (.outline { request with noSort := noSort, maxDepth := none }) →
              (∃ n ∈ limit, 62 ≤ n) →
                (endUnder around here s arguments).SameReport
                  (endUnder around here { s with outline.maxDepth := none } uncapped))
          ∧ ∀ s' : Settings, let effective :=
              OutlineRequest.override { request with noSort := noSort, maxDepth := limit } s'
            effective.render = s'.render
              ∧ (effective.outline.sort = true → s'.outline.sort = true)
              ∧ ∀ cap, s'.outline.maxDepth = some cap → ∃ cap',
                  effective.outline.maxDepth = some cap' ∧ (cap < cap' → limit = some cap') := by
  refine ⟨ofArguments_switches hplain hsort hdepth noSort, ?_⟩
  intro arguments harguments
  refine ⟨?_, ?_, ?_, fun s' => override_keeps _ s'⟩
  · intro hlimit
    unfold endUnder
    rw [fst_run_of_request harguments, fst_run_of_request hplain]
    exact sameReport_of_written hreads rfl rfl rfl hs (Settings.isWritable_changed hs noSort hlimit)
      (showAlike_of_changed hsort hdepth s noSort limit)
  · intro text text' htext htext' hseparate
    rw [fst_run_of_request harguments, fst_run_of_request hplain]
    exact sameReport_of_separate hreads rfl rfl rfl htext htext'
      (showAlike_of_changed hsort hdepth s noSort limit) hseparate
  · rintro uncapped huncapped ⟨n, hn, hlevels⟩
    obtain rfl : limit = some n := hn
    have hs' : Settings.IsWritable { s with outline.maxDepth := none } := by
      refine ⟨?_, hs.2⟩
      intro cap hcap
      cases hcap
    unfold endUnder
    rw [fst_run_of_request harguments, fst_run_of_request huncapped]
    exact sameReport_of_written hreads rfl rfl rfl hs hs'
      (showAlike_of_maxLevels_le hlevels { request with noSort := noSort, maxDepth := none } s)

/-- The file found in the working directory has a cap of one level; the limit of
70 levels that is asked for instead is none. -/
theorem switches_agree_with_found_file :
    let around : Surroundings :=
      ⟨fun _ => none, (String.ofList (Symbol.responseText [.server])).toUTF8⟩
    let ending := endUnder around (· = "./symtidy.toml")
    let switched := ["outline", "--no-sort", "--max-depth", "70", "-"]
    (ending { outline := { maxDepth := some 1 } } switched).SameReport
        (ending { outline := { sort := false, maxDepth := some 70 } } ["outline", "-"])
      ∧ (ending { outline := { maxDepth := some 1 } } switched).SameReport
        (ending {} ["outline", "--no-sort", "-"]) := by
  intro around ending switched
  have hplain : Request.ofArguments ["outline", "-"] = .ok (.outline { input := "-" }) := rfl
  have hreads : ReadsFrom around.files (· = "./symtidy.toml") none := by
    refine ⟨[], "./symtidy.toml", ["./.symtidy.toml"], rfl, rfl, ?_⟩
    intro p hp
    cases hp
  obtain ⟨-, hagree⟩ := switches_agree_with_settings hplain rfl rfl hreads
    (s := { outline := { maxDepth := some 1 } }) (by decide) true (some 70)
  have hlimit : ∀ n ∈ some 70, n < 2 ^ 63 := by
    intro n hn
    obtain rfl := Option.some.inj hn
    decide
  have harguments : Request.ofArguments switched
      = .ok (.outline { input := "-", noSort := true, maxDepth := some 70 }) := rfl
  obtain ⟨hsame, -, huncapped, -⟩ := hagree _ harguments
  exact ⟨hsame hlimit, huncapped ["outline", "--no-sort", "-"] rfl ⟨70, rfl, by decide⟩⟩

end CommandLine

end SymbolOutline
