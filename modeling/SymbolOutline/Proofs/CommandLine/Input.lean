import SymbolOutline.Proofs.CommandLine.Run

/-!
# Standard input and files

Whether symbols come from standard input or from a file with the same bytes
cannot be told from the exit code or the output. Arguments that differ in their
input (`SameButInput`) ask for the same otherwise, or are refused alike
(`SameButInput.requests`), and a request sees no more of its input than the bytes
(`OutlineRequest.run_of_same_bytes`). Only what is told of a failure names the
input (`OutlineRequest.reports_of_same_bytes`).
-/

namespace SymbolOutline.CommandLine

/-! ## Tokens -/

/-- The tokens are the same but for an input, or end in a misuse before it. -/
inductive SameButInput (input input' : String) : List Token → List Token → Prop where
  | here (rest : List Token) :
    SameButInput input input' (.input input :: rest) (.input input' :: rest)
  | after (token : Token) {rest rest' : List Token} (h : SameButInput input input' rest rest') :
    SameButInput input input' (token :: rest) (token :: rest')
  | stopped (e : UsageError) : SameButInput input input' [.misuse e] [.misuse e]

theorem eq_of_separator {argument : String} (h : Word.ofArgument argument = .separator) :
    argument = "--" := by
  unfold Word.ofArgument at h
  split at h
  · next hlist => exact String.ext hlist
  · split at h <;> cases h
  · cases h
  · cases h

/-- What an argument does to those after it: it makes inputs of them, is a
misuse, stands for itself, or takes the next one as its value. -/
theorem ofArguments_cons_cases (command : Command) (argument : String) :
    argument = "--"
      ∨ (∃ e, ∀ rest, Token.ofArguments command (argument :: rest) = [.misuse e])
      ∨ (∃ token, ∀ rest, Token.ofArguments command (argument :: rest)
          = token :: Token.ofArguments command rest)
      ∨ ∃ s, ∀ value rest, Token.ofArguments command (argument :: value :: rest)
          = if Word.ofArgument value = .plain then
              .setting s value :: Token.ofArguments command rest
            else [.misuse (.missingValue s.long)] := by
  cases hword : Word.ofArgument argument with
  | separator => exact .inl (eq_of_separator hword)
  | plain =>
    refine .inr (.inr (.inl ⟨.input argument, fun rest => ?_⟩))
    rw [Token.ofArguments, hword]
  | long | short =>
    right
    rcases hswitch : (Word.ofArgument argument).switch? command with _ | ⟨s, _ | value⟩
    all_goals rw [hword] at hswitch
    · refine .inl ⟨.unknownSwitch argument, fun rest => ?_⟩
      rw [Token.ofArguments, hword]
      simp only [hswitch]
    · by_cases htakes : s.takesValue = true
      · refine .inr (.inr ⟨s, fun value rest => ?_⟩)
        rw [Token.ofArguments, hword]
        simp only [hswitch, htakes, if_true]
      · refine .inr (.inl ⟨.switch s, fun rest => ?_⟩)
        rw [Token.ofArguments, hword]
        simp only [hswitch, if_neg htakes]
    · refine .inr (.inl ⟨.setting s value, fun rest => ?_⟩)
      rw [Token.ofArguments, hword]
      simp only [hswitch]

theorem SameButInput.append {input input' : String} {rest rest' : List Token}
    (h : SameButInput input input' rest rest') (tokens : List Token) :
    SameButInput input input' (tokens ++ rest) (tokens ++ rest') := by
  induction tokens with
  | nil => exact h
  | cons token tokens ih => exact .after token ih

/-- The last of the arguments is a switch without its value, so that one more
argument would be that. -/
def AwaitsValue (arguments : List String) : Prop :=
  ∃ s, (Token.ofArguments .outline (arguments ++ ["-"])).getLast? = some (.setting s "-")

theorem AwaitsValue.of_tokens {rest arguments : List String} {token : Token}
    (htokens : Token.ofArguments .outline (arguments ++ ["-"])
      = token :: Token.ofArguments .outline (rest ++ ["-"])) (h : AwaitsValue rest) :
    AwaitsValue arguments := by
  obtain ⟨s, hlast⟩ := h
  refine ⟨s, ?_⟩
  rw [htokens, List.getLast?_cons, hlast]
  rfl

/-- A path in the place of `-` is the input, as that was, unless `-` was the
value of a switch or the path looks like one itself. -/
theorem SameButInput.ofArguments {path : String} {after : List String} : ∀ {options : List String},
    ¬AwaitsValue options → Word.ofArgument path = .plain ∨ "--" ∈ options →
      SameButInput "-" path (Token.ofArguments .outline (options ++ "-" :: after))
        (Token.ofArguments .outline (options ++ path :: after))
  | [], _, hpath => by
    have hplain : Word.ofArgument path = .plain := hpath.resolve_right List.not_mem_nil
    rw [List.nil_append, List.nil_append, Token.ofArguments, Token.ofArguments, hplain]
    exact .here _
  | argument :: rest, hawaits, hpath => by
    rw [List.cons_append, List.cons_append]
    by_cases hseparator : argument = "--"
    -- all that follows is input, the path as well, whatever it looks like
    · subst hseparator
      show SameButInput "-" path ((rest ++ "-" :: after).map .input)
        ((rest ++ path :: after).map .input)
      rw [List.map_append, List.map_append]
      exact (SameButInput.here _).append _
    have hrest : Word.ofArgument path = .plain ∨ "--" ∈ rest :=
      hpath.imp_right fun h => List.mem_of_ne_of_mem (Ne.symm hseparator) h
    rcases (ofArguments_cons_cases .outline argument).resolve_left hseparator with
      ⟨e, hstop⟩ | ⟨token, hnext⟩ | ⟨s, hvalue⟩
    · rw [hstop, hstop]
      exact .stopped e
    · rw [hnext, hnext]
      refine .after token (SameButInput.ofArguments (fun h => hawaits ?_) hrest)
      exact h.of_tokens (hnext _)
    · cases rest with
      | nil => exact absurd ⟨s, congrArg List.getLast? (hvalue "-" [])⟩ hawaits
      | cons value rest =>
        rw [List.cons_append, List.cons_append, hvalue, hvalue]
        by_cases hplain : Word.ofArgument value = .plain
        · rw [if_pos hplain, if_pos hplain]
          refine .after (.setting s value) (SameButInput.ofArguments (fun h => hawaits ?_) ?_)
          · exact h.of_tokens ((hvalue value _).trans (if_pos hplain))
          · refine hrest.imp_right fun h => List.mem_of_ne_of_mem ?_ h
            rintro rfl
            exact absurd hplain (by decide)
        · rw [if_neg hplain, if_neg hplain]
          exact .stopped (.missingValue s.long)

namespace Draft

def withInput (d : Draft) (input : String) : Draft := { d with input := some input }

/-- Tokens do the same to a draft with an input, whatever that is. -/
theorem add_withInput (d : Draft) (token : Token) :
    ∃ r : Except Halt Draft, ∀ input,
      (d.withInput input).add .outline token = r.map (·.withInput input) := by
  cases token with
  | input argument => exact ⟨.error (.misuse (.unexpectedArgument argument)), fun _ => rfl⟩
  | misuse e => exact ⟨.error (.misuse e), fun _ => rfl⟩
  | switch s =>
    refine ⟨d.turnOn s, fun input => ?_⟩
    obtain ⟨_, _, _, noSort, _⟩ := d
    cases s with
    | noSort => cases noSort <;> rfl
    | format | config | maxDepth | help => rfl
  | setting s value =>
    refine ⟨d.set s value, fun input => ?_⟩
    have hread : ∀ {α : Type} (read : Except Halt α) (put : Draft → α → Draft),
        (∀ a, put (d.withInput input) a = (put d a).withInput input) →
          (do return put (d.withInput input) (← read))
            = (do return put d (← read) : Except Halt Draft).map (·.withInput input) := by
      intro α read put hput
      cases read with
      | error halt => rfl
      | ok a => exact congrArg Except.ok (hput a)
    cases s with
    | format => exact hread _ (fun d format => { d with format := format }) fun _ => rfl
    | config => exact hread _ (fun d config => { d with config := config }) fun _ => rfl
    | maxDepth => exact hread _ (fun d maxDepth => { d with maxDepth := maxDepth }) fun _ => rfl
    | noSort | help => rfl

theorem foldlM_withInput (tokens : List Token) (d : Draft) :
    ∃ r : Except Halt Draft, ∀ input,
      tokens.foldlM (add .outline) (d.withInput input) = r.map (·.withInput input) := by
  induction tokens generalizing d with
  | nil => exact ⟨.ok d, fun _ => rfl⟩
  | cons token tokens ih =>
    obtain ⟨r, hadd⟩ := add_withInput d token
    cases r with
    | error halt =>
      refine ⟨.error halt, fun input => ?_⟩
      rw [List.foldlM_cons, hadd]
      rfl
    | ok next =>
      obtain ⟨r, hrest⟩ := ih next
      refine ⟨r, fun input => ?_⟩
      rw [List.foldlM_cons, hadd]
      exact hrest input

end Draft

/-! ## Requests -/

/-- Arguments are refused alike: for one reason, or as misuses for two. -/
def Halt.Alike (halt halt' : Halt) : Prop :=
  halt = halt' ∨ ∃ e e', halt = .misuse e ∧ halt' = .misuse e'

namespace SameButInput

variable {input input' : String}

/-- Tokens that are the same but for an input give drafts that are, or are
refused alike. -/
theorem foldlM {tokens tokens' : List Token} (h : SameButInput input input' tokens tokens')
    (hinput : input ≠ "") (hinput' : input' ≠ "") (d : Draft) :
    (∃ halt halt', tokens.foldlM (Draft.add .outline) d = .error halt
        ∧ tokens'.foldlM (Draft.add .outline) d = .error halt' ∧ halt.Alike halt')
      ∨ ∃ last : Draft, tokens.foldlM (Draft.add .outline) d = .ok (last.withInput input)
        ∧ tokens'.foldlM (Draft.add .outline) d = .ok (last.withInput input') := by
  induction h generalizing d with
  | here rest =>
    rw [List.foldlM_cons, List.foldlM_cons]
    obtain ⟨found, format, config, noSort, maxDepth⟩ := d
    cases found with
    | some found => exact .inl ⟨_, _, rfl, rfl, .inr ⟨_, _, rfl, rfl⟩⟩
    | none =>
      have hadd : ∀ {path : String}, path ≠ "" →
          (⟨none, format, config, noSort, maxDepth⟩ : Draft).add .outline (.input path)
            = .ok (Draft.withInput ⟨none, format, config, noSort, maxDepth⟩ path) := by
        intro path hpath
        have hread : path? path = some path := if_neg hpath
        simp only [Draft.add, Draft.addInput, Draft.withInput, hread]
      rw [hadd hinput, hadd hinput']
      -- no later token looks at the input, but to refuse another one
      obtain ⟨r, hrest⟩ := Draft.foldlM_withInput rest ⟨none, format, config, noSort, maxDepth⟩
      cases r with
      | error halt => exact .inl ⟨halt, halt, hrest input, hrest input', .inl rfl⟩
      | ok last => exact .inr ⟨last, hrest input, hrest input'⟩
  | after token h ih =>
    rw [List.foldlM_cons, List.foldlM_cons]
    cases d.add .outline token with
    | error halt => exact .inl ⟨halt, halt, rfl, rfl, .inl rfl⟩
    | ok next => exact ih next
  | stopped e => exact .inl ⟨.misuse e, .misuse e, rfl, rfl, .inl rfl⟩

/-- Arguments that are the same but for an input ask for the same, but for that,
or are refused alike. -/
theorem requests {arguments arguments' : List String}
    (h : SameButInput input input' (Token.ofArguments .outline arguments)
      (Token.ofArguments .outline arguments')) (hinput : input ≠ "") (hinput' : input' ≠ "") :
    (∃ halt halt', Request.ofArguments ("outline" :: arguments) = .error halt
        ∧ Request.ofArguments ("outline" :: arguments') = .error halt' ∧ halt.Alike halt')
      ∨ ∃ request : OutlineRequest,
        Request.ofArguments ("outline" :: arguments)
            = .ok (.outline { request with input := input })
          ∧ Request.ofArguments ("outline" :: arguments')
            = .ok (.outline { request with input := input' }) := by
  have hof : ∀ arguments, Request.ofArguments ("outline" :: arguments)
      = (Token.ofArguments .outline arguments).foldlM (Draft.add .outline) {}
        >>= fun d => d.request .outline := fun _ => rfl
  rw [hof, hof]
  rcases h.foldlM hinput hinput' {} with
    ⟨halt, halt', hfold, hfold', halike⟩ | ⟨last, hfold, hfold'⟩
  · rw [hfold, hfold']
    exact .inl ⟨halt, halt', rfl, rfl, halike⟩
  · rw [hfold, hfold']
    exact .inr ⟨⟨input, last.format.getD .text, last.config, last.noSort, last.maxDepth⟩, rfl, rfl⟩

end SameButInput

/-! ## Runs -/

/-- How a run ends whose arguments ask for nothing. -/
def Outcome.ofHalt : Halt → Outcome
  | .help => .printed usage
  | .version => .printed (programName ++ " " ++ version ++ "\n")
  | .misuse e => .misused e

theorem run_of_halt {arguments : List String} {halt : Halt}
    (h : Request.ofArguments arguments = .error halt) (around : Surroundings) :
    run around arguments = (.ofHalt halt, #[]) := by
  rw [run, h]
  cases halt <;> rfl

theorem Halt.Alike.outcome {halt halt' : Halt} (h : halt.Alike halt') :
    (Outcome.ofHalt halt').exitCode = (Outcome.ofHalt halt).exitCode
      ∧ (Outcome.ofHalt halt').stdout = (Outcome.ofHalt halt).stdout := by
  rcases h with rfl | ⟨e, e', rfl, rfl⟩ <;> exact ⟨rfl, rfl⟩

/-- Where the settings of a run may be. -/
def settingsPaths : Option String → List String
  | some path => [path]
  | none => Settings.candidates.map (Settings.inDirectory ".")

theorem loadSettings_congr {files files' : Files} {config : Option String}
    (h : ∀ p ∈ settingsPaths config, files' p = files p) (log : Log) :
    loadSettings files' log config = loadSettings files log config := by
  cases config with
  | some path =>
    have hpath : files' path = files path := h path (List.mem_singleton.mpr rfl)
    rw [loadSettings, loadSettings, Settings.load, Settings.load, hpath]
  | none =>
    have hfound : Settings.discover files' log "." = Settings.discover files log "." :=
      Settings.loadFirst_congr (fun p hp => Settings.candidate_congr (h p hp)) log
    rw [loadSettings, loadSettings, hfound]

/-- A report of what is wrong with a text names its source in the first line only. -/
theorem report_of_badInput (text : List Char) (e : ResponseError) :
    ∃ behind, ∀ source, (Failure.badInput source text e).report
      = "Error: Failed to parse symbols from " ++ source ++ "\n" ++ behind := by
  refine ⟨"\nCaused by:\n" ++ String.join ((Failure.causes
    ["Invalid symbol input: " ++ e.message text, e.message text]).map (· ++ "\n")), ?_⟩
  intro source
  have hfirst : "Error: Failed to parse symbols from "
      = "Error: " ++ "Failed to parse symbols from " := rfl
  have hbreak : "\n\nCaused by:\n" = "\n" ++ "\nCaused by:\n" := rfl
  show "Error: " ++ ("Failed to parse symbols from " ++ source) ++ "\n\nCaused by:\n" ++ _ = _
  rw [hfirst, hbreak]
  simp only [String.append_assoc]

section

variable {around around' : Surroundings} {input input' : String} {bytes : ByteArray}

/-- Inputs with the same bytes give the same output, or fail both. -/
theorem outlineOutput_of_same_bytes (h : inputBytes? around input = some bytes)
    (h' : inputBytes? around' input' = some bytes) (format : Format) (settings : Settings)
    (log log' : Log) :
    (outlineOutput around' input' format settings log').1
        = (outlineOutput around input format settings log).1
      ∨ ∃ failure failure',
        (outlineOutput around input format settings log).1 = .error (.failed failure)
          ∧ (outlineOutput around' input' format settings log').1 = .error (.failed failure') := by
  have hfails : InputFails around input → InputFails around' input' → ∃ failure failure',
      (outlineOutput around input format settings log).1 = .error (.failed failure)
        ∧ (outlineOutput around' input' format settings log').1 = .error (.failed failure') := by
    intro hf hf'
    obtain ⟨failure, hfailure⟩ := outlineOutput_of_inputFails hf format settings log
    obtain ⟨failure', hfailure'⟩ := outlineOutput_of_inputFails hf' format settings log'
    exact ⟨failure, failure', hfailure, hfailure'⟩
  cases htext : String.fromUTF8? bytes with
  | none => exact .inr (hfails (.notText h htext) (.notText h' htext))
  | some text =>
    cases hparse : Response.parse text.toList with
    | error e => exact .inr (hfails (.rejected h htext hparse) (.rejected h' htext hparse))
    | ok symbols =>
      left
      rw [fst_outlineOutput (accepts_of_text h htext hparse) format settings log log,
        fst_outlineOutput (accepts_of_text h' htext hparse) format settings log' log]

theorem outlineOutput_of_rejected {text : String} {e : ResponseError}
    (h : inputBytes? around input = some bytes) (htext : String.fromUTF8? bytes = some text)
    (hparse : Response.parse text.toList = .error e) (format : Format) (settings : Settings)
    (log : Log) :
    (outlineOutput around input format settings log).1
      = .error (.failed (.badInput input text.toList e)) := by
  rw [outlineOutput, readInput_of_text h htext]
  simp only [hparse]

namespace OutlineRequest

variable {request : OutlineRequest}

/-- A request sees no more of its input than the bytes, but to tell of a failure. -/
theorem run_of_same_bytes (h : inputBytes? around input = some bytes)
    (h' : inputBytes? around' input' = some bytes)
    (hsettings : (loadSettings around'.files #[] request.config).1
      = (loadSettings around.files #[] request.config).1) :
    let outcome := (run around #[] { request with input := input }).1
    let outcome' := (run around' #[] { request with input := input' }).1
    outcome'.exitCode = outcome.exitCode ∧ outcome'.stdout = outcome.stdout := by
  intro outcome outcome'
  cases hload : (loadSettings around.files #[] request.config).1 with
  | error e =>
    have hrun : outcome = .failed (.settings request.config e) := fst_run_of_error hload
    have hrun' : outcome' = .failed (.settings request.config e) :=
      fst_run_of_error (hsettings.trans hload)
    rw [hrun, hrun']
    exact ⟨rfl, rfl⟩
  | ok settings =>
    obtain ⟨log, hrun⟩ : ∃ log, outcome = .ofOutput (outlineOutput around input request.format
        (request.override settings) log).1 := ⟨_, fst_run_of_ok hload⟩
    obtain ⟨log', hrun'⟩ : ∃ log', outcome' = .ofOutput (outlineOutput around' input'
        request.format (request.override settings) log').1 :=
      ⟨_, fst_run_of_ok (hsettings.trans hload)⟩
    rw [hrun, hrun']
    rcases outlineOutput_of_same_bytes h h' request.format (request.override settings) log log' with
      hsame | ⟨failure, failure', hfailure, hfailure'⟩
    · rw [hsame]
      exact ⟨rfl, rfl⟩
    · rw [hfailure, hfailure']
      exact ⟨rfl, rfl⟩

theorem fst_run_of_rejected {settings : Settings} {text : String} {e : ResponseError}
    (hload : (loadSettings around.files #[] request.config).1 = .ok settings)
    (h : inputBytes? around request.input = some bytes) (htext : String.fromUTF8? bytes = some text)
    (hparse : Response.parse text.toList = .error e) :
    (request.run around #[]).1 = .failed (.badInput request.input text.toList e) := by
  rw [fst_run_of_ok hload, outlineOutput_of_rejected h htext hparse, Outcome.ofOutput]

/-- If the settings cannot be loaded, the input has no part in the report; a text
that is no response is told of in the same way, but for the name of its source. -/
theorem reports_of_same_bytes (h : inputBytes? around input = some bytes)
    (h' : inputBytes? around' input' = some bytes)
    (hsettings : (loadSettings around'.files #[] request.config).1
      = (loadSettings around.files #[] request.config).1) :
    let outcome := (run around #[] { request with input := input }).1
    let outcome' := (run around' #[] { request with input := input' }).1
    (∀ e, (loadSettings around.files #[] request.config).1 = .error e →
        outcome'.stderr = outcome.stderr)
      ∧ ∀ settings text e, (loadSettings around.files #[] request.config).1 = .ok settings →
        String.fromUTF8? bytes = some text → Response.parse text.toList = .error e →
          ∃ behind,
            outcome.stderr = "Error: Failed to parse symbols from " ++ input ++ "\n" ++ behind
              ∧ outcome'.stderr
                = "Error: Failed to parse symbols from " ++ input' ++ "\n" ++ behind := by
  intro outcome outcome'
  constructor
  · intro e hload
    have hfailed : outcome = .failed (.settings request.config e) := fst_run_of_error hload
    have hfailed' : outcome' = .failed (.settings request.config e) :=
      fst_run_of_error (hsettings.trans hload)
    rw [hfailed, hfailed']
  · intro settings text e hload htext hparse
    have hfailed : outcome = .failed (.badInput input text.toList e) :=
      fst_run_of_rejected hload h htext hparse
    have hfailed' : outcome' = .failed (.badInput input' text.toList e) :=
      fst_run_of_rejected (hsettings.trans hload) h' htext hparse
    obtain ⟨behind, hreport⟩ := report_of_badInput text.toList e
    rw [hfailed, hfailed']
    exact ⟨behind, hreport input, hreport input'⟩

/-- A request for a file does not look at standard input. -/
theorem run_with_stdin (request : OutlineRequest) (hfile : isStdin request.input = false)
    (around : Surroundings) (bytes : ByteArray) (log : Log) :
    request.run { around with stdin := bytes } log = request.run around log := by
  have hread : readInput { around with stdin := bytes } request.input
      = readInput around request.input := by
    rw [readInput, readInput, hfile]
    rfl
  simp only [run, outlineOutput, hread]

end OutlineRequest

end

/-- Without a switch that waits for its value, `-` stands for standard input and
a path for a file. If the file has the bytes of standard input and the settings
are the same, both runs end with the same exit code and output. If the settings
cannot be loaded, they tell the same, and of a text that is no response too, but
for the first line, which names the input. The run with the file does not look at
standard input. -/
theorem stdin_agrees_with_file {options after : List String} {path : String}
    (hawaits : ¬AwaitsValue options) (hpath : Word.ofArgument path = .plain ∨ "--" ∈ options)
    (hne : path ≠ "") (hfile : isStdin path = false) {around around' : Surroundings}
    (hbytes : around'.files path = some (.file around.stdin))
    (hsettings : ∀ request,
      Request.ofArguments ("outline" :: (options ++ "-" :: after)) = .ok (.outline request) →
        (loadSettings around'.files #[] request.config).1
          = (loadSettings around.files #[] request.config).1) :
    let piped := (run around ("outline" :: (options ++ "-" :: after))).1
    let opened := (run around' ("outline" :: (options ++ path :: after))).1
    (opened.exitCode = piped.exitCode ∧ opened.stdout = piped.stdout)
      ∧ (∀ request,
          Request.ofArguments ("outline" :: (options ++ "-" :: after)) = .ok (.outline request) →
            (∀ e, (loadSettings around.files #[] request.config).1 = .error e →
              opened.stderr = piped.stderr)
            ∧ ∀ settings text e, (loadSettings around.files #[] request.config).1 = .ok settings →
              String.fromUTF8? around.stdin = some text → Response.parse text.toList = .error e →
                ∃ behind,
                  piped.stderr = "Error: Failed to parse symbols from -\n" ++ behind
                    ∧ opened.stderr
                      = "Error: Failed to parse symbols from " ++ path ++ "\n" ++ behind)
      ∧ ∀ stdin, run { around' with stdin := stdin } ("outline" :: (options ++ path :: after))
          = run around' ("outline" :: (options ++ path :: after)) := by
  intro piped opened
  have hstdin : inputBytes? around "-" = some around.stdin := rfl
  have hfound : inputBytes? around' path = some around.stdin := by
    rw [inputBytes?, hfile, hbytes]
    rfl
  have htokens : SameButInput "-" path (Token.ofArguments .outline (options ++ "-" :: after))
      (Token.ofArguments .outline (options ++ path :: after)) := .ofArguments hawaits hpath
  rcases htokens.requests (by decide) hne with
    ⟨halt, halt', hpiped, hopened, halike⟩ | ⟨request, hpiped, hopened⟩
  · have hends : piped = .ofHalt halt := congrArg Prod.fst (run_of_halt hpiped around)
    have hends' : opened = .ofHalt halt' := congrArg Prod.fst (run_of_halt hopened around')
    refine ⟨?_, ?_, ?_⟩
    · rw [hends, hends']
      exact halike.outcome
    · intro request hrequest
      rw [hpiped] at hrequest
      cases hrequest
    · intro stdin
      rw [run_of_halt hopened, run_of_halt hopened]
  · have hends : piped = (OutlineRequest.run around #[] { request with input := "-" }).1 :=
      fst_run_of_request hpiped around
    have hends' : opened = (OutlineRequest.run around' #[] { request with input := path }).1 :=
      fst_run_of_request hopened around'
    have hloaded := hsettings _ hpiped
    refine ⟨?_, ?_, ?_⟩
    · rw [hends, hends']
      exact OutlineRequest.run_of_same_bytes hstdin hfound hloaded
    · intro request' hrequest
      obtain rfl := Request.outline.inj (Except.ok.inj (hpiped.symm.trans hrequest))
      rw [hends, hends']
      exact OutlineRequest.reports_of_same_bytes hstdin hfound hloaded
    · intro stdin
      rw [run, run, hopened]
      exact OutlineRequest.run_with_stdin { request with input := path } hfile around' stdin #[]

/-- A word on standard input and in a file, which is no response. -/
theorem word_refused_alike :
    let around : Surroundings := ⟨fun _ => none, "word".toUTF8⟩
    let around' : Surroundings :=
      ⟨fun p => if p = "s.json" then some (.file "word".toUTF8) else none, ByteArray.empty⟩
    let piped := (run around ["outline", "--no-sort", "-", "-f", "json"]).1
    let opened := (run around' ["outline", "--no-sort", "s.json", "-f", "json"]).1
    (opened.exitCode = piped.exitCode ∧ opened.stdout = piped.stdout)
      ∧ ∃ behind, piped.stderr = "Error: Failed to parse symbols from -\n" ++ behind
        ∧ opened.stderr = "Error: Failed to parse symbols from s.json\n" ++ behind := by
  intro around around' piped opened
  have hawaits : ¬AwaitsValue ["--no-sort"] := by
    rintro ⟨s, hlast⟩
    cases hlast
  have hpath : Word.ofArgument "s.json" = .plain ∨ "--" ∈ ["--no-sort"] := .inl (by decide)
  have hbytes : around'.files "s.json" = some (.file around.stdin) := rfl
  have hrequest : Request.ofArguments ("outline" :: (["--no-sort"] ++ "-" :: ["-f", "json"]))
      = .ok (.outline { input := "-", format := .json, noSort := true }) := rfl
  have hsettings : ∀ request, Request.ofArguments
      ("outline" :: (["--no-sort"] ++ "-" :: ["-f", "json"])) = .ok (.outline request) →
        (loadSettings around'.files #[] request.config).1
          = (loadSettings around.files #[] request.config).1 := by
    intro request h
    obtain rfl := Request.outline.inj (Except.ok.inj (hrequest.symm.trans h))
    refine congrArg Prod.fst (loadSettings_congr (fun p hp => if_neg ?_) #[])
    exact (by decide : ∀ p ∈ settingsPaths none, p ≠ "s.json") p hp
  have hrefused : (Response.parse "word".toList).toBool = false := by decide +kernel
  obtain ⟨hsame, hreports, -⟩ :=
    stdin_agrees_with_file hawaits hpath (by decide) (by decide) hbytes hsettings
  obtain ⟨-, hreport⟩ := hreports _ hrequest
  refine ⟨hsame, ?_⟩
  cases hparse : Response.parse "word".toList with
  | ok symbols =>
    rw [hparse] at hrefused
    cases hrefused
  | error e => exact hreport {} "word" e rfl (dif_pos "word".isValidUTF8) hparse

end SymbolOutline.CommandLine
