import SymbolOutline.CommandLine.Kinds
import SymbolOutline.CommandLine.Outline

/-!
# Running the program

`run` says how the program ends for given arguments and surroundings:
arguments come first, then settings, then the input. An `Outcome` fixes the
exit code and what is printed; nothing is printed before the end is known.
-/

namespace SymbolOutline.CommandLine

def programName : String := "symtidy"

def version : String := "0.1.0"

/-- How a run ends. -/
inductive Outcome where
  | printed (text : String)
  | failed (failure : Failure)
  | misused (e : UsageError)
  | crashed (e : IndentError)

/-- The settings with the changes asked for on the command line. -/
def OutlineRequest.override (request : OutlineRequest) (settings : Settings) : Settings :=
  { settings with
    outline :=
      { sort := settings.outline.sort && !request.noSort
        maxDepth := request.maxDepth.or settings.outline.maxDepth } }

/-- The settings of a file, or those found from the working directory, which
are then logged as a whole. -/
def loadSettings (files : Files) (log : Log) (config : Option String) :
    Except LoadError Settings × Log :=
  match config with
  | some path => Settings.load files log path
  | none =>
    match Settings.discover files log "." with
    | (.ok settings, log) => (.ok settings, log.push (.usingSettings settings))
    | (.error e, log) => (.error e, log)

/-- That settings are logged does not change them. -/
theorem fst_loadSettings_none (files : Files) (log : Log) :
    (loadSettings files log none).1 = (Settings.discover files log ".").1 := by
  rw [loadSettings]
  rcases Settings.discover files log "." with ⟨e | settings, log⟩ <;> rfl

def OutlineRequest.run (around : Surroundings) (log : Log) (request : OutlineRequest) :
    Outcome × Log :=
  match loadSettings around.files log request.config with
  | (.error e, log) => (.failed (.settings request.config e), log)
  | (.ok settings, log) =>
    match outlineOutput around request.input request.format (request.override settings) log with
    | (.ok text, log) => (.printed text, log)
    | (.error (.failed failure), log) => (.failed failure, log)
    | (.error (.crashed e), log) => (.crashed e, log)

def Request.run (around : Surroundings) (log : Log) : Request → Outcome × Log
  | .outline request => request.run around log
  | .kinds format => (.printed (kindsOutput format), log)

/-- A text for help and for misuse, in this library's own words: it tells neither
all options nor what is wrong with the arguments. -/
def usage : String :=
  "Usage: " ++ programName ++ " outline [OPTIONS] <INPUT>\n"
    ++ "       " ++ programName ++ " kinds [OPTIONS]\n"

def run (around : Surroundings) (arguments : List String) : Outcome × Log :=
  match Request.ofArguments arguments with
  | .ok request => request.run around #[]
  | .error .help => (.printed usage, #[])
  | .error .version => (.printed (programName ++ " " ++ version ++ "\n"), #[])
  | .error (.misuse e) => (.misused e, #[])

namespace Outcome

def exitCode : Outcome → UInt32
  | printed _ => 0
  | failed _ => 1
  | misused _ => 2
  | crashed _ => 101

def stdout : Outcome → String
  | printed text => text
  | failed _ | misused _ | crashed _ => ""

/-- What is told of a failure. Of a misuse it is no more than `usage`, and of a
settings file that is no TOML document only the head of the report on it. -/
def stderr : Outcome → String
  | printed _ => ""
  | failed failure => failure.report
  | misused _ => usage
  | crashed e => e.message ++ "\n"

end Outcome

end SymbolOutline.CommandLine
