import SymbolOutline.Outline.Text
import SymbolOutline.Response.Basic
import SymbolOutline.Settings.Load

/-!
# Failures

A `Failure` is what keeps a command from its output, and `Failure.report`
tells it with the errors behind it. A `CommandError` is a failure or an
outline that cannot be indented.
-/

namespace SymbolOutline.CommandLine

inductive Failure where
  /-- The settings of a file, or of the working directory, could not be loaded. -/
  | settings (config : Option String) (e : LoadError)
  | noInput (path : String)
  | unreadableInput (path : String) (e : FileError)
  | unreadableStdin (e : FileError)
  /-- The text from a source is not a response. -/
  | badInput (source : String) (text : List Char) (e : ResponseError)
  deriving DecidableEq

inductive CommandError where
  | failed (failure : Failure)
  | crashed (e : IndentError)
  deriving DecidableEq

namespace Failure

/-- The messages of the failure and of the errors behind it, outermost first. -/
def chain : Failure → List String
  | settings (some path) e => ("Failed to load config: " ++ path) :: e.chain
  | settings none e => "Failed to load config from current directory" :: e.chain
  | noInput path => ["Input file not found: " ++ path]
  | unreadableInput path e => ["Failed to read input file: " ++ path, e.message]
  | unreadableStdin e => ["Failed to read symbols from stdin", e.message]
  | badInput source text e =>
    ["Failed to parse symbols from " ++ source, "Invalid symbol input: " ++ e.message text,
      e.message text]

/-- A message with a mark before its first line and blanks before the others. -/
def indented (mark : String) (message : String) : String :=
  let margin := List.replicate mark.length ' '
  mark ++ String.ofList
    (message.toList.flatMap fun c => if c = '\n' then '\n' :: margin else [c])

/-- The causes with their numbers, if there are several. -/
def causes : List String → List String
  | [cause] => [indented "    " cause]
  | all => all.mapIdx fun i cause => indented s!"    {i}: " cause

def report (f : Failure) : String :=
  match f.chain with
  | [] => ""
  | [message] => "Error: " ++ message ++ "\n"
  | message :: behind =>
    "Error: " ++ message ++ "\n\nCaused by:\n"
      ++ String.join ((causes behind).map (· ++ "\n"))

end Failure

end SymbolOutline.CommandLine
