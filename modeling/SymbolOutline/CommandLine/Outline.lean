import SymbolOutline.CommandLine.Arguments
import SymbolOutline.CommandLine.Failure
import SymbolOutline.Outline.Build
import SymbolOutline.Outline.Json

/-!
# The outline command

`outlineOutput` reads a response, builds its outline and writes it in the
format asked for. `-` stands for standard input.
-/

namespace SymbolOutline.CommandLine

/-- What a run gets from outside. -/
structure Surroundings where
  files : Files
  /-- All of standard input, which can always be read to its end. -/
  stdin : ByteArray

/-- Whether a path is `-`, with or without slashes and dots after it. -/
def isStdin (path : String) : Bool :=
  match path.toList with
  | ['-'] => true
  | '-' :: '/' :: rest => (pathParts (String.ofList rest)).all (· ∈ ["", "."])
  | _ => false

def readInput (around : Surroundings) (input : String) : Except Failure (List Char) :=
  if isStdin input then (decodeText around.stdin).mapError .unreadableStdin
  else
    match around.files input with
    | none => .error (.noInput input)
    | some stored => stored.text.mapError (.unreadableInput input)

/-- The outline of a response's text, written in a format. -/
def outlineText (format : Format) (settings : Settings) (log : Log) (symbols : List Symbol) :
    Except IndentError String × Log :=
  let (outline, log) := Outline.build settings.outline log symbols
  match format with
  | .json => (.ok outline.jsonText, log)
  | .text => (outline.render settings.render, log)

def outlineOutput (around : Surroundings) (input : String) (format : Format)
    (settings : Settings) (log : Log) : Except CommandError String × Log :=
  match readInput around input with
  | .error failure => (.error (.failed failure), log)
  | .ok text =>
    match Response.parse text with
    | .error e => (.error (.failed (.badInput input text e)), log)
    | .ok symbols =>
      let (output, log) :=
        outlineText format settings (log.push (.readSymbols symbols.length input)) symbols
      (output.mapError .crashed, log)

end SymbolOutline.CommandLine
