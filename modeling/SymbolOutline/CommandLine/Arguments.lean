import SymbolOutline.Text.Decimal

/-!
# Command-line arguments

`Request.ofArguments` reads what a user asks for. Switches may stand before
and after the input, each at most once; the value of a switch is attached to
it or is the next argument. After `--` nothing is a switch.
-/

namespace SymbolOutline.CommandLine

/-! ## Requests -/

inductive Format where
  | text
  | json
  deriving DecidableEq, Repr, Inhabited

structure OutlineRequest where
  /-- Where the symbols are. -/
  input : String
  format : Format := .text
  /-- The settings file to use instead of looking for one. -/
  config : Option String := none
  noSort : Bool := false
  maxDepth : Option Nat := none
  deriving DecidableEq, Repr

inductive Request where
  | outline (request : OutlineRequest)
  | kinds (format : Format)
  deriving DecidableEq, Repr

inductive UsageError where
  | noCommand
  | unknownCommand (name : String)
  | unknownSwitch (argument : String)
  | unexpectedArgument (argument : String)
  | unexpectedValue (argument : String)
  | missingValue (switch : String)
  | invalidValue (switch value : String)
  | repeated (switch : String)
  | noInput
  deriving DecidableEq, Repr

/-- What ends the reading of arguments without a request. -/
inductive Halt where
  | help
  | version
  | misuse (e : UsageError)
  deriving DecidableEq, Repr

inductive Command where
  | outline
  | kinds
  deriving DecidableEq, Repr

inductive Switch where
  | format
  | config
  | noSort
  | maxDepth
  | help
  deriving DecidableEq, Repr

def Command.ofName? : String → Option Command
  | "outline" => some outline
  | "kinds" => some kinds
  | _ => none

def Command.switches : Command → List Switch
  | outline => [.format, .config, .noSort, .maxDepth, .help]
  | kinds => [.format, .help]

def Switch.long : Switch → String
  | format => "format"
  | config => "config"
  | noSort => "no-sort"
  | maxDepth => "max-depth"
  | help => "help"

def Switch.short? : Switch → Option Char
  | format => some 'f'
  | config => some 'c'
  | help => some 'h'
  | noSort | maxDepth => none

def Switch.takesValue : Switch → Bool
  | format | config | maxDepth => true
  | noSort | help => false

/-! ## Tokens -/

/-- How an argument reads before `--`. -/
inductive Word where
  | separator
  /-- The text after two hyphens, up to and after the first equals sign. -/
  | long (name : String) (value : Option String)
  /-- A letter after one hyphen, and what follows it. -/
  | short (letter : Char) (rest : List Char)
  | plain
  deriving DecidableEq, Repr

def Word.ofArgument (argument : String) : Word :=
  match argument.toList with
  | ['-', '-'] => separator
  | '-' :: '-' :: text =>
    let name := String.ofList (text.takeWhile (· ≠ '='))
    match text.dropWhile (· ≠ '=') with
    | [] => long name none
    | _ :: value => long name (some (String.ofList value))
  | '-' :: letter :: rest => short letter rest
  | _ => plain

/-- The switch an argument names, with the value attached to it; a letter has
an equals sign before its value or not. -/
def Word.switch? (command : Command) : Word → Option (Switch × Option String)
  | long name value => (command.switches.find? (·.long = name)).map (·, value)
  | short letter rest =>
    (command.switches.find? (·.short? = some letter)).map fun switch =>
      match switch.takesValue, rest with
      | false, _ | true, [] => (switch, none)
      | true, '=' :: value | true, value => (switch, some (String.ofList value))
  | separator | plain => none

/-- One or two arguments that belong together. -/
inductive Token where
  | input (argument : String)
  | switch (switch : Switch)
  | setting (switch : Switch) (value : String)
  | misuse (e : UsageError)
  deriving DecidableEq, Repr

/-- The tokens of a command's arguments, up to the first misuse. -/
def Token.ofArguments (command : Command) : List String → List Token
  | [] => []
  | argument :: rest =>
    match Word.ofArgument argument with
    | .separator => rest.map input
    | .plain => input argument :: ofArguments command rest
    | word =>
      match word.switch? command with
      | none => [misuse (.unknownSwitch argument)]
      | some (s, some value) => setting s value :: ofArguments command rest
      | some (s, none) =>
        if s.takesValue then
          match rest with
          | [] => [misuse (.missingValue s.long)]
          | value :: rest =>
            if Word.ofArgument value = .plain then setting s value :: ofArguments command rest
            else [misuse (.missingValue s.long)]
        else switch s :: ofArguments command rest

/-! ## Values -/

def Format.ofName? : String → Option Format
  | "text" => some text
  | "json" => some json
  | _ => none

/-- A number of 64 bits, with or without a plus sign. -/
def count? (text : String) : Option Nat :=
  let digits :=
    match text.toList with
    | '+' :: rest => rest
    | digits => digits
  if digits ≠ [] ∧ digits.all Decimal.isDigit ∧ Decimal.value digits < Nat.pow 2 64 then
    some (Decimal.value digits)
  else none

/-- A path, which is never empty. -/
def path? (text : String) : Option String := if text = "" then none else some text

/-! ## Reading -/

/-- What has been read of a request. -/
structure Draft where
  input : Option String := none
  format : Option Format := none
  config : Option String := none
  noSort : Bool := false
  maxDepth : Option Nat := none

/-- The value of a switch that has none so far. -/
def value? {α : Type} (switch : Switch) (old : Option α) (read? : String → Option α)
    (value : String) : Except Halt (Option α) :=
  match old, read? value with
  | some _, _ => .error (.misuse (.repeated switch.long))
  | none, none => .error (.misuse (.invalidValue switch.long value))
  | none, some a => .ok (some a)

namespace Draft

/-- Takes in a switch with its value. -/
def set (d : Draft) (switch : Switch) (value : String) : Except Halt Draft :=
  match switch with
  | .format => do return { d with format := ← value? switch d.format Format.ofName? value }
  | .config => do return { d with config := ← value? switch d.config path? value }
  | .maxDepth => do return { d with maxDepth := ← value? switch d.maxDepth count? value }
  | .noSort | .help => .error (.misuse (.unexpectedValue switch.long))

/-- Takes in a switch without a value. -/
def turnOn (d : Draft) (switch : Switch) : Except Halt Draft :=
  match switch with
  | .help => .error .help
  | .noSort =>
    if d.noSort then .error (.misuse (.repeated switch.long)) else .ok { d with noSort := true }
  | .format | .config | .maxDepth => .error (.misuse (.missingValue switch.long))

/-- Takes in an argument that is no switch. -/
def addInput (d : Draft) (command : Command) (argument : String) : Except Halt Draft :=
  match command, d.input with
  | .outline, none =>
    match path? argument with
    | some path => .ok { d with input := some path }
    | none => .error (.misuse (.invalidValue "input" argument))
  | _, _ => .error (.misuse (.unexpectedArgument argument))

def add (command : Command) (d : Draft) : Token → Except Halt Draft
  | .input argument => d.addInput command argument
  | .switch s => d.turnOn s
  | .setting s value => d.set s value
  | .misuse e => .error (.misuse e)

def request (d : Draft) : Command → Except Halt Request
  | .kinds => .ok (.kinds (d.format.getD .text))
  | .outline =>
    match d.input with
    | none => .error (.misuse .noInput)
    | some input =>
      .ok (.outline
        { input, format := d.format.getD .text, config := d.config, noSort := d.noSort,
          maxDepth := d.maxDepth })

end Draft

/-- What is asked for after the name of a command, or after `help`. -/
def helpFor : List String → Halt
  | [] => .help
  | name :: rest =>
    if name = "help" ∨ (Command.ofName? name).isSome then
      match name, rest with
      | _, [] => .help
      | _, name :: _ => .misuse (.unknownCommand name)
    else .misuse (.unknownCommand name)

def Request.ofArguments : List String → Except Halt Request
  | [] => .error (.misuse .noCommand)
  | argument :: rest =>
    match Command.ofName? argument with
    | some command => do
      let d ← (Token.ofArguments command rest).foldlM (Draft.add command) {}
      d.request command
    | none =>
      if argument = "help" then .error (helpFor rest)
      else
        match Word.ofArgument argument with
        | .long "help" none | .short 'h' _ => .error .help
        | .long "version" none | .short 'V' _ => .error .version
        | .long .. | .short .. => .error (.misuse (.unknownSwitch argument))
        | .separator => .error (.misuse .noCommand)
        | .plain => .error (.misuse (.unknownCommand argument))

end SymbolOutline.CommandLine
