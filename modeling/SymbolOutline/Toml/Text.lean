import SymbolOutline.Text.Hex

/-!
# Strings and white space of TOML

Every function takes its part off the front of a text and returns what is
left; `none` means that the text cannot go on like this in a TOML document.
-/

namespace SymbolOutline.Toml

open Decimal (isDigit)

/-- A character that may stand in a comment: anything but control characters
other than tab. -/
def isPlain (c : Char) : Bool := c = '\t' || (' ' ≤ c && c ≠ '\x7f')

def isBlank (c : Char) : Bool := c = ' ' || c = '\t'

def skipBlanks (text : List Char) : List Char := text.dropWhile isBlank

/-- The text after a newline. -/
def newline? : List Char → Option (List Char)
  | '\n' :: rest => some rest
  | '\r' :: '\n' :: rest => some rest
  | _ => none

/-- Leaves out a comment, but not the newline after it. -/
def skipComment : List Char → List Char
  | '#' :: rest => rest.dropWhile isPlain
  | text => text

/-- The text after the end of a line, which may have blanks and a comment. -/
def lineEnd? (text : List Char) : Option (List Char) :=
  match skipComment (skipBlanks text) with
  | [] => some []
  | rest => newline? rest

/-- Leaves out blanks, comments and newlines, which all may stand between the
items of an array. -/
def skipLayout (fuel : Nat) (text : List Char) : List Char :=
  match fuel with
  | 0 => text
  | fuel + 1 =>
    match newline? (skipComment (skipBlanks text)) with
    | some rest => skipLayout fuel rest
    | none => skipComment (skipBlanks text)

/-! ## Strings -/

/-- The value of so many hexadecimal digits. -/
def hexNumber? (value : Nat) : Nat → List Char → Option (Nat × List Char)
  | 0, text => some (value, text)
  | _ + 1, [] => none
  | count + 1, c :: rest =>
    match Hex.value? c with
    | some d => hexNumber? (16 * value + d) count rest
    | none => none

/-- The character with a code of so many hexadecimal digits. -/
def codePoint? (count : Nat) (text : List Char) : Option (Char × List Char) :=
  match hexNumber? 0 count text with
  | some (n, rest) => if n.isValidChar then some (Char.ofNat n, rest) else none
  | none => none

/-- The character of an escape, after its backslash. -/
def escape? : List Char → Option (Char × List Char)
  | 'b' :: rest => some ('\x08', rest)
  | 't' :: rest => some ('\t', rest)
  | 'n' :: rest => some ('\n', rest)
  | 'f' :: rest => some ('\x0c', rest)
  | 'r' :: rest => some ('\r', rest)
  | '"' :: rest => some ('"', rest)
  | '\\' :: rest => some ('\\', rest)
  | 'u' :: rest => codePoint? 4 rest
  | 'U' :: rest => codePoint? 8 rest
  | _ => none

/-- A string in single quotes, after the first one. Nothing is escaped. -/
def literalString? (text : List Char) : Option (String × List Char) :=
  match text.dropWhile fun c => isPlain c && c ≠ '\'' with
  | '\'' :: rest => some (String.ofList (text.takeWhile fun c => isPlain c && c ≠ '\''), rest)
  | _ => none

/-- A string in double quotes, after the first one; `read` is newest first. -/
def basicString? (fuel : Nat) (read text : List Char) : Option (String × List Char) :=
  match fuel, text with
  | _, '"' :: rest => some (String.ofList read.reverse, rest)
  | fuel + 1, '\\' :: rest =>
    match escape? rest with
    | some (c, rest) => basicString? fuel (c :: read) rest
    | none => none
  | fuel + 1, c :: rest => if isPlain c then basicString? fuel (c :: read) rest else none
  | _, _ => none

/-- The closing quotes of a string on several lines, after the first three;
up to two more belong to the string. -/
def closeQuotes (quote : Char) (read : List Char) : List Char → String × List Char
  | c :: d :: rest =>
    if c = quote then
      if d = quote then (String.ofList (quote :: quote :: read).reverse, rest)
      else (String.ofList (quote :: read).reverse, d :: rest)
    else (String.ofList read.reverse, c :: d :: rest)
  | [c] =>
    if c = quote then (String.ofList (quote :: read).reverse, [])
    else (String.ofList read.reverse, [c])
  | [] => (String.ofList read.reverse, [])

/-- Leaves out blanks and newlines. -/
def skipLines (fuel : Nat) (text : List Char) : List Char :=
  match fuel, newline? (skipBlanks text) with
  | fuel + 1, some rest => skipLines fuel rest
  | _, _ => skipBlanks text

/-- A string in three single quotes, after the first three. -/
def literalLines? (fuel : Nat) (read text : List Char) : Option (String × List Char) :=
  match fuel, text with
  | _, '\'' :: '\'' :: '\'' :: rest => some (closeQuotes '\'' read rest)
  | fuel + 1, c :: rest =>
    match newline? (c :: rest) with
    | some rest => literalLines? fuel ('\n' :: read) rest
    | none => if isPlain c then literalLines? fuel (c :: read) rest else none
  | _, _ => none

/-- A string in three double quotes, after the first three. A backslash at the
end of a line takes all white space after it along. -/
def basicLines? (fuel : Nat) (read text : List Char) : Option (String × List Char) :=
  match fuel, text with
  | _, '"' :: '"' :: '"' :: rest => some (closeQuotes '"' read rest)
  | fuel + 1, '\\' :: rest =>
    match escape? rest with
    | some (c, rest) => basicLines? fuel (c :: read) rest
    | none =>
      match newline? (skipBlanks rest) with
      | some rest => basicLines? fuel read (skipLines rest.length rest)
      | none => none
  | fuel + 1, c :: rest =>
    match newline? (c :: rest) with
    | some rest => basicLines? fuel ('\n' :: read) rest
    | none => if isPlain c then basicLines? fuel (c :: read) rest else none
  | _, _ => none

/-- A newline right after the opening quotes does not belong to the string. -/
def dropFirstNewline (text : List Char) : List Char := (newline? text).getD text

/-- A string of any form. -/
def string? : List Char → Option (String × List Char)
  | '"' :: '"' :: '"' :: rest => basicLines? rest.length [] (dropFirstNewline rest)
  | '"' :: rest => basicString? rest.length [] rest
  | '\'' :: '\'' :: '\'' :: rest => literalLines? rest.length [] (dropFirstNewline rest)
  | '\'' :: rest => literalString? rest
  | _ => none

end SymbolOutline.Toml
