import SymbolOutline.Json.Value
import SymbolOutline.Text.Hex

/-!
# Writing JSON

`Json.compact` writes a value without blanks. `Json.pretty` gives every item
and member a line of its own, indented by two spaces per bracket.
-/

namespace SymbolOutline.Json

/-- A character inside quotes. Quotes, backslashes and control characters are escaped. -/
def escapeChar (c : Char) : List Char :=
  if c = '"' then ['\\', '"']
  else if c = '\\' then ['\\', '\\']
  else if c = '\x08' then ['\\', 'b']
  else if c = '\x0c' then ['\\', 'f']
  else if c = '\n' then ['\\', 'n']
  else if c = '\r' then ['\\', 'r']
  else if c = '\t' then ['\\', 't']
  else if c < ' ' then
    ['\\', 'u', '0', '0', Hex.digit (c.toNat / 16), Hex.digit (c.toNat % 16)]
  else [c]

def quote (s : String) : List Char := '"' :: (s.toList.flatMap escapeChar ++ ['"'])

def Number.text : Number → List Char
  | integer i => Decimal.digitsInt i
  | real significand exponent =>
    Decimal.digitsInt significand ++ 'e' :: Decimal.digitsInt exponent

mutual

def compact : Json → List Char
  | null => "null".toList
  | bool true => "true".toList
  | bool false => "false".toList
  | number n => n.text
  | string s => quote s
  | array items => '[' :: (compactItems items ++ [']'])
  | object members => '\x7b' :: (compactMembers members ++ ['\x7d'])

def compactItems : List Json → List Char
  | [] => []
  | [item] => compact item
  | item :: rest => compact item ++ ',' :: compactItems rest

def compactMembers : List (String × Json) → List Char
  | [] => []
  | [(key, v)] => quote key ++ ':' :: compact v
  | (key, v) :: rest => quote key ++ ':' :: (compact v ++ ',' :: compactMembers rest)

end

/-- A new line inside so many brackets. -/
def newline (depth : Nat) : List Char := '\n' :: List.replicate (2 * depth) ' '

mutual

/-- A value inside so many brackets. -/
def pretty (depth : Nat) : Json → List Char
  | null => "null".toList
  | bool true => "true".toList
  | bool false => "false".toList
  | number n => n.text
  | string s => quote s
  | array [] => ['[', ']']
  | array items => '[' :: (prettyItems (depth + 1) items ++ newline depth ++ [']'])
  | object [] => ['\x7b', '\x7d']
  | object members =>
    '\x7b' :: (prettyMembers (depth + 1) members ++ newline depth ++ ['\x7d'])

def prettyItems (depth : Nat) : List Json → List Char
  | [] => []
  | [item] => newline depth ++ pretty depth item
  | item :: rest => newline depth ++ pretty depth item ++ ',' :: prettyItems depth rest

def prettyMembers (depth : Nat) : List (String × Json) → List Char
  | [] => []
  | [(key, v)] => newline depth ++ quote key ++ ':' :: ' ' :: pretty depth v
  | (key, v) :: rest =>
    newline depth ++ quote key ++ ':' :: ' ' :: (pretty depth v ++ ',' :: prettyMembers depth rest)

end

end SymbolOutline.Json
