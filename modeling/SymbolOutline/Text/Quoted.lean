import SymbolOutline.Text.Hex
import SymbolOutline.Text.Visible

/-!
# Quoted text

`Text.quoted` writes a text in double quotes so that every character of it can
be seen: quotes and backslashes are escaped, and characters that are not
visible are written by their code points.
-/

namespace SymbolOutline.Text

def visibleForm (c : Char) : List Char :=
  if c = '"' then ['\\', '"']
  else if c = '\\' then ['\\', '\\']
  else if c = '\x00' then ['\\', '0']
  else if c = '\t' then ['\\', 't']
  else if c = '\n' then ['\\', 'n']
  else if c = '\r' then ['\\', 'r']
  else if isVisible c then [c]
  else '\\' :: 'u' :: '\x7b' :: (Hex.digits c.toNat ++ ['\x7d'])

def quoted (s : String) : String :=
  String.ofList ('"' :: (s.toList.flatMap visibleForm ++ ['"']))

example : quoted "a\t\x22\x07" = "\"a\\t\\\"\\u\x7b7\x7d\"" := by decide +kernel

end SymbolOutline.Text
