import SymbolOutline.Text.Split

/-!
# Files

`Files` says what each path leads to, as seen from the working directory.
`Stored.text` is the text of a file, `decodeText` that of bytes.
-/

namespace SymbolOutline

/-- What a path leads to. -/
inductive Stored where
  | file (bytes : ByteArray)
  | directory
  /-- Something that is there and cannot be read, for a reason the system gives. -/
  | unreadable (reason : String)

/-- The parts of a path between its slashes. -/
def pathParts (path : String) : List String := (Text.split '/' path.toList).map String.ofList

/-- What paths lead to; `none` for a path that leads nowhere. -/
abbrev Files := String → Option Stored

/-- Why bytes could not be read as a text. -/
inductive FileError where
  | directory
  | encoding
  /-- The system refuses to read. -/
  | refused (reason : String)
  deriving DecidableEq, Repr

def FileError.message : FileError → String
  | directory => "Is a directory (os error 21)"
  | encoding => "stream did not contain valid UTF-8"
  | refused reason => reason

/-- The text with the given bytes in UTF-8. -/
def decodeText (bytes : ByteArray) : Except FileError (List Char) :=
  match String.fromUTF8? bytes with
  | some text => .ok text.toList
  | none => .error .encoding

theorem decodeText_toUTF8 (text : String) : decodeText text.toUTF8 = .ok text.toList := by
  have h : String.fromUTF8? text.toUTF8 = some text := dif_pos text.isValidUTF8
  rw [decodeText, h]

def Stored.text : Stored → Except FileError (List Char)
  | file bytes => decodeText bytes
  | directory => .error .directory
  | unreadable reason => .error (.refused reason)

theorem Stored.text_toUTF8 (text : String) : (file text.toUTF8).text = .ok text.toList :=
  decodeText_toUTF8 text

end SymbolOutline
