import SymbolOutline.Url.Domain

/-!
# Absolute addresses

`Url.isAbsolute` accepts the texts that name a resource by themselves: a
scheme, and after it what the scheme calls for. Web schemes need a host, files
may have one, and all others take nearly anything.
-/

namespace SymbolOutline.Url

inductive SchemeKind where
  /-- A host must follow, whatever the number of slashes. -/
  | web
  | file
  | other
  deriving DecidableEq, Repr

def SchemeKind.ofName (scheme : List Char) : SchemeKind :=
  let name := String.ofList (scheme.map Char.toLower)
  if name ∈ ["http", "https", "ws", "wss", "ftp"] then .web
  else if name = "file" then .file
  else .other

/-- The scheme of a text, and what follows its colon. -/
def scheme? (text : List Char) : Option (List Char × List Char) :=
  let isInner (c : Char) : Bool := c.isAlphanum || c = '+' || c = '-' || c = '.'
  match text with
  | [] => none
  | c :: _ =>
    match text.dropWhile isInner with
    | ':' :: rest => if c.isAlpha then some (text.takeWhile isInner, rest) else none
    | _ => none

/-! ## Hosts -/

/-- A text in brackets is an address. -/
def bracketed? : List Char → Option (List Char)
  | '[' :: rest => some rest
  | _ => none

def isBracketedAddress (inner : List Char) : Bool :=
  inner.getLast? = some ']' && isAddress6 inner.dropLast

/-- A host of a web scheme or of a file. -/
def isHost (host : List Char) : Bool :=
  match bracketed? host with
  | some inner => isBracketedAddress inner
  | none => isDomain host

/-- A host of another scheme, which may be empty. -/
def isOpaqueHost (host : List Char) : Bool :=
  match bracketed? host with
  | some inner => isBracketedAddress inner
  | none => host.all fun c => !"\x00 #/:<>?@[\\]^|".toList.contains c

/-- The host, up to a colon outside brackets, and what follows it. -/
def untilColon (inBrackets : Bool) : List Char → List Char × List Char
  | [] => ([], [])
  | c :: rest =>
    if c = ':' ∧ !inBrackets then ([], c :: rest)
    else
      let (host, rest) := untilColon (if c = '[' then true else c ≠ ']' && inBrackets) rest
      (c :: host, rest)

/-- What follows a host: nothing, or a colon and a port. -/
def isPort : List Char → Bool
  | [] => true
  | _ :: rest =>
    Decimal.value (rest.takeWhile Decimal.isDigit) ≤ 65535
      && match rest.dropWhile Decimal.isDigit with
        | [] | '\\' :: _ => true
        | _ => false

/-- The parts of an authority before and after its last at sign. -/
def userAndPlace (authority : List Char) : Option (List Char) × List Char :=
  let place := (authority.reverse.takeWhile (· ≠ '@')).reverse
  if place.length = authority.length then (none, place)
  else (some (authority.take (authority.length - place.length - 1)), place)

/-- An authority with what follows it. -/
def isAuthority (kind : SchemeKind) (text : List Char) : Bool :=
  let ends (c : Char) : Bool := c = '/' || c = '?' || c = '#' || (c = '\\' && kind = .web)
  let (user, place) := userAndPlace (text.takeWhile (!ends ·))
  let (host, port) := untilColon false place
  match host with
  | [] =>
    -- A user needs a host; an empty one needs it only if something follows.
    kind = .other && port = []
      && match user with
        | none | some [':'] => true
        | some [] => (text.dropWhile (!ends ·)).isEmpty
        | some _ => false
  | host => (if kind = .web then isHost host else isOpaqueHost host) && isPort port

/-! ## Addresses -/

def isSlash (c : Char) : Bool := c = '/' || c = '\\'

/-- A host of a file may be missing, or a drive letter in its place. -/
def isFileHost : List Char → Bool
  | [] => true
  | [c, d] => (c.isAlpha && (d = ':' || d = '|')) || isHost [c, d]
  | host => isHost host

def isFilePart : List Char → Bool
  | c :: d :: rest =>
    if isSlash c ∧ isSlash d then
      isFileHost (rest.takeWhile fun c => !isSlash c && c ≠ '?' && c ≠ '#')
    else true
  | _ => true

/-- The text without blanks and control characters around it, and without tabs
and newlines. -/
def trimmed (text : List Char) : List Char :=
  let inner := ((text.dropWhile (· ≤ ' ')).reverse.dropWhile (· ≤ ' ')).reverse
  inner.filter fun c => c ≠ '\t' && c ≠ '\n' && c ≠ '\r'

def isAbsolute (text : String) : Bool :=
  match scheme? (trimmed text.toList) with
  | none => false
  | some (scheme, rest) =>
    match SchemeKind.ofName scheme with
    | .web => isAuthority .web (rest.dropWhile isSlash)
    | .file => isFilePart rest
    | .other =>
      match rest with
      | '/' :: '/' :: authority => isAuthority .other authority
      | _ => true

end SymbolOutline.Url
