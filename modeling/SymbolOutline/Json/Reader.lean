import SymbolOutline.Json.Scalar
import SymbolOutline.Machine

/-!
# Reading JSON

`Json.read` reads one value off the front of a text. It is a `Step` machine:
its stack holds the arrays and objects around the place it has reached, its
phase says what may come next there. At most `maxDepth` of them may be open.
-/

namespace SymbolOutline.Json

namespace Reader

/-- An array or object around the value being read, newest part first. -/
inductive Open where
  | array (items : List Json)
  /-- An object whose value for `key` is being read. -/
  | object (members : List (String × Json)) (key : String)

/-- What may come next. Parts already read stand newest first. -/
inductive Phase where
  | value
  /-- After `[`. -/
  | arrayStart
  /-- After a comma between items. -/
  | arrayItem (items : List Json)
  /-- After an item. -/
  | arrayMore (items : List Json)
  /-- After an opening brace. -/
  | objectStart
  /-- After a comma between members. -/
  | objectKey (members : List (String × Json))
  | objectColon (members : List (String × Json)) (key : String)
  /-- After a member. -/
  | objectMore (members : List (String × Json))

/-- The fault of a text that ends here. -/
def Phase.endFault : Phase → Fault
  | value | arrayItem _ | objectKey _ => .valueEnd
  | arrayStart | arrayMore _ => .listEnd
  | objectStart | objectColon .. | objectMore _ => .objectEnd

structure State where
  phase : Phase
  /-- What is open around the phase, innermost first. -/
  stack : List Open
  text : List Char

/-- The value and the text after it, or what is wrong with the text. -/
abbrev Result := Except ReadError (Json × List Char)

def isBlank (c : Char) : Bool := c = ' ' || c = '\t' || c = '\n' || c = '\r'

/-- The most brackets that may be open at once. -/
def maxDepth : Nat := 127

def refuse (e : ReadError) : Step State Result := .done (.error e)

/-- Goes on after a value that is complete. -/
def finish (v : Json) (stack : List Open) (text : List Char) : Step State Result :=
  match stack with
  | [] => .done (.ok (v, text))
  | .array items :: stack => .next ⟨.arrayMore (v :: items), stack, text⟩
  | .object members key :: stack => .next ⟨.objectMore ((key, v) :: members), stack, text⟩

/-- Opens a bracket unless too many are open. -/
def enter (phase : Phase) (stack : List Open) (c : Char) (rest : List Char) : Step State Result :=
  if stack.length < maxDepth then .next ⟨phase, stack, rest⟩
  else refuse (.here .recursionLimit (c :: rest))

/-- Goes on after a word. -/
def finishWord (v : Json) (stack : List Open) (found : Except ReadError (List Char)) :
    Step State Result :=
  match found with
  | .error e => refuse e
  | .ok rest => finish v stack rest

/-- Starts the value whose first character is `c`. -/
def start (stack : List Open) (c : Char) (rest : List Char) : Step State Result :=
  if c = '[' then enter .arrayStart stack c rest
  else if c = '\x7b' then enter .objectStart stack c rest
  else if c = '"' then
    match Scalar.string rest with
    | .error e => refuse e
    | .ok (s, rest) => finish (.string s) stack rest
  else if c = '-' ∨ Decimal.isDigit c then
    match Scalar.number (c :: rest) with
    | .error e => refuse e
    | .ok (n, rest) => finish (.number n) stack rest
  else if c = 'n' then finishWord .null stack (Scalar.word ['u', 'l', 'l'] rest)
  else if c = 't' then finishWord (.bool true) stack (Scalar.word ['r', 'u', 'e'] rest)
  else if c = 'f' then finishWord (.bool false) stack (Scalar.word ['a', 'l', 's', 'e'] rest)
  else refuse (.here .expectedValue (c :: rest))

/-- Reads the key of a member whose first character is `c`. -/
def startKey (members : List (String × Json)) (stack : List Open) (c : Char) (rest : List Char) :
    Step State Result :=
  if c = '"' then
    match Scalar.string rest with
    | .error e => refuse e
    | .ok (key, rest) => .next ⟨.objectColon members key, stack, rest⟩
  else refuse (.here .keyNotString (c :: rest))

/-- One step on the first character that is not blank. -/
def stepAt (phase : Phase) (stack : List Open) (c : Char) (rest : List Char) : Step State Result :=
  match phase with
  | .value => start stack c rest
  | .arrayStart =>
    if c = ']' then finish (.array []) stack rest else start (.array [] :: stack) c rest
  | .arrayItem items =>
    if c = ']' then refuse (.here .trailingComma (c :: rest))
    else start (.array items :: stack) c rest
  | .arrayMore items =>
    if c = ']' then finish (.array items.reverse) stack rest
    else if c = ',' then .next ⟨.arrayItem items, stack, rest⟩
    else refuse (.here .expectedListMore (c :: rest))
  | .objectStart =>
    if c = '\x7d' then finish (.object []) stack rest else startKey [] stack c rest
  | .objectKey members =>
    if c = '\x7d' then refuse (.here .trailingComma (c :: rest))
    else startKey members stack c rest
  | .objectColon members key =>
    if c = ':' then .next ⟨.value, .object members key :: stack, rest⟩
    else refuse (.here .expectedColon (c :: rest))
  | .objectMore members =>
    if c = '\x7d' then finish (.object members.reverse) stack rest
    else if c = ',' then .next ⟨.objectKey members, stack, rest⟩
    else refuse (.here .expectedObjectMore (c :: rest))

def step (s : State) : Step State Result :=
  match s.text.dropWhile isBlank with
  | [] => refuse ⟨s.phase.endFault, .textEnd⟩
  | c :: rest => stepAt s.phase s.stack c rest

theorem length_of_finish {v : Json} {stack : List Open} {text : List Char} {t : State}
    (h : finish v stack text = .next t) : t.text = text := by
  unfold finish at h
  split at h
  · simp at h
  all_goals exact (Step.next.inj h) ▸ rfl

theorem length_of_enter {phase : Phase} {stack : List Open} {c : Char} {rest : List Char}
    {t : State} (h : enter phase stack c rest = .next t) : t.text = rest := by
  unfold enter at h
  split at h
  · exact (Step.next.inj h) ▸ rfl
  · simp [refuse] at h

theorem length_of_finishWord {v : Json} {stack : List Open} {w rest : List Char} {t : State}
    (h : finishWord v stack (Scalar.word w rest) = .next t) : t.text.length ≤ rest.length := by
  unfold finishWord at h
  split at h
  · simp [refuse] at h
  · next hw => rw [length_of_finish h]; exact Scalar.length_of_word hw

theorem length_of_start {stack : List Open} {c : Char} {rest : List Char} {t : State}
    (h : start stack c rest = .next t) : t.text.length ≤ rest.length := by
  unfold start at h
  repeat' split at h
  all_goals try (simp [refuse] at h; done)
  all_goals try (exact Nat.le_of_eq (congrArg _ (length_of_enter h)))
  all_goals try (exact length_of_finishWord h)
  · next hs => rw [length_of_finish h]; exact Nat.le_of_lt (Scalar.length_of_stringFrom hs)
  · next hn =>
    have := Scalar.length_of_number hn
    rw [length_of_finish h]
    simp at this; omega

theorem length_of_startKey {members : List (String × Json)} {stack : List Open} {c : Char}
    {rest : List Char} {t : State} (h : startKey members stack c rest = .next t) :
    t.text.length ≤ rest.length := by
  unfold startKey at h
  repeat' split at h
  all_goals try (simp [refuse] at h; done)
  next hs =>
    obtain rfl := Step.next.inj h
    exact Nat.le_of_lt (Scalar.length_of_stringFrom hs)

theorem length_of_stepAt {phase : Phase} {stack : List Open} {c : Char} {rest : List Char}
    {t : State} (h : stepAt phase stack c rest = .next t) : t.text.length ≤ rest.length := by
  unfold stepAt at h
  repeat' split at h
  all_goals try (simp [refuse] at h; done)
  all_goals try (exact length_of_start h)
  all_goals try (exact length_of_startKey h)
  all_goals try (exact Nat.le_of_eq (congrArg _ (length_of_finish h)))
  all_goals exact Nat.le_of_eq (congrArg _ ((Step.next.inj h) ▸ rfl))

theorem length_step (s t : State) (h : step s = .next t) : t.text.length < s.text.length := by
  have hd := Scalar.length_dropWhile_le isBlank s.text
  unfold step at h
  split at h
  · simp [refuse] at h
  · next c rest hc =>
    have := length_of_stepAt h
    rw [hc] at hd
    simp at hd; omega

end Reader

open Reader in
/-- The value at the front of a text, and the text after it. -/
def read (text : List Char) : Except ReadError (Json × List Char) :=
  (Step.run step (·.text.length) length_step ⟨.value, [], text⟩).getD
    (.error ⟨.valueEnd, .textEnd⟩)

/-- Refuses a text that goes on after its value. -/
def expectEnd (text : List Char) : Except ReadError Unit :=
  match text.dropWhile Reader.isBlank with
  | [] => .ok ()
  | c :: rest => .error (.here .trailingCharacters (c :: rest))

end SymbolOutline.Json
