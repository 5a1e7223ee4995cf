import SymbolOutline.Json.Reader
import SymbolOutline.Json.Writer

/-!
# Layouts

A `Layout` fills the room between the parts of a written value with blanks.
`Json.pretty` and `Json.compact` write one layout each (`pretty_eq`,
`compact_eq`); what is said of all layouts holds of both.
-/

namespace SymbolOutline.Json

/-- How the parts of a value are kept apart. -/
structure Layout where
  /-- What stands before an item, a member or a closing bracket inside so many brackets. -/
  gap : Nat → List Char
  /-- What stands between a colon and its value. -/
  colonGap : List Char
  gap_blank : ∀ depth, ∀ c ∈ gap depth, Reader.isBlank c
  colonGap_blank : ∀ c ∈ colonGap, Reader.isBlank c

namespace Layout

mutual

/-- A value inside so many brackets. -/
def text (l : Layout) (depth : Nat) : Json → List Char
  | null => "null".toList
  | bool true => "true".toList
  | bool false => "false".toList
  | number n => n.text
  | string s => quote s
  | array [] => ['[', ']']
  | array (v :: rest) =>
    '[' :: (l.gap (depth + 1) ++ l.text (depth + 1) v ++ l.moreItems depth rest)
  | object [] => ['\x7b', '\x7d']
  | object ((key, v) :: rest) =>
    '\x7b' :: (l.gap (depth + 1) ++ quote key
      ++ ':' :: (l.colonGap ++ l.text (depth + 1) v ++ l.moreMembers depth rest))

/-- What follows an item: the items after it and the closing bracket. -/
def moreItems (l : Layout) (depth : Nat) : List Json → List Char
  | [] => l.gap depth ++ [']']
  | v :: rest => ',' :: (l.gap (depth + 1) ++ l.text (depth + 1) v ++ l.moreItems depth rest)

/-- What follows a member: the members after it and the closing bracket. -/
def moreMembers (l : Layout) (depth : Nat) : List (String × Json) → List Char
  | [] => l.gap depth ++ ['\x7d']
  | (key, v) :: rest =>
    ',' :: (l.gap (depth + 1) ++ quote key
      ++ ':' :: (l.colonGap ++ l.text (depth + 1) v ++ l.moreMembers depth rest))

end

section

variable (l : Layout) (depth : Nat)

theorem text_number (n : Number) : l.text depth (number n) = n.text := rfl

theorem text_string (s : String) : l.text depth (string s) = quote s := rfl

theorem text_array_cons (v : Json) (rest : List Json) :
    l.text depth (array (v :: rest))
      = '[' :: (l.gap (depth + 1) ++ l.text (depth + 1) v ++ l.moreItems depth rest) := rfl

theorem text_object_cons (key : String) (v : Json) (rest : List (String × Json)) :
    l.text depth (object ((key, v) :: rest))
      = '\x7b' :: (l.gap (depth + 1) ++ quote key
        ++ ':' :: (l.colonGap ++ l.text (depth + 1) v ++ l.moreMembers depth rest)) := rfl

end

theorem newline_blank (depth : Nat) : ∀ c ∈ newline depth, Reader.isBlank c := by
  intro c hc
  rcases List.mem_cons.mp hc with rfl | hc
  · decide
  · obtain rfl := List.eq_of_mem_replicate hc
    decide

/-- A line for every part. -/
def lines : Layout where
  gap := newline
  colonGap := [' ']
  gap_blank := newline_blank
  colonGap_blank c hc := by
    obtain rfl := List.mem_singleton.mp hc
    decide

/-- Items after a first one. -/
def laterItems (depth : Nat) : List Json → List Char
  | [] => []
  | items => ',' :: prettyItems depth items

/-- Members after a first one. -/
def laterMembers (depth : Nat) : List (String × Json) → List Char
  | [] => []
  | members => ',' :: prettyMembers depth members

theorem prettyItems_cons (depth : Nat) (v : Json) (rest : List Json) :
    prettyItems depth (v :: rest) = newline depth ++ pretty depth v ++ laterItems depth rest := by
  cases rest <;> simp [prettyItems, laterItems]

theorem prettyMembers_cons (depth : Nat) (key : String) (v : Json) (rest : List (String × Json)) :
    prettyMembers depth ((key, v) :: rest)
      = newline depth ++ quote key
        ++ ':' :: ' ' :: (pretty depth v ++ laterMembers depth rest) := by
  cases rest <;> simp [prettyMembers, laterMembers]

mutual

theorem pretty_eq (depth : Nat) : ∀ v : Json, pretty depth v = lines.text depth v
  | null => rfl
  | bool true => rfl
  | bool false => rfl
  | number _ => rfl
  | string _ => rfl
  | array [] => rfl
  | array (v :: rest) => by
    have hpretty : pretty depth (array (v :: rest))
        = '[' :: (prettyItems (depth + 1) (v :: rest) ++ newline depth ++ [']']) := rfl
    rw [hpretty, prettyItems_cons, pretty_eq (depth + 1) v, text_array_cons,
      ← laterItems_eq depth rest]
    simp only [List.append_assoc]
    rfl
  | object [] => rfl
  | object ((key, v) :: rest) => by
    have hpretty : pretty depth (object ((key, v) :: rest))
        = '\x7b' :: (prettyMembers (depth + 1) ((key, v) :: rest) ++ newline depth
          ++ ['\x7d']) := rfl
    rw [hpretty, prettyMembers_cons, pretty_eq (depth + 1) v, text_object_cons,
      ← laterMembers_eq depth rest]
    simp only [List.append_assoc, List.cons_append]
    rfl

theorem laterItems_eq (depth : Nat) : ∀ items : List Json,
    laterItems (depth + 1) items ++ newline depth ++ [']'] = lines.moreItems depth items
  | [] => rfl
  | v :: rest => by
    rw [laterItems, prettyItems_cons, pretty_eq (depth + 1) v, moreItems,
      ← laterItems_eq depth rest]
    · simp only [List.append_assoc, List.cons_append]
      rfl
    · simp

theorem laterMembers_eq (depth : Nat) : ∀ members : List (String × Json),
    laterMembers (depth + 1) members ++ newline depth ++ ['\x7d'] = lines.moreMembers depth members
  | [] => rfl
  | (key, v) :: rest => by
    rw [laterMembers, prettyMembers_cons, pretty_eq (depth + 1) v, moreMembers,
      ← laterMembers_eq depth rest]
    · simp only [List.append_assoc, List.cons_append]
      rfl
    · simp

end

/-- No room at all. -/
def tight : Layout where
  gap _ := []
  colonGap := []
  gap_blank _ := List.forall_mem_nil _
  colonGap_blank := List.forall_mem_nil _

/-- Items after a first one, with no room between them. -/
def tightItems : List Json → List Char
  | [] => []
  | items => ',' :: compactItems items

/-- Members after a first one, with no room between them. -/
def tightMembers : List (String × Json) → List Char
  | [] => []
  | members => ',' :: compactMembers members

theorem compactItems_cons (v : Json) (rest : List Json) :
    compactItems (v :: rest) = compact v ++ tightItems rest := by
  cases rest <;> simp [compactItems, tightItems]

theorem compactMembers_cons (key : String) (v : Json) (rest : List (String × Json)) :
    compactMembers ((key, v) :: rest) = quote key ++ ':' :: (compact v ++ tightMembers rest) := by
  cases rest <;> simp [compactMembers, tightMembers]

mutual

theorem compact_eq (depth : Nat) : ∀ v : Json, compact v = tight.text depth v
  | null => rfl
  | bool true => rfl
  | bool false => rfl
  | number _ => rfl
  | string _ => rfl
  | array [] => rfl
  | array (v :: rest) => by
    have hcompact : compact (array (v :: rest)) = '[' :: (compactItems (v :: rest) ++ [']']) := rfl
    rw [hcompact, compactItems_cons, compact_eq (depth + 1) v, List.append_assoc,
      tightItems_eq depth rest]
    rfl
  | object [] => rfl
  | object ((key, v) :: rest) => by
    have hcompact : compact (object ((key, v) :: rest))
        = '\x7b' :: (compactMembers ((key, v) :: rest) ++ ['\x7d']) := rfl
    rw [hcompact, compactMembers_cons, compact_eq (depth + 1) v, List.append_assoc, List.cons_append,
      List.append_assoc, tightMembers_eq depth rest]
    rfl

theorem tightItems_eq (depth : Nat) :
    ∀ items : List Json, tightItems items ++ [']'] = tight.moreItems depth items
  | [] => rfl
  | v :: rest => by
    rw [tightItems, compactItems_cons, compact_eq (depth + 1) v, List.cons_append,
      List.append_assoc, tightItems_eq depth rest]
    · rfl
    · simp

theorem tightMembers_eq (depth : Nat) : ∀ members : List (String × Json),
    tightMembers members ++ ['\x7d'] = tight.moreMembers depth members
  | [] => rfl
  | (key, v) :: rest => by
    rw [tightMembers, compactMembers_cons, compact_eq (depth + 1) v, List.cons_append,
      List.append_assoc, List.cons_append, List.append_assoc, tightMembers_eq depth rest]
    · rfl
    · simp

end

end Layout

end SymbolOutline.Json
