import SymbolOutline.Proofs.Json.Layout
import SymbolOutline.Proofs.Json.Scalar

/-!
# Reading back values

The reader gets back what a `Layout` writes, whatever is open around it
(`start_text`), as long as there is room for the brackets of the value. So
`Json.read` undoes every layout (`read_text`).
-/

namespace SymbolOutline.Json

mutual

/-- All numbers are integers that are read as integers. -/
def NumbersFit : Json → Prop
  | null | bool _ | string _ => True
  | number (.integer i) => Scalar.IsWord i
  | number (.real ..) => False
  | array items => NumbersFitItems items
  | object members => NumbersFitMembers members

def NumbersFitItems : List Json → Prop
  | [] => True
  | v :: rest => NumbersFit v ∧ NumbersFitItems rest

def NumbersFitMembers : List (String × Json) → Prop
  | [] => True
  | (_, v) :: rest => NumbersFit v ∧ NumbersFitMembers rest

end

namespace Reader

open Scalar (NumberEnds numberEnds_cons)

/-! ## Steps and what comes of them -/

/-- What comes of a state. -/
def outcome (s : State) : Option Result := Step.run step (·.text.length) length_step s

/-- What comes of a step. -/
def outcomeAfter : Step State Result → Option Result
  | .next t => outcome t
  | .done result => some result
  | .stuck => none

theorem outcome_eq (s : State) : outcome s = outcomeAfter (step s) := by
  cases h : step s with
  | next t => exact Step.run_next h
  | done result => exact Step.run_done h
  | stuck => exact Step.run_stuck h

/-- Starts the value at the front of the text. -/
def begin (stack : List Open) : List Char → Step State Result
  | [] => .stuck
  | c :: rest => start stack c rest

/-- The text starts with what may start a value. -/
def Opens (text : List Char) : Prop := ∃ c rest, text = c :: rest ∧ ¬isBlank c ∧ c ≠ ']'

theorem step_of_blank {phase : Phase} {stack : List Open} {gap : List Char} {c : Char}
    (hgap : ∀ c ∈ gap, isBlank c) (hc : ¬isBlank c) (rest : List Char) :
    step ⟨phase, stack, gap ++ c :: rest⟩ = stepAt phase stack c rest := by
  have hdrop : (gap ++ c :: rest).dropWhile isBlank = c :: rest := by
    rw [List.dropWhile_append_of_pos hgap, List.dropWhile_cons_of_neg hc]
  simp only [step, hdrop]

section

variable {stack : List Open} {gap text : List Char}

theorem step_value (hgap : ∀ c ∈ gap, isBlank c) (h : Opens text) (rest : List Char) :
    step ⟨.value, stack, gap ++ (text ++ rest)⟩ = begin stack (text ++ rest) := by
  obtain ⟨c, text, rfl, hc, -⟩ := h
  exact step_of_blank hgap hc _

theorem step_arrayStart (hgap : ∀ c ∈ gap, isBlank c) (h : Opens text) (rest : List Char) :
    step ⟨.arrayStart, stack, gap ++ (text ++ rest)⟩
      = begin (.array [] :: stack) (text ++ rest) := by
  obtain ⟨c, text, rfl, hc, hne⟩ := h
  rw [List.cons_append, step_of_blank hgap hc]
  exact if_neg hne

theorem step_arrayItem {items : List Json} (hgap : ∀ c ∈ gap, isBlank c) (h : Opens text)
    (rest : List Char) :
    step ⟨.arrayItem items, stack, gap ++ (text ++ rest)⟩
      = begin (.array items :: stack) (text ++ rest) := by
  obtain ⟨c, text, rfl, hc, hne⟩ := h
  rw [List.cons_append, step_of_blank hgap hc]
  exact if_neg hne

theorem step_comma_items {items : List Json} (rest : List Char) :
    step ⟨.arrayMore items, stack, ',' :: rest⟩ = .next ⟨.arrayItem items, stack, rest⟩ := rfl

theorem step_comma_members {members : List (String × Json)} (rest : List Char) :
    step ⟨.objectMore members, stack, ',' :: rest⟩ = .next ⟨.objectKey members, stack, rest⟩ := rfl

theorem step_colon {members : List (String × Json)} {key : String} (rest : List Char) :
    step ⟨.objectColon members key, stack, ':' :: rest⟩
      = .next ⟨.value, .object members key :: stack, rest⟩ := rfl

theorem startKey_quoted {members : List (String × Json)} (key : String) (rest : List Char) :
    startKey members stack '"' (key.toList.flatMap escapeChar ++ '"' :: rest)
      = .next ⟨.objectColon members key, stack, rest⟩ := by
  rw [startKey, if_pos rfl, Scalar.string_quoted]

theorem step_objectStart (hgap : ∀ c ∈ gap, isBlank c) (key : String) (rest : List Char) :
    step ⟨.objectStart, stack, gap ++ (quote key ++ rest)⟩
      = .next ⟨.objectColon [] key, stack, rest⟩ := by
  rw [quote, List.cons_append, step_of_blank hgap (by decide), List.append_assoc,
    ← startKey_quoted key rest]
  rfl

theorem step_objectKey {members : List (String × Json)} (hgap : ∀ c ∈ gap, isBlank c)
    (key : String) (rest : List Char) :
    step ⟨.objectKey members, stack, gap ++ (quote key ++ rest)⟩
      = .next ⟨.objectColon members key, stack, rest⟩ := by
  rw [quote, List.cons_append, step_of_blank hgap (by decide), List.append_assoc,
    ← startKey_quoted key rest]
  rfl

/-- A first item is read like a later one with no item before it. -/
theorem outcome_arrayStart (hgap : ∀ c ∈ gap, isBlank c) (h : Opens text) (rest : List Char) :
    outcome ⟨.arrayStart, stack, gap ++ (text ++ rest)⟩
      = outcome ⟨.arrayMore [], stack, ',' :: (gap ++ (text ++ rest))⟩ := by
  rw [outcome_eq, step_arrayStart hgap h, outcome_eq ⟨.arrayMore [], stack, _⟩, step_comma_items,
    outcomeAfter, outcome_eq, step_arrayItem hgap h]

/-- A first key is read like a later one with no member before it. -/
theorem outcome_objectStart (hgap : ∀ c ∈ gap, isBlank c) (key : String) (rest : List Char) :
    outcome ⟨.objectStart, stack, gap ++ (quote key ++ rest)⟩
      = outcome ⟨.objectMore [], stack, ',' :: (gap ++ (quote key ++ rest))⟩ := by
  rw [outcome_eq, step_objectStart hgap, outcome_eq ⟨.objectMore [], stack, _⟩,
    step_comma_members, outcomeAfter, outcomeAfter, outcome_eq ⟨.objectKey [], stack, _⟩,
    step_objectKey hgap, outcomeAfter]

theorem start_array (hdepth : stack.length < maxDepth) (rest : List Char) :
    start stack '[' rest = .next ⟨.arrayStart, stack, rest⟩ := by
  rw [start, if_pos rfl, enter, if_pos hdepth]

theorem start_object (hdepth : stack.length < maxDepth) (rest : List Char) :
    start stack '\x7b' rest = .next ⟨.objectStart, stack, rest⟩ := by
  rw [start, if_neg (by decide), if_pos rfl, enter, if_pos hdepth]

theorem start_quoted (s : String) (rest : List Char) :
    start stack '"' (s.toList.flatMap escapeChar ++ '"' :: rest)
      = finish (.string s) stack rest := by
  rw [start, if_neg (by decide), if_neg (by decide), if_pos rfl, Scalar.string_quoted]

theorem start_number {c : Char} {ds rest : List Char} {n : Number}
    (hc : c = '-' ∨ Decimal.isDigit c) (hn : Scalar.number (c :: ds) = .ok (n, rest)) :
    start stack c ds = finish (.number n) stack rest := by
  have hne : ∀ d, ¬(d = '-' ∨ Decimal.isDigit d) → c ≠ d := by
    intro d hd heq
    exact hd (heq ▸ hc)
  rw [start, if_neg (hne '[' (by decide)), if_neg (hne '\x7b' (by decide)),
    if_neg (hne '"' (by decide)), if_pos hc, hn]

end

/-! ## Written values -/

theorem digitsInt_eq_cons (i : Int) :
    ∃ c ds, Decimal.digitsInt i = c :: ds ∧ (c = '-' ∨ Decimal.isDigit c) := by
  cases i with
  | ofNat n =>
    obtain ⟨d, ds, hds, hd, -⟩ := Decimal.digits_eq_cons n
    exact ⟨d, ds, hds, .inr hd⟩
  | negSucc n => exact ⟨'-', _, rfl, .inl rfl⟩

theorem opens_of_starts {c : Char} (hc : c = '-' ∨ Decimal.isDigit c) (rest : List Char) :
    Opens (c :: rest) := by
  refine ⟨c, rest, rfl, ?_, ?_⟩
  · intro hblank
    simp only [isBlank, Bool.or_eq_true, decide_eq_true_eq] at hblank
    rcases hblank with ((rfl | rfl) | rfl) | rfl <;> revert hc <;> decide
  · rintro rfl
    revert hc
    decide

variable (l : Layout) (depth : Nat)

theorem opens_text : ∀ {v : Json}, v.NumbersFit → Opens (l.text depth v)
  | .null, _ => ⟨'n', _, rfl, by decide, by decide⟩
  | .bool true, _ => ⟨'t', _, rfl, by decide, by decide⟩
  | .bool false, _ => ⟨'f', _, rfl, by decide, by decide⟩
  | .number (.integer i), _ => by
    obtain ⟨c, ds, hds, hc⟩ := digitsInt_eq_cons i
    rw [Layout.text_number, Number.text, hds]
    exact opens_of_starts hc ds
  | .string _, _ => ⟨'"', _, rfl, by decide, by decide⟩
  | .array [], _ => ⟨'[', _, rfl, by decide, by decide⟩
  | .array (_ :: _), _ => ⟨'[', _, rfl, by decide, by decide⟩
  | .object [], _ => ⟨'\x7b', _, rfl, by decide, by decide⟩
  | .object ((_, _) :: _), _ => ⟨'\x7b', _, rfl, by decide, by decide⟩

theorem numberEnds_gap {gap : List Char} {c : Char} (hgap : ∀ c ∈ gap, isBlank c)
    (hc : Decimal.isDigit c = false ∧ c ≠ '.' ∧ c ≠ 'e' ∧ c ≠ 'E') (rest : List Char) :
    NumberEnds (gap ++ c :: rest) := by
  cases gap with
  | nil => exact numberEnds_cons hc rest
  | cons b gap =>
    have hb := hgap b List.mem_cons_self
    simp only [isBlank, Bool.or_eq_true, decide_eq_true_eq] at hb
    refine numberEnds_cons ?_ _
    rcases hb with ((rfl | rfl) | rfl) | rfl <;> decide

theorem numberEnds_moreItems (items : List Json) (rest : List Char) :
    NumberEnds (l.moreItems depth items ++ rest) := by
  cases items with
  | nil =>
    rw [Layout.moreItems, List.append_assoc]
    exact numberEnds_gap (l.gap_blank depth) (by decide) rest
  | cons v items => exact numberEnds_cons (by decide) _

theorem numberEnds_moreMembers (members : List (String × Json)) (rest : List Char) :
    NumberEnds (l.moreMembers depth members ++ rest) := by
  cases members with
  | nil =>
    rw [Layout.moreMembers, List.append_assoc]
    exact numberEnds_gap (l.gap_blank depth) (by decide) rest
  | cons m members => exact numberEnds_cons (by decide) _

section

variable {l depth} {stack : List Open} {rest : List Char}

/-- The items of an opened array are read like ones that follow others. -/
theorem outcome_begin_array {v : Json} (hv : v.NumbersFit) (items : List Json)
    (hroom : stack.length < maxDepth) :
    outcomeAfter (begin stack (l.text depth (.array (v :: items)) ++ rest))
      = outcome ⟨.arrayMore [], stack, l.moreItems depth (v :: items) ++ rest⟩ := by
  have hstart : begin stack (l.text depth (.array (v :: items)) ++ rest)
      = .next ⟨.arrayStart, stack, l.gap (depth + 1)
          ++ (l.text (depth + 1) v ++ (l.moreItems depth items ++ rest))⟩ := by
    rw [Layout.text_array_cons, List.cons_append, List.append_assoc, List.append_assoc]
    exact start_array hroom _
  rw [hstart, outcomeAfter,
    outcome_arrayStart (l.gap_blank (depth + 1)) (opens_text l (depth + 1) hv)]
  simp only [Layout.moreItems, List.cons_append, List.append_assoc]

theorem outcome_next_item {v : Json} (hv : v.NumbersFit) (before items : List Json) :
    outcome ⟨.arrayMore before, stack, l.moreItems depth (v :: items) ++ rest⟩
      = outcomeAfter (begin (.array before :: stack)
          (l.text (depth + 1) v ++ (l.moreItems depth items ++ rest))) := by
  rw [outcome_eq, Layout.moreItems, List.cons_append, step_comma_items, outcomeAfter, outcome_eq,
    List.append_assoc, List.append_assoc,
    step_arrayItem (l.gap_blank (depth + 1)) (opens_text l (depth + 1) hv)]

/-- The members of an opened object are read like ones that follow others. -/
theorem outcome_begin_object (key : String) (v : Json) (members : List (String × Json))
    (hroom : stack.length < maxDepth) :
    outcomeAfter (begin stack (l.text depth (.object ((key, v) :: members)) ++ rest))
      = outcome ⟨.objectMore [], stack, l.moreMembers depth ((key, v) :: members) ++ rest⟩ := by
  have hstart : begin stack (l.text depth (.object ((key, v) :: members)) ++ rest)
      = .next ⟨.objectStart, stack, l.gap (depth + 1) ++ (quote key ++ (':' :: (l.colonGap
          ++ (l.text (depth + 1) v ++ (l.moreMembers depth members ++ rest)))))⟩ := by
    simp only [Layout.text_object_cons, List.cons_append, List.append_assoc]
    exact start_object hroom _
  rw [hstart, outcomeAfter, outcome_objectStart (l.gap_blank (depth + 1))]
  simp only [Layout.moreMembers, List.cons_append, List.append_assoc]

theorem outcome_next_member {v : Json} (hv : v.NumbersFit) (key : String)
    (before members : List (String × Json)) :
    outcome ⟨.objectMore before, stack, l.moreMembers depth ((key, v) :: members) ++ rest⟩
      = outcomeAfter (begin (.object before key :: stack)
          (l.text (depth + 1) v ++ (l.moreMembers depth members ++ rest))) := by
  rw [outcome_eq, Layout.moreMembers, List.cons_append, step_comma_members, outcomeAfter,
    outcome_eq]
  simp only [List.cons_append, List.append_assoc]
  rw [step_objectKey (l.gap_blank (depth + 1)), outcomeAfter, outcome_eq, step_colon, outcomeAfter,
    outcome_eq, step_value l.colonGap_blank (opens_text l (depth + 1) hv)]

end

mutual

/-- A written value is read, and the reader goes on with what is open around it. -/
theorem start_text (depth : Nat) : ∀ {v : Json}, v.NumbersFit →
    ∀ (stack : List Open) {rest : List Char}, stack.length + v.depth ≤ maxDepth → NumberEnds rest →
      outcomeAfter (begin stack (l.text depth v ++ rest)) = outcomeAfter (finish v stack rest)
  | .null, _, stack, rest, _, _ => rfl
  | .bool true, _, stack, rest, _, _ => rfl
  | .bool false, _, stack, rest, _, _ => rfl
  | .number (.integer i), hv, stack, rest, _, hrest => by
    obtain ⟨c, ds, hds, hc⟩ := digitsInt_eq_cons i
    have hread := Scalar.number_digitsInt hv hrest
    rw [Layout.text_number, Number.text]
    rw [hds] at hread ⊢
    exact congrArg outcomeAfter (start_number hc hread)
  | .string s, _, stack, rest, _, _ => by
    rw [Layout.text_string, quote, List.cons_append, List.append_assoc]
    exact congrArg outcomeAfter (start_quoted s rest)
  | .array [], _, stack, rest, hdepth, _ => by
    have hroom : stack.length < maxDepth := by
      rw [Json.depth] at hdepth
      omega
    have hstart : begin stack (l.text depth (.array []) ++ rest)
        = .next ⟨.arrayStart, stack, ']' :: rest⟩ := start_array hroom (']' :: rest)
    rw [hstart, outcomeAfter, outcome_eq]
    rfl
  | .array (v :: items), hv, stack, rest, hdepth, _ => by
    rw [Json.depth] at hdepth
    rw [outcome_begin_array hv.1 items (by omega)]
    exact outcome_moreItems depth hv [] stack hdepth rest
  | .object [], _, stack, rest, hdepth, _ => by
    have hroom : stack.length < maxDepth := by
      rw [Json.depth] at hdepth
      omega
    have hstart : begin stack (l.text depth (.object []) ++ rest)
        = .next ⟨.objectStart, stack, '\x7d' :: rest⟩ := start_object hroom ('\x7d' :: rest)
    rw [hstart, outcomeAfter, outcome_eq]
    rfl
  | .object ((key, v) :: members), hv, stack, rest, hdepth, _ => by
    rw [Json.depth] at hdepth
    rw [outcome_begin_object key v members (by omega)]
    exact outcome_moreMembers depth hv [] stack hdepth rest

/-- The items that are left are added to those read before. -/
theorem outcome_moreItems (depth : Nat) : ∀ {items : List Json}, NumbersFitItems items →
    ∀ (before : List Json) (stack : List Open),
      stack.length + (1 + depthItems items) ≤ maxDepth → ∀ rest : List Char,
        outcome ⟨.arrayMore before, stack, l.moreItems depth items ++ rest⟩
          = outcomeAfter (finish (.array (before.reverse ++ items)) stack rest)
  | [], _, before, stack, _, rest => by
    rw [outcome_eq, Layout.moreItems, List.append_assoc, List.append_nil]
    exact congrArg outcomeAfter (step_of_blank (l.gap_blank depth) (by decide) rest)
  | v :: items, hitems, before, stack, hdepth, rest => by
    obtain ⟨hv, hitems⟩ := hitems
    rw [depthItems] at hdepth
    have hnext := start_text (depth + 1) hv (.array before :: stack)
      (by rw [List.length_cons]; omega) (numberEnds_moreItems l depth items rest)
    have hlater := outcome_moreItems depth hitems (v :: before) stack (by omega) rest
    rw [List.reverse_cons, List.append_assoc, List.singleton_append] at hlater
    rw [outcome_next_item hv, hnext]
    exact hlater

/-- The members that are left are added to those read before. -/
theorem outcome_moreMembers (depth : Nat) : ∀ {members : List (String × Json)},
    NumbersFitMembers members → ∀ (before : List (String × Json)) (stack : List Open),
      stack.length + (1 + depthMembers members) ≤ maxDepth → ∀ rest : List Char,
        outcome ⟨.objectMore before, stack, l.moreMembers depth members ++ rest⟩
          = outcomeAfter (finish (.object (before.reverse ++ members)) stack rest)
  | [], _, before, stack, _, rest => by
    rw [outcome_eq, Layout.moreMembers, List.append_assoc, List.append_nil]
    exact congrArg outcomeAfter (step_of_blank (l.gap_blank depth) (by decide) rest)
  | (key, v) :: members, hmembers, before, stack, hdepth, rest => by
    obtain ⟨hv, hmembers⟩ := hmembers
    rw [depthMembers] at hdepth
    have hnext := start_text (depth + 1) hv (.object before key :: stack)
      (by rw [List.length_cons]; omega) (numberEnds_moreMembers l depth members rest)
    have hlater := outcome_moreMembers depth hmembers ((key, v) :: before) stack (by omega) rest
    rw [List.reverse_cons, List.append_assoc, List.singleton_append] at hlater
    rw [outcome_next_member hv, hnext]
    exact hlater

end

end Reader

open Reader in
/-- What comes of a text that starts with a written value. -/
theorem read_eq (l : Layout) {v : Json} (hv : v.NumbersFit) (rest : List Char) :
    read (l.text 0 v ++ rest)
      = (outcomeAfter (begin [] (l.text 0 v ++ rest))).getD (.error ⟨.valueEnd, .textEnd⟩) := by
  have hstep : step ⟨.value, [], l.text 0 v ++ rest⟩ = begin [] (l.text 0 v ++ rest) :=
    step_value (List.forall_mem_nil _) (opens_text l 0 hv) rest
  rw [← hstep, ← outcome_eq]
  rfl

/-- What is written is read back, up to where it ends. -/
theorem read_text (l : Layout) {v : Json} (hv : v.NumbersFit) (hdepth : v.depth ≤ Reader.maxDepth)
    {rest : List Char} (hrest : Scalar.NumberEnds rest) :
    read (l.text 0 v ++ rest) = .ok (v, rest) := by
  have hstart := Reader.start_text l 0 hv [] (by rwa [List.length_nil, Nat.zero_add]) hrest
  rw [read_eq l hv, hstart]
  rfl

theorem read_pretty {v : Json} (hv : v.NumbersFit) (hdepth : v.depth ≤ Reader.maxDepth)
    {rest : List Char} (hrest : Scalar.NumberEnds rest) :
    read (pretty 0 v ++ rest) = .ok (v, rest) := by
  rw [Layout.pretty_eq]
  exact read_text Layout.lines hv hdepth hrest

theorem read_compact {v : Json} (hv : v.NumbersFit) (hdepth : v.depth ≤ Reader.maxDepth) :
    read (compact v) = .ok (v, []) := by
  have hends : Scalar.NumberEnds [] := by
    intro c hc
    cases hc
  have hread := read_text Layout.tight hv hdepth hends
  rwa [List.append_nil, ← Layout.compact_eq] at hread

end SymbolOutline.Json
