import SymbolOutline.Proofs.Json.Reader

/-!
# Values that are too deep

A written value with more brackets than there is room for is refused, at the
first bracket that is one too many (`read_tooDeep`). Together with
`read_text` this is what becomes of any value with integers of 64 bits.
-/

namespace SymbolOutline.Json

namespace Reader

/-- The text is refused for its brackets. -/
def RefusedAsDeep (result : Option Result) : Prop :=
  ∃ place, result = some (.error ⟨.recursionLimit, place⟩)

section

variable {stack : List Open} {rest : List Char}

theorem begin_array_full (h : ¬stack.length < maxDepth) :
    begin stack ('[' :: rest) = refuse (.here .recursionLimit ('[' :: rest)) := by
  show start stack '[' rest = _
  rw [start, if_pos rfl, enter, if_neg h]

theorem begin_object_full (h : ¬stack.length < maxDepth) :
    begin stack ('\x7b' :: rest) = refuse (.here .recursionLimit ('\x7b' :: rest)) := by
  show start stack '\x7b' rest = _
  rw [start, if_neg (by decide), if_pos rfl, enter, if_neg h]

theorem text_array (l : Layout) (depth : Nat) (items : List Json) :
    ∃ text, l.text depth (.array items) = '[' :: text := by
  cases items <;> exact ⟨_, rfl⟩

theorem text_object (l : Layout) (depth : Nat) (members : List (String × Json)) :
    ∃ text, l.text depth (.object members) = '\x7b' :: text := by
  cases members <;> exact ⟨_, rfl⟩

theorem refused_array_full (l : Layout) (depth : Nat) (items : List Json)
    (h : ¬stack.length < maxDepth) :
    RefusedAsDeep (outcomeAfter (begin stack (l.text depth (.array items) ++ rest))) := by
  obtain ⟨text, htext⟩ := text_array l depth items
  rw [htext, List.cons_append, begin_array_full h]
  exact ⟨_, rfl⟩

theorem refused_object_full (l : Layout) (depth : Nat) (members : List (String × Json))
    (h : ¬stack.length < maxDepth) :
    RefusedAsDeep (outcomeAfter (begin stack (l.text depth (.object members) ++ rest))) := by
  obtain ⟨text, htext⟩ := text_object l depth members
  rw [htext, List.cons_append, begin_object_full h]
  exact ⟨_, rfl⟩

end

variable (l : Layout)

mutual

/-- A value with more brackets than there is room for is refused. -/
theorem start_tooDeep (depth : Nat) : ∀ {v : Json}, v.NumbersFit →
    ∀ {stack : List Open} (rest : List Char), stack.length ≤ maxDepth →
      maxDepth < stack.length + v.depth →
        RefusedAsDeep (outcomeAfter (begin stack (l.text depth v ++ rest)))
  | .null, _, stack, rest, hstack, hdepth => absurd hstack (Nat.not_le_of_lt hdepth)
  | .bool _, _, stack, rest, hstack, hdepth => absurd hstack (Nat.not_le_of_lt hdepth)
  | .number _, _, stack, rest, hstack, hdepth => absurd hstack (Nat.not_le_of_lt hdepth)
  | .string _, _, stack, rest, hstack, hdepth => absurd hstack (Nat.not_le_of_lt hdepth)
  | .array [], _, stack, rest, hstack, hdepth => by
    refine refused_array_full l depth [] ?_
    rw [Json.depth, depthItems] at hdepth
    omega
  | .array (v :: items), hv, stack, rest, hstack, hdepth => by
    by_cases hroom : stack.length < maxDepth
    · rw [Json.depth] at hdepth
      rw [outcome_begin_array hv.1 items hroom]
      exact items_tooDeep depth hv [] rest hroom hdepth
    · exact refused_array_full l depth (v :: items) hroom
  | .object [], _, stack, rest, hstack, hdepth => by
    refine refused_object_full l depth [] ?_
    rw [Json.depth, depthMembers] at hdepth
    omega
  | .object ((key, v) :: members), hv, stack, rest, hstack, hdepth => by
    by_cases hroom : stack.length < maxDepth
    · rw [Json.depth] at hdepth
      rw [outcome_begin_object key v members hroom]
      exact members_tooDeep depth hv [] rest hroom hdepth
    · exact refused_object_full l depth ((key, v) :: members) hroom

/-- The items before the first one that is too deep are read, and no more. -/
theorem items_tooDeep (depth : Nat) : ∀ {items : List Json}, NumbersFitItems items →
    ∀ (before : List Json) {stack : List Open} (rest : List Char), stack.length < maxDepth →
      maxDepth < stack.length + (1 + depthItems items) →
        RefusedAsDeep (outcome ⟨.arrayMore before, stack, l.moreItems depth items ++ rest⟩)
  | [], _, before, stack, rest, hroom, hdepth => by
    rw [depthItems] at hdepth
    omega
  | v :: items, hitems, before, stack, rest, hroom, hdepth => by
    obtain ⟨hv, hitems⟩ := hitems
    rw [outcome_next_item hv]
    -- If the first item fits, it is read, and a later one is too deep.
    by_cases hfits : stack.length + 1 + v.depth ≤ maxDepth
    · have hread := start_text l (depth + 1) hv (.array before :: stack) hfits
        (numberEnds_moreItems l depth items rest)
      have hlater : maxDepth < stack.length + (1 + depthItems items) := by
        rw [depthItems] at hdepth
        omega
      rw [hread]
      exact items_tooDeep depth hitems (v :: before) rest hroom hlater
    · refine start_tooDeep (depth + 1) hv _ ?_ ?_
      · exact hroom
      · rw [List.length_cons]
        omega

/-- The members before the first one that is too deep are read, and no more. -/
theorem members_tooDeep (depth : Nat) : ∀ {members : List (String × Json)},
    NumbersFitMembers members → ∀ (before : List (String × Json)) {stack : List Open}
      (rest : List Char), stack.length < maxDepth →
        maxDepth < stack.length + (1 + depthMembers members) →
          RefusedAsDeep (outcome ⟨.objectMore before, stack, l.moreMembers depth members ++ rest⟩)
  | [], _, before, stack, rest, hroom, hdepth => by
    rw [depthMembers] at hdepth
    omega
  | (key, v) :: members, hmembers, before, stack, rest, hroom, hdepth => by
    obtain ⟨hv, hmembers⟩ := hmembers
    rw [outcome_next_member hv]
    by_cases hfits : stack.length + 1 + v.depth ≤ maxDepth
    · have hread := start_text l (depth + 1) hv (.object before key :: stack) hfits
        (numberEnds_moreMembers l depth members rest)
      have hlater : maxDepth < stack.length + (1 + depthMembers members) := by
        rw [depthMembers] at hdepth
        omega
      rw [hread]
      exact members_tooDeep depth hmembers ((key, v) :: before) rest hroom hlater
    · refine start_tooDeep (depth + 1) hv _ ?_ ?_
      · exact hroom
      · rw [List.length_cons]
        omega

end

end Reader

/-- One bracket too many, and the text is refused. -/
theorem read_tooDeep (l : Layout) {v : Json} (hv : v.NumbersFit)
    (hdepth : Reader.maxDepth < v.depth) (rest : List Char) :
    ∃ place, read (l.text 0 v ++ rest) = .error ⟨.recursionLimit, place⟩ := by
  have hdeep : Reader.maxDepth < ([] : List Reader.Open).length + v.depth := by
    rwa [List.length_nil, Nat.zero_add]
  obtain ⟨place, h⟩ := Reader.start_tooDeep l 0 hv rest (Nat.zero_le _) hdeep
  refine ⟨place, ?_⟩
  rw [read_eq l hv, h]
  rfl

end SymbolOutline.Json
