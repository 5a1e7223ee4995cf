import SymbolOutline.Proofs.Json.Fields

/-!
# The values of symbols

The value of a symbol has two brackets for each level, and two more for the
ranges of the last (`depth_toJson`). Its numbers are those of 32 bits.
-/

namespace SymbolOutline

open Json (present NumbersFit NumbersFitItems NumbersFitMembers depthItems depthMembers)

namespace Json

theorem depthMembers_append (l l' : List (String × Json)) :
    depthMembers (l ++ l') = max (depthMembers l) (depthMembers l') := by
  induction l with
  | nil => rw [List.nil_append, depthMembers, Nat.zero_max]
  | cons m rest ih =>
    rw [List.cons_append, depthMembers, depthMembers, ih]
    omega

theorem numbersFitMembers_append {l l' : List (String × Json)} :
    NumbersFitMembers (l ++ l') ↔ NumbersFitMembers l ∧ NumbersFitMembers l' := by
  induction l with
  | nil => simp [NumbersFitMembers]
  | cons m rest ih => rw [List.cons_append, NumbersFitMembers, NumbersFitMembers, ih, and_assoc]

section

variable {α : Type} {key : String} {encode : α → Json}

theorem depthMembers_member? {n : Nat} (h : ∀ a, (encode a).depth ≤ n) (o : Option α) :
    depthMembers (member? key encode o) ≤ n := by
  cases o with
  | none => exact Nat.zero_le n
  | some a => exact Nat.max_le.mpr ⟨h a, Nat.zero_le n⟩

theorem numbersFit_member? (h : ∀ a, (encode a).NumbersFit) (o : Option α) :
    NumbersFitMembers (member? key encode o) := by
  cases o with
  | none => trivial
  | some a => exact ⟨h a, trivial⟩

end

theorem depth_ofInt32s (l : List Int32) : (array (l.map ofInt32)).depth = 1 := by
  have hitems : depthItems (l.map ofInt32) = 0 := by
    induction l with
    | nil => rfl
    | cons i rest ih => rw [List.map_cons, depthItems, ih]; rfl
  rw [Json.depth, hitems]

theorem numbersFit_ofInt32s (l : List Int32) : (array (l.map ofInt32)).NumbersFit := by
  show NumbersFitItems (l.map ofInt32)
  induction l with
  | nil => trivial
  | cons i rest ih => exact ⟨numbersFit_ofInt32 i, ih⟩

end Json

theorem Position.numbersFit_toJson (p : Position) : p.toJson.NumbersFit :=
  ⟨Json.numbersFit_ofUInt32 p.line, Json.numbersFit_ofUInt32 p.character, trivial⟩

theorem Range.numbersFit_toJson (r : Range) : r.toJson.NumbersFit :=
  ⟨r.start.numbersFit_toJson, r.stop.numbersFit_toJson, trivial⟩

namespace Symbol

/-- All members of a symbol, its children included. -/
def allMembers (s : Symbol) : List (String × Json) :=
  s.members ++ Json.member? "children" (fun children => .array (toJsonAll children)) s.children

theorem toJson_eq (s : Symbol) : s.toJson = .object s.allMembers := by
  obtain ⟨_, _, _, _, _, _, _, children⟩ := s
  cases children with
  | none => rw [toJson, allMembers, Json.member?, Option.map_none, Option.toList, List.append_nil]
  | some children => rfl

/-- The fields of a symbol, as they are written. -/
def fields (s : Symbol) : List (String × Option Json) :=
  [("name", some (.string s.name)), ("detail", s.detail.map .string),
    ("kind", some (.ofInt32 s.kind.ordinal)),
    ("tags", s.tags.map fun tags => .array (tags.map .ofInt32)),
    ("deprecated", s.deprecated.map .bool), ("range", some s.range.toJson),
    ("selectionRange", some s.selectionRange.toJson),
    ("children", s.children.map fun children => .array (toJsonAll children))]

theorem nodup_fields (s : Symbol) : (s.fields.map Prod.fst).Nodup := by
  show ["name", "detail", "kind", "tags", "deprecated", "range", "selectionRange", "children"].Nodup
  decide

theorem allMembers_eq (s : Symbol) : s.allMembers = present s.fields := by
  obtain ⟨_, detail, _, tags, deprecated, _, _, children⟩ := s
  cases detail <;> cases tags <;> cases deprecated <;> cases children <;> rfl

/-- Apart from the children, nothing of a symbol is deeper than its ranges. -/
theorem depthMembers_members (s : Symbol) : depthMembers s.members = 2 := by
  have hdetail : depthMembers (Json.member? "detail" .string s.detail) ≤ 0 :=
    Json.depthMembers_member? (fun _ => Nat.le_refl 0) s.detail
  have htags : depthMembers
      (Json.member? "tags" (fun tags => .array (tags.map .ofInt32)) s.tags) ≤ 1 :=
    Json.depthMembers_member? (fun tags => Nat.le_of_eq (Json.depth_ofInt32s tags)) s.tags
  have hdeprecated : depthMembers (Json.member? "deprecated" .bool s.deprecated) ≤ 0 :=
    Json.depthMembers_member? (fun _ => Nat.le_refl 0) s.deprecated
  have hname : depthMembers [("name", .string s.name)] = 0 := rfl
  have hkind : depthMembers [("kind", .ofInt32 s.kind.ordinal)] = 0 := rfl
  have hranges : depthMembers
      [("range", s.range.toJson), ("selectionRange", s.selectionRange.toJson)] = 2 := rfl
  simp only [members, Json.depthMembers_append]
  omega

theorem numbersFit_members (s : Symbol) : NumbersFitMembers s.members := by
  simp only [members, Json.numbersFitMembers_append]
  refine ⟨⟨⟨⟨⟨⟨trivial, trivial⟩, ?_⟩, ⟨Json.numbersFit_ofInt32 _, trivial⟩⟩, ?_⟩, ?_⟩, ?_⟩
  · have hstring : ∀ a, (Json.string a).NumbersFit := fun _ => trivial
    exact Json.numbersFit_member? hstring s.detail
  · exact Json.numbersFit_member? Json.numbersFit_ofInt32s s.tags
  · have hbool : ∀ b, (Json.bool b).NumbersFit := fun _ => trivial
    exact Json.numbersFit_member? hbool s.deprecated
  · exact ⟨s.range.numbersFit_toJson, s.selectionRange.numbersFit_toJson, trivial⟩

/-- The brackets of a symbol from those of its children. An empty list has
none in it, but one around it as every list. -/
theorem depth_of_children {s : Symbol}
    (h : max 1 (depthItems (toJsonAll s.childList)) = 2 * levelsAll s.childList + 1) :
    s.toJson.depth = 2 * s.levels + 1 := by
  have hmembers := s.depthMembers_members
  rw [toJson_eq, Json.depth, allMembers, Json.depthMembers_append, hmembers, levels_eq]
  obtain ⟨_, _, _, _, _, _, _, children⟩ := s
  cases children with
  | none => rfl
  | some children =>
    have hchildren : depthMembers [("children", Json.array (toJsonAll children))]
        = 1 + depthItems (toJsonAll children) := Nat.max_zero _
    change max 1 (depthItems (toJsonAll children)) = 2 * levelsAll children + 1 at h
    show 1 + max 2 (depthMembers [("children", Json.array (toJsonAll children))])
      = 2 * (1 + levelsAll children) + 1
    omega

theorem max_depthItems_toJsonAll (l : List Symbol) :
    max 1 (depthItems (toJsonAll l)) = 2 * levelsAll l + 1 := by
  induction l using forest_induction with
  | nil => rfl
  | cons s rest ihc ihr =>
    have hs := depth_of_children ihc
    rw [toJsonAll, depthItems, levelsAll, hs]
    omega

theorem depth_toJson (s : Symbol) : s.toJson.depth = 2 * s.levels + 1 :=
  depth_of_children (max_depthItems_toJsonAll s.childList)

theorem numbersFitItems_toJsonAll (l : List Symbol) : NumbersFitItems (toJsonAll l) := by
  induction l using forest_induction with
  | nil => trivial
  | cons s rest ihc ihr =>
    refine ⟨?_, ihr⟩
    rw [toJson_eq, NumbersFit, allMembers, Json.numbersFitMembers_append]
    refine ⟨s.numbersFit_members, ?_⟩
    obtain ⟨_, _, _, _, _, _, _, children⟩ := s
    cases children with
    | none => trivial
    | some children => exact ⟨ihc, trivial⟩

end Symbol

end SymbolOutline
