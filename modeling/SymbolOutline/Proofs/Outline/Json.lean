import SymbolOutline.Outline.Json
import SymbolOutline.Proofs.Json.Fields
import SymbolOutline.Proofs.Outline.Build

/-!
# Outlines and their JSON

An outline is read back from its JSON value (`ofJson?_toJson`). The value has
two brackets for each level and one around them all (`depth_toJson`), and no
numbers but those of 32 bits; so an outline with few enough levels is read
back from its text (`read_jsonText`).
-/

namespace SymbolOutline

namespace Entry

open Json (NumbersFit NumbersFitItems NumbersFitMembers depthItems depthMembers)

/-! ## The value of an entry -/

theorem depthMembers_members (name : String) (kind : SymbolKind) (label : String) (weight : Int32)
    (detail : Option String) (line : UInt32) (children : List Json) :
    depthMembers (members name kind label weight detail line children)
      = 1 + depthItems children := by
  cases detail <;>
    simp [members, Json.member?, depthMembers, Json.depth, Json.ofInt32, Json.ofUInt32]

theorem numbersFit_members {name : String} {kind : SymbolKind} {label : String} {weight : Int32}
    {detail : Option String} {line : UInt32} {children : List Json}
    (h : NumbersFitItems children) :
    NumbersFitMembers (members name kind label weight detail line children) := by
  have hkind := Json.numbersFit_ofInt32 kind.ordinal
  have hweight := Json.numbersFit_ofInt32 weight
  have hline := Json.numbersFit_ofUInt32 line
  cases detail with
  | none => exact ⟨trivial, hkind, trivial, hweight, hline, h, trivial⟩
  | some detail => exact ⟨trivial, hkind, trivial, hweight, trivial, hline, h, trivial⟩

mutual

theorem depth_toJson : ∀ e : Entry, e.toJson.depth = 2 * e.levels
  | ⟨name, kind, label, weight, detail, line, children⟩ => by
    rw [toJson, Json.depth, depthMembers_members, depthItems_toJsonAll children, levels]
    omega

theorem depthItems_toJsonAll : ∀ l : List Entry, depthItems (toJsonAll l) = 2 * levelsAll l
  | [] => rfl
  | e :: rest => by
    rw [toJsonAll, depthItems, levelsAll, depth_toJson e, depthItems_toJsonAll rest]
    omega

end

mutual

theorem numbersFit_toJson : ∀ e : Entry, e.toJson.NumbersFit
  | ⟨name, kind, label, weight, detail, line, children⟩ => by
    rw [toJson, NumbersFit]
    exact numbersFit_members (numbersFitItems_toJsonAll children)

theorem numbersFitItems_toJsonAll : ∀ l : List Entry, NumbersFitItems (toJsonAll l)
  | [] => trivial
  | e :: rest => ⟨numbersFit_toJson e, numbersFitItems_toJsonAll rest⟩

end

/-! ## Reading it back -/

section

variable (name : String) (kind : SymbolKind) (label : String) (weight : Int32)
  (detail : Option String) (line : UInt32) (children : List Json)

theorem fields_members :
    keys.mapM (Json.field? · (members name kind label weight detail line children))
      = some [some (.string name), some (.ofInt32 kind.ordinal), some (.string label),
          some (.ofInt32 weight), detail.map .string, some (.ofUInt32 line)] := by
  cases detail <;> simp [keys, members, Json.member?, Json.field?]

theorem childrenOf?_members :
    childrenOf? (members name kind label weight detail line children)
      = ofItems? children := by
  cases detail <;> simp [members, Json.member?, childrenOf?, ofArray?]

end

/-- An entry comes of fields that each stand for what it has there. -/
theorem ofFields?_eq_some {n k l w d i : Option Json} {name : String} {kind : Int32}
    {label : String} {weight : Int32} {detail : Option String} {line : UInt32}
    (hname : Json.required Json.string? n = some name)
    (hkind : Json.required Json.int32? k = some kind)
    (hlabel : Json.required Json.string? l = some label)
    (hweight : Json.required Json.int32? w = some weight)
    (hdetail : Json.optional Json.string? d = some detail)
    (hline : Json.required Json.uint32? i = some line) (children : List Entry) :
    ofFields? [n, k, l, w, d, i] children
      = some ⟨name, ⟨kind⟩, label, weight, detail, line, children⟩ := by
  simp only [ofFields?, hname, hkind, hlabel, hweight, hdetail, hline, Option.bind_eq_bind,
    Option.bind_some, Option.pure_def]

mutual

theorem ofJson?_toJson : ∀ e : Entry, ofJson? e.toJson = some e
  | ⟨name, kind, label, weight, detail, line, children⟩ => by
    rw [toJson, ofJson?, fields_members, childrenOf?_members, ofItems?_toJsonAll children]
    exact ofFields?_eq_some (Json.required_some (Json.string?_string name))
      (Json.required_some (Json.int32?_ofInt32 kind.ordinal))
      (Json.required_some (Json.string?_string label))
      (Json.required_some (Json.int32?_ofInt32 weight)) (Json.optional_string? detail)
      (Json.required_some (Json.uint32?_ofUInt32 line)) children

theorem ofItems?_toJsonAll : ∀ l : List Entry, ofItems? (toJsonAll l) = some l
  | [] => rfl
  | e :: rest => by
    rw [toJsonAll, ofItems?, ofJson?_toJson e, ofItems?_toJsonAll rest]
    rfl

end

/-! ## Levels -/

theorem levelsAll_perm {l l' : List Entry} (h : l.Perm l') : levelsAll l = levelsAll l' := by
  induction h with
  | nil => rfl
  | cons e _ ih => rw [levelsAll, levelsAll, ih]
  | swap e e' l => simp only [levelsAll]; omega
  | trans _ _ ih ih' => exact ih.trans ih'

theorem levelsAll_arrange (options : BuildOptions) (l : List Entry) :
    levelsAll (Builder.arrange options l) = levelsAll l :=
  levelsAll_perm (Builder.arrange_perm options l)

/-- A level of entries reaches no deeper than its symbols. -/
theorem levelsAll_ofLevel_le (options : BuildOptions) (depth : Nat) (siblings : List Symbol) :
    levelsAll (ofLevel options depth siblings) ≤ Symbol.levelsAll siblings := by
  induction siblings using Symbol.forest_induction generalizing depth with
  | nil =>
    rw [Builder.ofLevel_eq_arrange, levelsAll_arrange]
    split <;> exact Nat.le_refl 0
  | cons s rest ihc ihr =>
    have hrest := ihr depth
    have hchildren := ihc (depth + 1)
    rw [Builder.ofLevel_eq_arrange, levelsAll_arrange] at hrest ⊢
    split
    · next hd =>
      rw [if_pos hd] at hrest
      rw [ofTrees, levelsAll, ofTree_eq, levels_eq, Symbol.levelsAll, Symbol.levels_eq]
      show max (1 + levelsAll (ofLevel options (depth + 1) s.childList)) _ ≤ _
      omega
    · exact Nat.zero_le _

end Entry

namespace Outline

theorem depth_toJson (outline : Outline) : outline.toJson.depth = 2 * outline.levels + 1 := by
  rw [toJson, Json.depth, Entry.depthItems_toJsonAll, levels, Nat.add_comm]

theorem ofJson?_toJson (outline : Outline) : ofJson? outline.toJson = some outline := by
  rw [ofJson?, toJson, Entry.ofArray?, Entry.ofItems?_toJsonAll]
  rfl

theorem levels_build_le (options : BuildOptions) (log : Log) (symbols : List Symbol) :
    (build options log symbols).1.levels ≤ Symbol.levelsAll symbols := by
  rw [build_eq]
  exact Nat.le_trans (Entry.levelsAll_ofLevel_le options 1 _)
    (Symbol.levelsAll_shownRoots_le symbols)

/-- The text of an outline is its value, if that has no more brackets than a reader takes. -/
theorem read_jsonText {outline : Outline} (h : 2 * outline.levels + 1 ≤ Json.Reader.maxDepth) :
    Json.read outline.jsonText.toList = .ok (outline.toJson, ['\n']) := by
  have hfit : outline.toJson.NumbersFit := Entry.numbersFitItems_toJsonAll outline.entries
  have hdepth : outline.toJson.depth ≤ Json.Reader.maxDepth := by rwa [depth_toJson]
  rw [jsonText, String.toList_ofList]
  exact Json.read_pretty hfit hdepth (Json.Scalar.numberEnds_cons (by decide) [])

end Outline

end SymbolOutline
