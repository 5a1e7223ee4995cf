import SymbolOutline.Proofs.Json.TooDeep
import SymbolOutline.Proofs.Response.Levels
import SymbolOutline.Proofs.Symbol.Json

/-!
# Nested responses are read back

A symbol is read back from its value (`symbol?_toJson`), which is no symbol of
a flat response: it has no location. So a nested response is read back from
its text, if the reader has room for its brackets (`parse_responseText`); if
not, it is refused for them.
-/

namespace SymbolOutline

namespace Response

open Json (required optional)
open SymbolOutline.Symbol (toJsonAll allMembers levelsAll forest_induction)

/-! ## Fields -/

theorem position?_toJson (p : Position) : position? p.toJson = some p := by
  have hfields : Json.record? ["line", "character"] p.toJson
      = some [some (.ofUInt32 p.line), some (.ofUInt32 p.character)] := by
    simp [Json.record?, Position.toJson, Json.field?]
  rw [position?, hfields]
  simp only [Json.required_some (Json.uint32?_ofUInt32 _), Option.bind_eq_bind, Option.bind_some,
    Option.pure_def]

theorem range?_toJson (r : Range) : range? r.toJson = some r := by
  have hfields : Json.record? ["start", "end"] r.toJson
      = some [some r.start.toJson, some r.stop.toJson] := by
    simp [Json.record?, Range.toJson, Json.field?]
  rw [range?, hfields]
  simp only [Json.required_some (position?_toJson _), Option.bind_eq_bind, Option.bind_some,
    Option.pure_def]

theorem tags?_ofInt32s (tags : List Int32) : tags? (.array (tags.map .ofInt32)) = some tags := by
  rw [tags?]
  induction tags with
  | nil => rfl
  | cons tag rest ih =>
    simp only [List.map_cons, List.mapM_cons, Json.int32?_ofInt32, ih, Option.bind_eq_bind,
      Option.bind_some, Option.pure_def]

theorem kind?_ofInt32 (k : SymbolKind) : kind? (.ofInt32 k.ordinal) = some k := by
  rw [kind?, Json.int32?_ofInt32]
  rfl

/-! ## Symbols -/

/-- The fields that a symbol is written with. -/
theorem fields_allMembers (s : Symbol) :
    symbolKeys.mapM (Json.field? · s.allMembers)
      = some [some (.string s.name), s.detail.map .string, some (.ofInt32 s.kind.ordinal),
          s.tags.map fun tags => .array (tags.map .ofInt32), s.deprecated.map .bool,
          some s.range.toJson, some s.selectionRange.toJson] := by
  rw [s.allMembers_eq, Json.fields_present s.nodup_fields]
  rfl

/-- The children are the value of their key, read as any other. -/
theorem childrenField?_eq (members : List (String × Json)) :
    childrenField? members = (Json.field? "children" members).bind fun o =>
      o.elim (some none) children? := by
  induction members with
  | nil => rw [childrenField?]; rfl
  | cons m rest ih =>
    obtain ⟨key, v⟩ := m
    by_cases hkey : key = "children"
    · rw [childrenField?, if_pos hkey, Json.field?, List.filter_cons_of_pos (by simpa using hkey)]
      cases hrest : rest.filter (·.1 = "children") with
      | nil =>
        have hany : rest.any (·.1 = "children") = false := by
          rw [List.any_eq_false]
          exact List.filter_eq_nil_iff.mp hrest
        rw [hany]
        rfl
      | cons m' rest' =>
        have hany : rest.any (·.1 = "children") = true := by
          rw [List.any_eq_true]
          have hmem : m' ∈ rest.filter (·.1 = "children") := hrest ▸ List.mem_cons_self
          exact ⟨m', List.mem_filter.mp hmem⟩
        rw [hany]
        rfl
    · rw [childrenField?, if_neg hkey, ih, Json.field?, Json.field?,
        List.filter_cons_of_neg (by simpa using hkey)]

theorem childrenField?_allMembers (s : Symbol) :
    childrenField? s.allMembers
      = match s.children with
        | none => some none
        | some children => (symbols? (toJsonAll children)).map some := by
  rw [childrenField?_eq, s.allMembers_eq, Json.field?_present s.nodup_fields]
  show (s.children.map fun children => .array (toJsonAll children)).elim (some none) children? = _
  cases s.children with
  | none => rfl
  | some children => rw [Option.map_some, Option.elim_some, children?]

theorem optional_tags? (tags : Option (List Int32)) :
    optional tags? (tags.map fun tags => .array (tags.map .ofInt32)) = some tags :=
  Json.optional_map tags?_ofInt32s rfl tags

theorem optional_bool? (b : Option Bool) : optional Json.bool? (b.map .bool) = some b := by
  have hbool : ∀ b, Json.bool? (.bool b) = some b := fun _ => rfl
  exact Json.optional_map hbool rfl b

theorem symbolWith?_fields (s : Symbol) :
    symbolWith? [some (.string s.name), s.detail.map .string, some (.ofInt32 s.kind.ordinal),
        s.tags.map fun tags => .array (tags.map .ofInt32), s.deprecated.map .bool,
        some s.range.toJson, some s.selectionRange.toJson] s.children
      = some s := by
  simp only [symbolWith?, Json.required_some (Json.string?_string _),
    Json.optional_string? s.detail, Json.required_some (kind?_ofInt32 _), optional_tags? s.tags,
    optional_bool? s.deprecated, Json.required_some (range?_toJson _), Option.bind_eq_bind,
    Option.bind_some, Option.pure_def]
  cases s
  rfl

/-- A symbol whose children are read back is read back. -/
theorem symbol?_of_children {s : Symbol} (h : symbols? (toJsonAll s.childList) = some s.childList) :
    symbol? s.toJson = some s := by
  have hchildren : childrenField? s.allMembers = some s.children := by
    rw [childrenField?_allMembers]
    rw [Symbol.childList] at h
    cases hs : s.children with
    | none => rfl
    | some children =>
      rw [hs, Option.getD_some] at h
      simp only [h, Option.map_some]
  rw [Symbol.toJson_eq, symbol?, fields_allMembers, hchildren]
  exact symbolWith?_fields s

theorem symbols?_toJsonAll (symbols : List Symbol) :
    symbols? (toJsonAll symbols) = some symbols := by
  induction symbols using forest_induction with
  | nil => rfl
  | cons s rest ihc ihr =>
    have hs := symbol?_of_children ihc
    simp only [toJsonAll, symbols?, hs, ihr, Option.bind_eq_bind, Option.bind_some, Option.pure_def]

/-- A symbol has no location, so it is none of a flat response. -/
theorem information?_toJson (s : Symbol) : information? s.toJson = none := by
  have hfields : Json.record? ["name", "kind", "tags", "deprecated", "location", "containerName"]
        s.toJson
      = some [some (.string s.name), some (.ofInt32 s.kind.ordinal),
          s.tags.map fun tags => .array (tags.map .ofInt32), s.deprecated.map .bool, none,
          none] := by
    rw [Symbol.toJson_eq, Json.record?, s.allMembers_eq, Json.fields_present s.nodup_fields]
    rfl
  have hlocation : required location? none = none := rfl
  rw [information?, hfields]
  simp only [Json.required_some (Json.string?_string _), Json.required_some (kind?_ofInt32 _),
    optional_tags? s.tags, optional_bool? s.deprecated, hlocation, Option.bind_eq_bind,
    Option.bind_some, Option.bind_none]

/-! ## Responses -/

theorem symbols_of_ofJson? (symbols : List Symbol) :
    ∃ response, ofJson? (.array (toJsonAll symbols)) = some response
      ∧ response.symbols = symbols := by
  cases symbols with
  | nil => exact ⟨.flat [], rfl, rfl⟩
  | cons s rest =>
    have hflat : (toJsonAll (s :: rest)).mapM information? = none := by
      simp only [toJsonAll, List.mapM_cons, information?_toJson, Option.bind_eq_bind,
        Option.bind_none]
    refine ⟨.nested (s :: rest), ?_, rfl⟩
    rw [ofJson?, hflat, symbols?_toJsonAll]
    rfl

theorem parse_of_read_error {text : List Char} {e : Json.ReadError}
    (h : Json.read text = .error e) : parse text = .error (.syntaxError e) := by
  rw [parse, h]

theorem parse_responseText_of_le {symbols : List Symbol} (h : levelsAll symbols ≤ maxLevels) :
    parse (Symbol.responseText symbols) = .ok symbols := by
  have hlevels := Symbol.max_depthItems_toJsonAll symbols
  have hdepth : (Json.array (toJsonAll symbols)).depth ≤ Json.Reader.maxDepth := by
    show 1 + Json.depthItems (toJsonAll symbols) ≤ 127
    change levelsAll symbols ≤ 62 at h
    omega
  have hread := Json.read_compact (v := .array (toJsonAll symbols))
    (Symbol.numbersFitItems_toJsonAll symbols) hdepth
  obtain ⟨response, hresponse, hsymbols⟩ := symbols_of_ofJson? symbols
  rw [parse, Symbol.responseText, hread]
  simp only [hresponse, hsymbols]
  rfl

theorem parse_responseText_of_lt {symbols : List Symbol} (h : maxLevels < levelsAll symbols) :
    ∃ place, parse (Symbol.responseText symbols)
      = .error (.syntaxError ⟨.recursionLimit, place⟩) := by
  have hlevels := Symbol.max_depthItems_toJsonAll symbols
  have hdepth : Json.Reader.maxDepth < (Json.array (toJsonAll symbols)).depth := by
    show 127 < 1 + Json.depthItems (toJsonAll symbols)
    change 62 < levelsAll symbols at h
    omega
  obtain ⟨place, hread⟩ := Json.read_tooDeep .tight (v := .array (toJsonAll symbols))
    (Symbol.numbersFitItems_toJsonAll symbols) hdepth []
  rw [List.append_nil, ← Json.Layout.compact_eq] at hread
  exact ⟨place, parse_of_read_error hread⟩

/-- The text of a nested response stands for just its symbols, as long as they
have no more than 62 levels. With one more it is refused for its brackets, and
no text at all stands for so many levels. -/
theorem nested_text_stands_for_symbols (symbols : List Symbol) :
    (levelsAll symbols ≤ 62 → parse (Symbol.responseText symbols) = .ok symbols)
      ∧ (63 ≤ levelsAll symbols → ∃ e : ResponseError,
          parse (Symbol.responseText symbols) = .error e
          ∧ ∃ line column : Nat, e.message (Symbol.responseText symbols)
            = "recursion limit exceeded" ++ s!" at line {line} column {column}")
      ∧ ∀ text accepted, parse text = .ok accepted → levelsAll accepted ≤ 62 := by
  refine ⟨parse_responseText_of_le, ?_, fun _ _ h => levelsAll_le_of_parse h⟩
  intro h
  obtain ⟨place, hparse⟩ := parse_responseText_of_lt h
  exact ⟨_, hparse, _, _, rfl⟩

/-- A class in a class and so on, with so many classes inside the outermost. -/
def nest : Nat → Symbol
  | 0 => .plain .classKind "é" []
  | n + 1 => .plain .classKind "é" [nest n]

theorem levelsAll_nest (n : Nat) : levelsAll [nest n] = n + 1 := by
  induction n with
  | zero => rfl
  | succ n ih =>
    have hlevels : (nest (n + 1)).levels = 1 + levelsAll [nest n] := Symbol.levels_eq _
    rw [levelsAll, levelsAll, hlevels, ih]
    omega

theorem nested_text_of_nest :
    parse (Symbol.responseText [nest 61]) = .ok [nest 61]
      ∧ (∃ e : ResponseError, parse (Symbol.responseText [nest 62]) = .error e
        ∧ ∃ line column : Nat, e.message (Symbol.responseText [nest 62])
          = "recursion limit exceeded" ++ s!" at line {line} column {column}")
      ∧ levelsAll [nest 61] ≤ 62 := by
  have hshallow := nested_text_stands_for_symbols [nest 61]
  have hdeep := nested_text_stands_for_symbols [nest 62]
  have hparse := hshallow.1 (Nat.le_of_eq (levelsAll_nest 61))
  exact ⟨hparse, hdeep.2.1 (Nat.le_of_eq (levelsAll_nest 62).symm), hshallow.2.2 _ _ hparse⟩

end Response

end SymbolOutline
