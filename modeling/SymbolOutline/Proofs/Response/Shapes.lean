import Mathlib.Data.List.Forall2
import Mathlib.Logic.Basic
import SymbolOutline.Proofs.Outline.Build
import SymbolOutline.Proofs.Response.Nested

/-!
# The two shapes of a response

All items of a response are of one shape. If every item fits the flat one, all
are read as leaves, whatever else they carry; if not, all are read as nested
symbols, and where one is none the text is refused (`parse_eq_ok_iff`). An
unsorted outline of a flat response lists its visible items
(`Outline.entries_build_flat`).
-/

namespace SymbolOutline

/-! ## Lists read item by item -/

section

variable {α β : Type} {f g : α → Option β} {l : List α}

theorem mapM_congr (h : ∀ a ∈ l, f a = g a) : l.mapM f = l.mapM g := by
  induction l with
  | nil => rfl
  | cons a l ih =>
    obtain ⟨ha, hl⟩ := List.forall_mem_cons.mp h
    rw [List.mapM_cons, List.mapM_cons, ha, ih hl]

theorem mapM_eq_some_iff {results : List β} :
    l.mapM f = some results ↔ List.Forall₂ (fun a b => f a = some b) l results := by
  induction l generalizing results with
  | nil => simp [eq_comm]
  | cons a l ih =>
    simp only [List.mapM_cons, Option.bind_eq_bind, Option.bind_eq_some_iff, Option.pure_def,
      Option.some.injEq]
    constructor
    · rintro ⟨b, hb, rest, hrest, rfl⟩
      exact .cons hb (ih.mp hrest)
    · rintro (_ | ⟨hb, hrest⟩)
      exact ⟨_, hb, _, ih.mpr hrest, rfl⟩

theorem mapM_eq_none_iff : l.mapM f = none ↔ ∃ a ∈ l, f a = none := by
  induction l with
  | nil => simp
  | cons a l ih =>
    rw [List.exists_mem_cons_iff, ← ih, List.mapM_cons]
    cases f a with
    | none => simp
    | some b => cases l.mapM f <;> simp

end

namespace Json

/-- A record has no more than its own members. -/
theorem record?_filter (keys : List String) (members : List (String × Json)) :
    record? keys (.object (members.filter (·.1 ∈ keys))) = record? keys (.object members) := by
  have hfield : ∀ key ∈ keys, field? key (members.filter (·.1 ∈ keys)) = field? key members := by
    intro key hkey
    have hfilter : (members.filter (·.1 ∈ keys)).filter (·.1 = key)
        = members.filter (·.1 = key) := by
      rw [List.filter_filter]
      refine List.filter_congr fun m _ => ?_
      by_cases hm : m.1 = key
      · simp [hm, hkey]
      · simp [hm]
    rw [field?, field?, hfilter]
  exact mapM_congr hfield

end Json

namespace Response

open Json (record? required optional string? bool?)

/-! ## Flat items -/

/-- The keys of a flat item. -/
def informationKeys : List String :=
  ["name", "kind", "tags", "deprecated", "location", "containerName"]

/-- The value has the fields of a flat item, one under each key; the range is
that of the location. -/
def ReadsAs (v : Json) (info : Information) : Prop :=
  ∃ name kind tags deprecated location containerName,
    record? informationKeys v = some [name, kind, tags, deprecated, location, containerName]
      ∧ required string? name = some info.name
      ∧ required kind? kind = some info.kind
      ∧ optional tags? tags = some info.tags
      ∧ optional bool? deprecated = some info.deprecated
      ∧ required location? location = some info.range
      ∧ optional string? containerName = some info.containerName

theorem information?_eq_some_iff {v : Json} {info : Information} :
    information? v = some info ↔ ReadsAs v info := by
  constructor
  · intro h
    unfold information? at h
    split at h
    · next name kind tags deprecated location containerName hfields =>
      simp only [Option.bind_eq_bind, Option.bind_eq_some_iff, Option.pure_def,
        Option.some.injEq] at h
      obtain ⟨_, hname, _, hkind, _, htags, _, hdeprecated, _, hrange, _, hcontainer, rfl⟩ := h
      exact ⟨name, kind, tags, deprecated, location, containerName, hfields, hname, hkind, htags,
        hdeprecated, hrange, hcontainer⟩
    · cases h
  · rintro ⟨name, kind, tags, deprecated, location, containerName, hfields, hname, hkind, htags,
      hdeprecated, hrange, hcontainer⟩
    unfold informationKeys at hfields
    rw [information?, hfields]
    simp only [hname, hkind, htags, hdeprecated, hrange, hcontainer, Option.bind_eq_bind,
      Option.bind_some, Option.pure_def]

theorem information?_eq_none_iff {v : Json} :
    information? v = none ↔ ∀ info, ¬ReadsAs v info := by
  rw [Option.eq_none_iff_forall_ne_some]
  exact forall_congr' fun info => not_congr information?_eq_some_iff

/-- Members under other keys, such as `children`, are passed over. -/
theorem readsAs_filter (members : List (String × Json)) (info : Information) :
    ReadsAs (.object (members.filter (·.1 ∈ informationKeys))) info
      ↔ ReadsAs (.object members) info := by
  unfold ReadsAs
  rw [Json.record?_filter]

/-! ## One shape for all items -/

theorem symbols?_eq_mapM (items : List Json) : symbols? items = items.mapM symbol? := by
  induction items with
  | nil => rfl
  | cons v rest ih => rw [symbols?, ih, List.mapM_cons]

theorem ofJson?_eq_flat_iff {items : List Json} {infos : List Information} :
    ofJson? (.array items) = some (.flat infos) ↔ List.Forall₂ ReadsAs items infos := by
  have hflat : items.mapM information? = some infos ↔ List.Forall₂ ReadsAs items infos := by
    simp only [mapM_eq_some_iff, information?_eq_some_iff]
  rw [← hflat, ofJson?]
  cases items.mapM information? with
  | none => simp
  | some infos' => simp

theorem ofJson?_eq_nested_iff {items : List Json} {symbols : List Symbol} :
    ofJson? (.array items) = some (.nested symbols)
      ↔ (∃ v ∈ items, ∀ info, ¬ReadsAs v info)
        ∧ List.Forall₂ (fun v s => symbol? v = some s) items symbols := by
  have hflat : items.mapM information? = none ↔ ∃ v ∈ items, ∀ info, ¬ReadsAs v info := by
    simp only [mapM_eq_none_iff, information?_eq_none_iff]
  rw [← hflat, ← mapM_eq_some_iff, ← symbols?_eq_mapM, ofJson?]
  cases items.mapM information? with
  | none => simp
  | some infos => simp

theorem parse_of_ofJson? {text rest : List Char} {v : Json} {response : Response}
    (hread : Json.read text = .ok (v, rest)) (hresponse : ofJson? v = some response)
    (hend : Json.expectEnd rest = .ok ()) : parse text = .ok response.symbols := by
  rw [parse, hread]
  simp only [hresponse, hend]

theorem parse_of_ofJson?_none {text rest : List Char} {v : Json}
    (hread : Json.read text = .ok (v, rest)) (h : ofJson? v = none) :
    parse text = .error .wrongShape := by
  rw [parse, hread]
  simp only [h]

/-- A value that is no list is no response. -/
theorem exists_items_of_ofJson? {v : Json} {response : Response} (h : ofJson? v = some response) :
    ∃ items, v = .array items := by
  unfold ofJson? at h
  split at h
  · next items => exact ⟨items, rfl⟩
  · cases h

/-- The items as a flat list, which stands for leaves. -/
def ReadsAsFlat (items : List Json) (symbols : List Symbol) : Prop :=
  ∃ infos, List.Forall₂ ReadsAs items infos ∧ symbols = infos.map fun info =>
    { name := info.name, detail := info.containerName, kind := info.kind, tags := info.tags,
      deprecated := info.deprecated, range := info.range, selectionRange := info.range,
      children := none }

/-- The items as nested symbols, of which some cannot be read as a flat one. -/
def ReadsAsNested (items : List Json) (symbols : List Symbol) : Prop :=
  (∃ v ∈ items, ∀ info, ¬ReadsAs v info)
    ∧ List.Forall₂ (fun v s => symbol? v = some s) items symbols

theorem ofJson?_symbols_iff {items : List Json} {symbols : List Symbol} :
    (∃ response, ofJson? (.array items) = some response ∧ symbols = response.symbols)
      ↔ ReadsAsFlat items symbols ∨ ReadsAsNested items symbols := by
  constructor
  · rintro ⟨response, hresponse, rfl⟩
    cases response with
    | flat infos => exact .inl ⟨infos, ofJson?_eq_flat_iff.mp hresponse, rfl⟩
    | nested symbols => exact .inr (ofJson?_eq_nested_iff.mp hresponse)
  · rintro (⟨infos, hinfos, rfl⟩ | h)
    · exact ⟨.flat infos, ofJson?_eq_flat_iff.mpr hinfos, rfl⟩
    · exact ⟨.nested symbols, ofJson?_eq_nested_iff.mpr h, rfl⟩

/-- No list reads both ways. -/
theorem not_readsAsNested_of_flat {items : List Json} {symbols symbols' : List Symbol}
    (h : ReadsAsFlat items symbols) : ¬ReadsAsNested items symbols' := by
  intro h'
  obtain ⟨infos, hinfos, -⟩ := h
  have hflat := ofJson?_eq_flat_iff.mpr hinfos
  rw [ofJson?_eq_nested_iff.mpr h'] at hflat
  cases hflat

theorem parse_eq_ok_iff {text : List Char} {symbols : List Symbol} :
    parse text = .ok symbols
      ↔ ∃ items rest, Json.read text = .ok (.array items, rest) ∧ Json.expectEnd rest = .ok ()
        ∧ Xor (ReadsAsFlat items symbols) (ReadsAsNested items symbols) := by
  constructor
  · intro h
    obtain ⟨v, rest, response, hread, hresponse, hend, hsymbols⟩ := parse_eq_ok h
    obtain ⟨items, rfl⟩ := exists_items_of_ofJson? hresponse
    refine ⟨items, rest, hread, hend, ?_⟩
    rcases ofJson?_symbols_iff.mp ⟨response, hresponse, hsymbols⟩ with hflat | hnested
    · exact .inl ⟨hflat, not_readsAsNested_of_flat hflat⟩
    · exact .inr ⟨hnested, fun hflat => not_readsAsNested_of_flat hflat hnested⟩
  · rintro ⟨items, rest, hread, hend, hshape⟩
    obtain ⟨response, hresponse, hsymbols⟩ := ofJson?_symbols_iff.mpr hshape.or
    rw [hsymbols]
    exact parse_of_ofJson? hread hresponse hend

/-- An item that is not flat and an item that is not nested do not go together. -/
theorem parse_mixed {text rest : List Char} {items : List Json}
    (hread : Json.read text = .ok (.array items, rest))
    (hnested : ∃ v ∈ items, symbol? v = none) (hflat : ∃ v ∈ items, ∀ info, ¬ReadsAs v info) :
    parse text = .error .wrongShape := by
  have hnone : items.mapM information? = none := by
    simpa only [mapM_eq_none_iff, information?_eq_none_iff] using hflat
  refine parse_of_ofJson?_none hread ?_
  rw [ofJson?, hnone, symbols?_eq_mapM, mapM_eq_none_iff.mpr hnested]
  rfl

end Response

/-! ## Outlines of flat responses -/

/-- The entry of a flat item, which has nothing below it. -/
def Information.entry (info : Information) : Entry where
  name := info.name
  kind := info.kind
  label := info.kind.label
  weight := info.kind.weight
  detail := info.containerName.filter (· ≠ "")
  line := info.range.start.line
  children := []

namespace Outline

theorem ofTree_normalized_leaf (options : BuildOptions) (depth : Nat) (info : Information) :
    Entry.ofTree options depth info.leaf.normalized = info.entry := by
  have hnormalized : info.leaf.normalized = { info.leaf with children := some [] } := by
    rw [Symbol.normalized_eq]
    rfl
  have hlevel : Entry.ofLevel options (depth + 1) [] = [] := by
    rw [Builder.ofLevel_eq]
    simp [Builder.arrange]
  rw [hnormalized, Entry.ofTree_eq]
  exact congrArg (fun children => { Entry.ofSymbol info.leaf with children }) hlevel

/-- The visible items of a flat response, in their order. -/
theorem entries_build_flat {maxDepth : Option Nat} (h : ∀ limit ∈ maxDepth, 1 ≤ limit) (log : Log)
    (infos : List Information) :
    (build ⟨false, maxDepth⟩ log (infos.map Information.leaf)).1.entries
      = (infos.filter fun info =>
          ¬Name.isPrivate info.name ∧ info.kind ≠ SymbolKind.propertyKind).map
            Information.entry := by
  have hshows : (⟨false, maxDepth⟩ : BuildOptions).Shows 1 := h
  have hvisible : Symbol.isVisibleRoot ∘ Information.leaf
      = fun info => decide (¬Name.isPrivate info.name ∧ info.kind ≠ SymbolKind.propertyKind) := by
    funext info
    rw [Bool.eq_iff_iff, decide_eq_true_iff]
    exact Symbol.isVisibleRoot_iff
  rw [build_eq, Entry.ofLevel, if_pos hshows, if_neg Bool.false_ne_true, Entry.ofTrees_eq_map,
    Symbol.shownRoots, List.filter_map, hvisible, List.map_map, List.map_map]
  exact List.map_congr_left fun info _ => ofTree_normalized_leaf ⟨false, maxDepth⟩ 1 info

end Outline

namespace Response

/-- The location of a flat item. -/
def locationMember : String × Json :=
  ("location", .object [("uri", .string "file:///server.py"), ("range", (default : Range).toJson)])

/-- A flat item, and no nested one. -/
def flatOnly : Json := .object [("name", .string "run"), ("kind", .ofInt32 12), locationMember]

/-- A class with members and a location, which fits both shapes. -/
def bothShapes : Json := .object (Symbol.server.allMembers ++ [locationMember])

example : (symbol? bothShapes).isSome ∧ (information? bothShapes).isSome := by decide +kernel

/-- A list of flat items, of which one has children. -/
def flatText : List Char := Json.compact (.array [flatOnly, bothShapes])

/-- A flat item, and a symbol without a location. -/
def mixedText : List Char := Json.compact (.array [flatOnly, Symbol.server.toJson])

/-- The items of `flatText`. -/
def flatInfos : List Information :=
  [⟨"run", .functionKind, none, none, default, none⟩,
    ⟨"Server", .classKind, none, none, default, none⟩]

theorem forall₂_flatInfos : List.Forall₂ ReadsAs [flatOnly, bothShapes] flatInfos :=
  .cons ⟨_, _, _, _, _, _, rfl, rfl, by decide +kernel, rfl, rfl, by decide +kernel, rfl⟩
    (.cons ⟨_, _, _, _, _, _, rfl, rfl, by decide +kernel, rfl, rfl, by decide +kernel, rfl⟩ .nil)

theorem numbersFit_flatOnly : flatOnly.NumbersFit :=
  ⟨trivial, Json.numbersFit_ofInt32 12, ⟨trivial, Range.numbersFit_toJson default, trivial⟩,
    trivial⟩

theorem numbersFit_server : Symbol.server.toJson.NumbersFit :=
  (Symbol.numbersFitItems_toJsonAll [.server]).1

theorem read_flatText : Json.read flatText = .ok (.array [flatOnly, bothShapes], []) := by
  have hmembers := numbersFit_server
  rw [Symbol.toJson_eq] at hmembers
  have hboth : bothShapes.NumbersFit := Json.numbersFitMembers_append.mpr
    ⟨hmembers, ⟨trivial, Range.numbersFit_toJson default, trivial⟩, trivial⟩
  exact Json.read_compact (v := .array [flatOnly, bothShapes])
    ⟨numbersFit_flatOnly, hboth, trivial⟩ (by decide +kernel)

theorem read_mixedText :
    Json.read mixedText = .ok (.array [flatOnly, Symbol.server.toJson], []) :=
  Json.read_compact (v := .array [flatOnly, Symbol.server.toJson])
    ⟨numbersFit_flatOnly, numbersFit_server, trivial⟩ (by decide +kernel)

end Response

end SymbolOutline
