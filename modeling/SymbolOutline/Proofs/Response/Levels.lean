import SymbolOutline.Proofs.Json.Depth
import SymbolOutline.Response.Basic

/-!
# Responses are not deep

Each level of nested symbols takes two brackets, and the ranges of the
deepest symbol take two more (`two_mul_levels_le_depth`). The limit on open
brackets leaves room for `Response.maxLevels` levels (`levelsAll_le_of_parse`).
-/

namespace SymbolOutline

namespace Json

theorem depth_le_depthItems {v : Json} {items : List Json} (h : v ∈ items) :
    v.depth ≤ depthItems items := by
  induction items with
  | nil => cases h
  | cons w rest ih =>
    rw [depthItems]
    rcases List.mem_cons.mp h with rfl | h
    · exact Nat.le_max_left _ _
    · exact Nat.le_trans (ih h) (Nat.le_max_right _ _)

theorem depth_le_depthMembers {key : String} {v : Json} {members : List (String × Json)}
    (h : (key, v) ∈ members) : v.depth ≤ depthMembers members := by
  rw [depthMembers_eq]
  exact depth_le_depthItems (List.mem_map_of_mem h)

theorem mem_of_field? {key : String} {members : List (String × Json)} {v : Json}
    (h : field? key members = some (some v)) : (key, v) ∈ members := by
  unfold field? at h
  split at h
  · cases h
  · next key' w hfilter =>
    obtain rfl : w = v := by simpa using h
    have hfound : (key', w) ∈ members.filter (·.1 = key) := by
      rw [hfilter]
      exact List.mem_cons_self
    obtain ⟨hmem, hkey⟩ := List.mem_filter.mp hfound
    have hkey : key' = key := of_decide_eq_true hkey
    rwa [hkey] at hmem
  · cases h

theorem depth_le_of_mem_fields {keys : List String} {members : List (String × Json)}
    {fields : List (Option Json)} (h : keys.mapM (field? · members) = some fields) {v : Json}
    (hv : some v ∈ fields) : v.depth ≤ depthMembers members := by
  induction keys generalizing fields with
  | nil =>
    obtain rfl : [] = fields := by simpa using h
    cases hv
  | cons key keys ih =>
    simp only [List.mapM_cons, Option.bind_eq_bind, Option.bind_eq_some_iff, Option.pure_def,
      Option.some.injEq] at h
    obtain ⟨field, hfield, later, hlater, rfl⟩ := h
    rcases List.mem_cons.mp hv with rfl | hv
    · exact depth_le_depthMembers (mem_of_field? hfield)
    · exact ih hlater hv

/-- A record is one bracket around its fields. -/
theorem depth_lt_of_record? {keys : List String} {v : Json} {fields : List (Option Json)}
    (h : record? keys v = some fields) :
    0 < v.depth ∧ ∀ w, some w ∈ fields → w.depth < v.depth := by
  unfold record? at h
  split at h
  · rw [depth, Nat.add_comm]
    exact ⟨Nat.succ_pos _, fun w hw => Nat.lt_succ_of_le (depth_le_of_mem_fields h hw)⟩
  · split at h
    · obtain rfl := Option.some.inj h
      rw [depth, Nat.add_comm]
      refine ⟨Nat.succ_pos _, fun w hw => Nat.lt_succ_of_le (depth_le_depthItems ?_)⟩
      obtain ⟨w', hw', heq⟩ := List.mem_map.mp hw
      obtain rfl := Option.some.inj heq
      exact hw'
    · cases h
  · cases h

theorem required_eq_some {α : Type} {decode : Json → Option α} {field : Option Json} {a : α}
    (h : required decode field = some a) : ∃ v, field = some v ∧ decode v = some a :=
  Option.bind_eq_some_iff.mp h

end Json

namespace Response

open SymbolOutline.Symbol (levelsAll)

theorem depth_of_position? {v : Json} {p : Position} (h : position? v = some p) : 1 ≤ v.depth := by
  unfold position? at h
  split at h
  · next line character hfields => exact (Json.depth_lt_of_record? hfields).1
  · cases h

theorem depth_of_range? {v : Json} {r : Range} (h : range? v = some r) : 2 ≤ v.depth := by
  unfold range? at h
  split at h
  · next start stop hfields =>
    simp only [Option.bind_eq_bind, Option.bind_eq_some_iff] at h
    obtain ⟨p, hstart, -⟩ := h
    obtain ⟨w, rfl, hp⟩ := Json.required_eq_some hstart
    have hlt := (Json.depth_lt_of_record? hfields).2 w List.mem_cons_self
    have hle := depth_of_position? hp
    omega
  · cases h

/-- A symbol has the children it is given, and the fields of a range among its own. -/
theorem symbolWith?_eq_some {fields : List (Option Json)} {children : Option (List Symbol)}
    {s : Symbol} (h : symbolWith? fields children = some s) :
    s.children = children ∧ ∃ v, some v ∈ fields ∧ 2 ≤ v.depth := by
  unfold symbolWith? at h
  split at h
  · simp only [Option.bind_eq_bind, Option.bind_eq_some_iff, Option.pure_def,
      Option.some.injEq] at h
    obtain ⟨_, -, _, -, _, -, _, -, _, -, r, hr, _, -, rfl⟩ := h
    obtain ⟨w, rfl, hr⟩ := Json.required_eq_some hr
    exact ⟨rfl, w, by simp, depth_of_range? hr⟩
  · cases h

/-- The levels of children and the brackets around them. -/
def ChildrenFit (children : Option (List Symbol)) (depth : Nat) : Prop :=
  levelsAll (children.getD []) = 0 ∨ 2 * levelsAll (children.getD []) + 2 ≤ depth

theorem ChildrenFit.levels {s : Symbol} {children : Option (List Symbol)} {depth : Nat}
    (h : ChildrenFit children depth) (hs : s.children = children) (hdepth : 2 ≤ depth) :
    2 * s.levels + 1 ≤ 1 + depth := by
  have hlevels : s.levels = 1 + levelsAll (children.getD []) := by
    rw [Symbol.levels_eq, Symbol.childList, hs]
  rcases h with h | h <;> omega

mutual

/-- Two brackets for each level, and two more for the ranges of the last. -/
theorem two_mul_levels_le_depth : ∀ {v : Json} {s : Symbol}, symbol? v = some s →
    2 * s.levels + 1 ≤ v.depth
  | .object members, s, h => by
    rw [symbol?] at h
    simp only [Option.bind_eq_bind, Option.bind_eq_some_iff] at h
    obtain ⟨fields, hfields, children, hchildren, hs⟩ := h
    obtain ⟨hs, v, hv, hdepth⟩ := symbolWith?_eq_some hs
    have hle := Json.depth_le_of_mem_fields hfields hv
    exact (childrenFit_of_childrenField? hchildren).levels hs (Nat.le_trans hdepth hle)
  | .array [name, detail, kind, tags, deprecated, range, selectionRange, field], s, h => by
    rw [symbol?] at h
    simp only [Option.bind_eq_bind, Option.bind_eq_some_iff] at h
    obtain ⟨children, hchildren, hs⟩ := h
    obtain ⟨hs, v, hv, hdepth⟩ := symbolWith?_eq_some hs
    have hmem : v ∈ [name, detail, kind, tags, deprecated, range, selectionRange, field] := by
      obtain ⟨w, hw, heq⟩ := List.mem_map.mp hv
      obtain rfl := Option.some.inj heq
      exact List.mem_append_left [field] hw
    have hle := Json.depth_le_depthItems hmem
    have hfield := Json.depth_le_depthItems
      (List.mem_append_right [name, detail, kind, tags, deprecated, range, selectionRange]
        (List.mem_singleton_self field))
    have hfit := childrenFit_of_children? hchildren
    have hfit : ChildrenFit children (Json.depthItems
        [name, detail, kind, tags, deprecated, range, selectionRange, field]) :=
      hfit.imp_right fun h => Nat.le_trans h hfield
    exact hfit.levels hs (Nat.le_trans hdepth hle)

theorem childrenFit_of_childrenField? : ∀ {members : List (String × Json)}
    {children : Option (List Symbol)}, childrenField? members = some children →
      ChildrenFit children (Json.depthMembers members)
  | [], children, h => by
    obtain rfl := Option.some.inj h
    exact .inl rfl
  | (key, v) :: rest, children, h => by
    rw [childrenField?] at h
    rw [Json.depthMembers]
    split at h
    · split at h
      · cases h
      · exact (childrenFit_of_children? h).imp_right fun h => Nat.le_trans h (Nat.le_max_left _ _)
    · exact (childrenFit_of_childrenField? h).imp_right fun h =>
        Nat.le_trans h (Nat.le_max_right _ _)

theorem childrenFit_of_children? : ∀ {v : Json} {children : Option (List Symbol)},
    children? v = some children → ChildrenFit children v.depth
  | .null, children, h => by
    obtain rfl := Option.some.inj h
    exact .inl rfl
  | .array items, children, h => by
    rw [children?, Option.map_eq_some_iff] at h
    obtain ⟨symbols, hsymbols, rfl⟩ := h
    rw [Json.depth]
    exact (levelsAll_of_symbols? hsymbols).imp_right fun h => by
      rw [Option.getD_some]
      omega

theorem levelsAll_of_symbols? : ∀ {items : List Json} {symbols : List Symbol},
    symbols? items = some symbols →
      levelsAll symbols = 0 ∨ 2 * levelsAll symbols + 1 ≤ Json.depthItems items
  | [], symbols, h => by
    obtain rfl := Option.some.inj h
    exact .inl rfl
  | v :: items, symbols, h => by
    rw [symbols?] at h
    simp only [Option.bind_eq_bind, Option.bind_eq_some_iff, Option.pure_def,
      Option.some.injEq] at h
    obtain ⟨s, hs, rest, hrest, rfl⟩ := h
    have hfirst := two_mul_levels_le_depth hs
    have hlater := levelsAll_of_symbols? hrest
    rw [levelsAll, Json.depthItems]
    omega

end

/-- The most levels of nested symbols that a response can have. -/
def maxLevels : Nat := 62

theorem levelsAll_leaves_le (infos : List Information) :
    levelsAll (infos.map Information.leaf) ≤ 1 := by
  induction infos with
  | nil => exact Nat.zero_le 1
  | cons info rest ih =>
    rw [List.map_cons, levelsAll]
    exact Nat.max_le.mpr ⟨Nat.le_refl 1, ih⟩

theorem levelsAll_of_ofJson? {v : Json} {response : Response} (h : ofJson? v = some response) :
    levelsAll response.symbols ≤ 1 ∨ 2 * levelsAll response.symbols + 2 ≤ v.depth := by
  unfold ofJson? at h
  split at h
  · next items =>
    split at h
    · next infos _ =>
      obtain rfl := Option.some.inj h
      exact .inl (levelsAll_leaves_le infos)
    · obtain ⟨symbols, hsymbols, rfl⟩ := Option.map_eq_some_iff.mp h
      have hlevels := levelsAll_of_symbols? hsymbols
      show levelsAll symbols ≤ 1 ∨ 2 * levelsAll symbols + 2 ≤ 1 + Json.depthItems items
      omega
  · cases h

/-- What parsing a text went through. -/
theorem parse_eq_ok {text : List Char} {symbols : List Symbol} (h : parse text = .ok symbols) :
    ∃ v rest response, Json.read text = .ok (v, rest) ∧ ofJson? v = some response
      ∧ Json.expectEnd rest = .ok () ∧ symbols = response.symbols := by
  unfold parse at h
  split at h
  · cases h
  · next v rest hread =>
    split at h
    · cases h
    · next response hresponse =>
      split at h
      · cases h
      · next hend =>
        obtain rfl := Except.ok.inj h
        exact ⟨v, rest, response, hread, hresponse, hend, rfl⟩

/-- The symbols of an accepted text have no more levels than fit. -/
theorem levelsAll_le_of_parse {text : List Char} {symbols : List Symbol}
    (h : parse text = .ok symbols) : levelsAll symbols ≤ maxLevels := by
  obtain ⟨v, rest, response, hread, hresponse, -, rfl⟩ := parse_eq_ok h
  have hdepth : v.depth ≤ 127 := Json.depth_le_of_read hread
  have hlevels := levelsAll_of_ofJson? hresponse
  show levelsAll response.symbols ≤ 62
  omega

end Response

end SymbolOutline
