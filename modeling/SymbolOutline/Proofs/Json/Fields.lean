import SymbolOutline.Json.Record
import SymbolOutline.Proofs.Json.Reader
import SymbolOutline.Symbol.Json

/-!
# Fields that are read back

Numbers of 32 bits, texts and options are read back from the values they are
written as, and no such number is too large for the reader. A record that has no
member for what is missing is read back field by field (`fields_present`).
-/

namespace SymbolOutline

namespace Json

theorem int32?_ofInt32 (i : Int32) : int32? (.ofInt32 i) = some i := by
  have hread : int32? (.ofInt32 i)
      = if -Int.pow 2 31 ≤ i.toInt ∧ i.toInt < Int.pow 2 31 then some (Int32.ofInt i.toInt)
        else none := rfl
  rw [hread, if_pos ⟨i.le_toInt, i.toInt_lt⟩, Int32.ofInt_toInt]

theorem uint32?_ofUInt32 (n : UInt32) : uint32? (.ofUInt32 n) = some n := by
  have hread : uint32? (.ofUInt32 n)
      = if 0 ≤ (n.toNat : Int) ∧ (n.toNat : Int) < Int.pow 2 32 then
          some (UInt32.ofNat (n.toNat : Int).toNat)
        else none := rfl
  have hhigh : (n.toNat : Int) < Int.pow 2 32 := Int.ofNat_lt.mpr n.toNat_lt
  rw [hread, if_pos ⟨Int.natCast_nonneg _, hhigh⟩, Int.toNat_natCast, UInt32.ofNat_toNat]

theorem string?_string (s : String) : string? (.string s) = some s := rfl

theorem required_some {α : Type} {decode : Json → Option α} {v : Json} {a : α}
    (h : decode v = some a) : required decode (some v) = some a := h

theorem numbersFit_ofInt32 (i : Int32) : (ofInt32 i).NumbersFit := by
  have hlow := i.le_toInt
  have hhigh := i.toInt_lt
  constructor
  · exact Int.le_trans (by decide) hlow
  · exact Int.lt_trans hhigh (by decide)

theorem numbersFit_ofUInt32 (n : UInt32) : (ofUInt32 n).NumbersFit := by
  have hhigh : (n.toNat : Int) < Int.pow 2 32 := Int.ofNat_lt.mpr n.toNat_lt
  constructor
  · exact Int.le_trans (by decide) (Int.natCast_nonneg n.toNat)
  · exact Int.lt_trans hhigh (by decide)

/-- An option is read back, since nothing that is there is written as null. -/
theorem optional_map {α : Type} {encode : α → Json} {decode : Json → Option α}
    (h : ∀ a, decode (encode a) = some a) (hnull : decode .null = none) (o : Option α) :
    optional decode (o.map encode) = some o := by
  cases o with
  | none => rfl
  | some a =>
    rw [Option.map_some, optional, h a]
    · rfl
    · intro he
      have hread := h a
      rw [he, hnull] at hread
      cases hread

theorem optional_string? (o : Option String) : optional string? (o.map .string) = some o :=
  optional_map string?_string rfl o

/-! ## Records -/

/-- The members of a record that has none for what is missing. -/
def present (fields : List (String × Option Json)) : List (String × Json) :=
  fields.filterMap fun field => field.2.map fun v => (field.1, v)

theorem filter_present_of_not_mem {key : String} {fields : List (String × Option Json)}
    (h : key ∉ fields.map Prod.fst) : (present fields).filter (·.1 = key) = [] := by
  rw [List.filter_eq_nil_iff]
  intro m hm hkey
  obtain ⟨field, hfield, hv⟩ := List.mem_filterMap.mp hm
  obtain ⟨v, -, rfl⟩ := Option.map_eq_some_iff.mp hv
  exact h (of_decide_eq_true hkey ▸ List.mem_map_of_mem hfield)

/-- What is found under a key is the value of the field, if it is present. -/
theorem field?_present {fields : List (String × Option Json)}
    (h : (fields.map Prod.fst).Nodup) (key : String) :
    field? key (present fields) = some (fields.lookup key).join := by
  induction fields with
  | nil => rfl
  | cons field fields ih =>
    obtain ⟨name, v⟩ := field
    obtain ⟨hname, hnodup⟩ := List.nodup_cons.mp h
    have hcons : present ((name, v) :: fields)
        = (v.map fun v => (name, v)).toList ++ present fields := by
      cases v <;> rfl
    by_cases hkey : name = key
    · subst hkey
      have hrest := filter_present_of_not_mem hname
      rw [field?, hcons, List.filter_append, hrest, List.lookup_cons_self]
      cases v <;> simp
    · have hlookup : ((name, v) :: fields).lookup key = fields.lookup key := by
        rw [List.lookup_cons, beq_false_of_ne (Ne.symm hkey)]
      have hfilter : ((v.map fun v => (name, v)).toList).filter (·.1 = key) = [] := by
        cases v <;> simp [hkey]
      rw [hlookup, ← ih hnodup, field?, field?, hcons, List.filter_append, hfilter,
        List.nil_append]

theorem fields_present {fields : List (String × Option Json)}
    (h : (fields.map Prod.fst).Nodup) (keys : List String) :
    keys.mapM (field? · (present fields))
      = some (keys.map fun key => (fields.lookup key).join) := by
  induction keys with
  | nil => rfl
  | cons key keys ih =>
    rw [List.mapM_cons, ih, field?_present h]
    rfl

end Json

end SymbolOutline
