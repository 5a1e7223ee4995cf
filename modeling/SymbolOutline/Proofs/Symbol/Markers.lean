import SymbolOutline.Symbol.Policy

/-!
# Accessor markers

`Name.stripMarkers` leaves no marker in front of a name, and leaves a name
without one as it is. What it takes away are markers and nothing else
(`stripMarkers_eq_iff`), so markers put before a name make no difference to it.
-/

namespace SymbolOutline.Name

/-- The text starts with a marker. -/
def Marked (text : List Char) : Prop := ∃ m ∈ markers, m.toList <+: text

theorem toList_get : "(get) ".toList = ['(', 'g', 'e', 't', ')', ' '] := by decide

theorem toList_set : "(set) ".toList = ['(', 's', 'e', 't', ')', ' '] := by decide

theorem marked_iff {text : List Char} :
    Marked text ↔ (∃ rest, text = '(' :: 'g' :: 'e' :: 't' :: ')' :: ' ' :: rest)
      ∨ ∃ rest, text = '(' :: 's' :: 'e' :: 't' :: ')' :: ' ' :: rest := by
  constructor
  · rintro ⟨m, hm, rest, rfl⟩
    rcases List.mem_cons.mp hm with rfl | hm
    · exact .inl ⟨rest, by rw [toList_get]; rfl⟩
    · obtain rfl := List.mem_singleton.mp hm
      exact .inr ⟨rest, by rw [toList_set]; rfl⟩
  · rintro (⟨rest, rfl⟩ | ⟨rest, rfl⟩)
    · exact ⟨_, List.mem_cons_self, rest, by rw [toList_get]; rfl⟩
    · exact ⟨_, List.mem_cons_of_mem _ List.mem_cons_self, rest, by rw [toList_set]; rfl⟩

theorem not_marked_dropMarkers (text : List Char) : ¬Marked (dropMarkers text) := by
  fun_induction dropMarkers text with
  | case1 rest ih => exact ih
  | case2 rest ih => exact ih
  | case3 text hget hset =>
    rw [marked_iff]
    rintro (⟨rest, rfl⟩ | ⟨rest, rfl⟩)
    · exact hget rest rfl
    · exact hset rest rfl

theorem dropMarkers_eq_self {text : List Char} (h : ¬Marked text) : dropMarkers text = text := by
  rw [marked_iff, not_or] at h
  fun_cases dropMarkers text with
  | case1 rest => exact absurd ⟨rest, rfl⟩ h.1
  | case2 rest => exact absurd ⟨rest, rfl⟩ h.2
  | case3 => rfl

theorem not_hasMarker_stripMarkers (name : String) : ¬HasMarker (stripMarkers name) := by
  have h := not_marked_dropMarkers name.toList
  rwa [← String.toList_ofList (l := dropMarkers name.toList)] at h

theorem stripMarkers_eq_self {name : String} (h : ¬HasMarker name) : stripMarkers name = name := by
  rw [stripMarkers, dropMarkers_eq_self h, String.ofList_toList]

theorem dropMarkers_append {m : String} (hm : m ∈ markers) (text : List Char) :
    dropMarkers (m.toList ++ text) = dropMarkers text := by
  rcases List.mem_cons.mp hm with rfl | hm
  · rw [toList_get]
    rfl
  · obtain rfl := List.mem_singleton.mp hm
    rw [toList_set]
    rfl

theorem stripMarkers_append {m : String} (hm : m ∈ markers) (name : String) :
    stripMarkers (m ++ name) = stripMarkers name := by
  rw [stripMarkers, stripMarkers, String.toList_append, dropMarkers_append hm]

theorem stripMarkers_join_append {ms : List String} (h : ∀ m ∈ ms, m ∈ markers) (name : String) :
    stripMarkers (String.join ms ++ name) = stripMarkers name := by
  induction ms with
  | nil => rw [String.join_nil, String.empty_append]
  | cons m ms ih =>
    obtain ⟨hm, hms⟩ := List.forall_mem_cons.mp h
    rw [String.join_cons, String.append_assoc, stripMarkers_append hm, ih hms]

/-- What is dropped are markers, and nothing else. -/
theorem exists_join_dropMarkers (text : List Char) :
    ∃ ms : List String, (∀ m ∈ ms, m ∈ markers)
      ∧ text = (String.join ms).toList ++ dropMarkers text := by
  fun_induction dropMarkers text with
  | case1 rest ih =>
    obtain ⟨ms, hms, hrest⟩ := ih
    refine ⟨"(get) " :: ms, List.forall_mem_cons.mpr ⟨by decide, hms⟩, ?_⟩
    rw [String.join_cons, String.toList_append, List.append_assoc, ← hrest, toList_get]
    rfl
  | case2 rest ih =>
    obtain ⟨ms, hms, hrest⟩ := ih
    refine ⟨"(set) " :: ms, List.forall_mem_cons.mpr ⟨by decide, hms⟩, ?_⟩
    rw [String.join_cons, String.toList_append, List.append_assoc, ← hrest, toList_set]
    rfl
  | case3 text hget hset => exact ⟨[], List.forall_mem_nil _, by rw [String.join_nil]; rfl⟩

/-- The stripped name is what is left of a name after all its markers, however
it is taken apart. -/
theorem stripMarkers_eq_iff {name rest : String} :
    stripMarkers name = rest
      ↔ (∃ ms : List String, (∀ m ∈ ms, m ∈ markers) ∧ name = String.join ms ++ rest)
        ∧ ¬HasMarker rest := by
  constructor
  · rintro rfl
    obtain ⟨ms, hms, hname⟩ := exists_join_dropMarkers name.toList
    refine ⟨⟨ms, hms, ?_⟩, not_hasMarker_stripMarkers name⟩
    rw [← String.toList_inj, String.toList_append, stripMarkers, String.toList_ofList]
    exact hname
  · rintro ⟨⟨ms, hms, rfl⟩, hrest⟩
    rw [stripMarkers_join_append hms, stripMarkers_eq_self hrest]

theorem stripMarkers_eq_self_iff {name : String} : stripMarkers name = name ↔ ¬HasMarker name := by
  refine ⟨fun h => ?_, stripMarkers_eq_self⟩
  rw [← h]
  exact not_hasMarker_stripMarkers name

theorem stripMarkers_stripMarkers (name : String) :
    stripMarkers (stripMarkers name) = stripMarkers name :=
  stripMarkers_eq_self (not_hasMarker_stripMarkers name)

end SymbolOutline.Name
