import Mathlib.Data.List.Forall2
import SymbolOutline.Proofs.Symbol.Markers
import SymbolOutline.Proofs.Symbol.Node
import SymbolOutline.Proofs.Symbol.Normalize

/-!
# Markers before the names of a tree

`Symbol.markedBelow` puts markers before the names of any symbols below a root.
Normalization does not see them: it leaves the same symbols
(`survivors_markedAll`), logs the same but for the markers of dropped symbols
(`eventsAll_markedAll`), and drops the same nodes as private (`nodesAll_markedAll`).
-/

namespace SymbolOutline

/-- The event with the name of a dropped symbol stripped. -/
def Event.stripped : Event → Event
  | .hidChild kind name parent => .hidChild kind (Name.stripMarkers name) parent
  | .hidPrivate name => .hidPrivate (Name.stripMarkers name)
  | event => event

namespace Symbol

mutual

/-- The symbol with a text put before its name and those of the symbols below
it. `marks` has the parts of the text for each address, seen from the symbol. -/
def marked (marks : List Nat → List String) : Symbol → Symbol
  | ⟨name, detail, kind, tags, deprecated, range, selectionRange, none⟩ =>
    ⟨String.join (marks []) ++ name, detail, kind, tags, deprecated, range, selectionRange, none⟩
  | ⟨name, detail, kind, tags, deprecated, range, selectionRange, some children⟩ =>
    ⟨String.join (marks []) ++ name, detail, kind, tags, deprecated, range, selectionRange,
      some (markedAll marks 0 children)⟩

/-- The same for siblings that are numbered from `i`. -/
def markedAll (marks : List Nat → List String) (i : Nat) : List Symbol → List Symbol
  | [] => []
  | s :: rest => marked (fun address => marks (i :: address)) s :: markedAll marks (i + 1) rest

end

/-- The symbol with its own name, and texts put before those below it. -/
def markedBelow (marks : List Nat → List String) (s : Symbol) : Symbol :=
  { s with children := s.children.map (markedAll marks 0) }

/-- Nothing but markers is put before names. -/
def OnlyMarkers (marks : List Nat → List String) : Prop :=
  ∀ address, ∀ m ∈ marks address, m ∈ Name.markers

/-- The two have their kind and, but for markers, their name in common. -/
def SameStripped (s t : Symbol) : Prop :=
  t.kind = s.kind ∧ Name.stripMarkers t.name = Name.stripMarkers s.name

/-- Below a parent of the given kind, the symbols of a path are kept one after
the other but for the last, which is dropped for its name. -/
def EndsPrivate (parent : SymbolKind) : List Symbol → Prop
  | [] => False
  | [s] => fate parent s = .dropped (.hidPrivate s.name)
  | s :: t :: path => ¬s.IsHidden parent ∧ EndsPrivate s.kind (t :: path)

theorem marked_eq (marks : List Nat → List String) (s : Symbol) :
    s.marked marks
      = { s with
          name := String.join (marks []) ++ s.name
          children := s.children.map (markedAll marks 0) } := by
  obtain ⟨_, _, _, _, _, _, _, children⟩ := s
  cases children <;> rfl

theorem childList_markedBelow (marks : List Nat → List String) (s : Symbol) :
    (s.markedBelow marks).childList = markedAll marks 0 s.childList := by
  unfold markedBelow childList
  cases s.children <;> rfl

theorem childList_marked (marks : List Nat → List String) (s : Symbol) :
    (s.marked marks).childList = markedAll marks 0 s.childList := by
  rw [← childList_markedBelow, marked_eq]
  rfl

theorem length_markedAll (marks : List Nat → List String) (i : Nat) (forest : List Symbol) :
    (markedAll marks i forest).length = forest.length := by
  induction forest generalizing i with
  | nil => rfl
  | cons s rest ih => rw [markedAll, List.length_cons, List.length_cons, ih]

theorem OnlyMarkers.below {marks : List Nat → List String} (h : OnlyMarkers marks) (i : Nat) :
    OnlyMarkers fun address => marks (i :: address) := fun address => h (i :: address)

section

variable {s t : Symbol} {parent : SymbolKind}

theorem SameStripped.isHidden_iff (h : SameStripped s t) :
    t.IsHidden parent ↔ s.IsHidden parent := by
  rw [IsHidden, IsHidden, h.1, h.2]

/-- Markers do not decide whether a symbol is dropped for its name. -/
theorem SameStripped.fate_iff (h : SameStripped s t) :
    fate parent t = .dropped (.hidPrivate t.name)
      ↔ fate parent s = .dropped (.hidPrivate s.name) := by
  unfold fate
  rw [h.1, h.2]
  split
  · simp
  · split <;> simp

theorem SameStripped.endsPrivate_iff {path path' : List Symbol}
    (h : List.Forall₂ SameStripped path path') :
    EndsPrivate parent path' ↔ EndsPrivate parent path := by
  induction h generalizing parent with
  | nil => rfl
  | cons hs hrest ih =>
    cases hrest with
    | nil => exact hs.fate_iff
    | cons => rw [EndsPrivate, EndsPrivate, hs.isHidden_iff, hs.1, ih]

end

/-! ## Marked forests -/

section

variable {marks : List Nat → List String}

theorem sameStripped_marked (h : OnlyMarkers marks) (s : Symbol) :
    SameStripped s (s.marked marks) := by
  rw [marked_eq]
  exact ⟨rfl, Name.stripMarkers_join_append (h []) s.name⟩

theorem survivors_markedAll (h : OnlyMarkers marks) (i : Nat) (parent : SymbolKind)
    (forest : List Symbol) :
    survivors parent (markedAll marks i forest) = survivors parent forest := by
  induction forest using forest_induction generalizing marks i parent with
  | nil => rfl
  | cons s rest ihc ihr =>
    have hsame := sameStripped_marked (h.below i) s
    have hrebuilt : (s.marked fun address => marks (i :: address)).rebuilt
        (Name.stripMarkers s.name) = s.rebuilt (Name.stripMarkers s.name) := by
      rw [rebuilt_eq, rebuilt_eq, childList_marked, ihc (h.below i), hsame.1, marked_eq]
    rw [markedAll, survivors, survivors, ihr h, hsame.2, hrebuilt]
    by_cases hs : s.IsHidden parent
    · rw [if_pos (hsame.isHidden_iff.mpr hs), if_pos hs]
    · rw [if_neg (mt hsame.isHidden_iff.mp hs), if_neg hs]

/-- What is logged differs in the markers of dropped symbols only. -/
theorem eventsAll_markedAll (h : OnlyMarkers marks) (i : Nat) (parent : SymbolKind)
    (forest : List Symbol) :
    (eventsAll parent (markedAll marks i forest)).map Event.stripped
      = (eventsAll parent forest).map Event.stripped := by
  induction forest using forest_induction generalizing marks i parent with
  | nil => rfl
  | cons s rest ihc ihr =>
    have hsame := sameStripped_marked (h.below i) s
    have hevents : ((s.marked fun address => marks (i :: address)).events
          (Name.stripMarkers s.name)).map Event.stripped
        = (s.events (Name.stripMarkers s.name)).map Event.stripped := by
      rw [events_eq, events_eq, List.map_append, List.map_append, childList_marked,
        ihc (h.below i), survivors_markedAll (h.below i), length_markedAll, hsame.1]
    rw [markedAll, eventsAll, eventsAll, List.map_append, List.map_append, ihr h, hsame.1, hsame.2]
    congr 1
    split
    · simp [Event.stripped, hsame.2]
    · split
      · simp [Event.stripped, hsame.2]
      · exact hevents

/-- The nodes of a marked forest are those of the forest, each with its marks
before the name. -/
theorem nodesAll_markedAll (h : OnlyMarkers marks) (i : Nat) (forest : List Symbol) :
    List.Forall₂
      (fun n n' => n'.address = n.address
        ∧ n'.symbol.name = String.join (marks n.address) ++ n.symbol.name
        ∧ List.Forall₂ SameStripped n.path n'.path)
      (nodesAll i forest) (nodesAll i (markedAll marks i forest)) := by
  induction forest using forest_induction generalizing marks i with
  | nil => exact .nil
  | cons s rest ihc ihr =>
    have hsame := sameStripped_marked (h.below i) s
    rw [markedAll, nodesAll, nodesAll]
    refine List.rel_append ?_ (ihr h (i + 1))
    rw [nodes_eq, nodes_eq, childList_marked]
    refine .cons ⟨rfl, ?_, .cons hsame .nil⟩ ?_
    · show (s.marked fun address => marks (i :: address)).name = _
      rw [marked_eq]
      rfl
    · rw [List.forall₂_map_left_iff, List.forall₂_map_right_iff]
      refine (ihc (h.below i) 0).imp fun n n' hn => ?_
      obtain ⟨haddress, hname, hpath⟩ := hn
      exact ⟨congrArg (i :: ·) haddress, hname, .cons hsame hpath⟩

end

/-- Markers are transparent below a root. A stripped name is the one rest of a
name after some markers that has no marker itself, so stripping again does
nothing, names without a marker stay as they are, and one marker more makes no
difference. Where markers are put before names below a root, it has the same
normalized children, and the same nodes are dropped as private. -/
theorem markers_are_transparent :
    (∀ name rest, Name.stripMarkers name = rest
        ↔ (∃ ms : List String, (∀ m ∈ ms, m ∈ Name.markers) ∧ name = String.join ms ++ rest)
          ∧ ¬Name.HasMarker rest)
      ∧ (∀ name, Name.stripMarkers (Name.stripMarkers name) = Name.stripMarkers name)
      ∧ (∀ name, Name.stripMarkers name = name ↔ ¬Name.HasMarker name)
      ∧ (∀ m ∈ Name.markers, ∀ name, Name.stripMarkers (m ++ name) = Name.stripMarkers name)
      ∧ ∀ (s : Symbol) (marks : List Nat → List String) (log : Log), OnlyMarkers marks →
          ((s.markedBelow marks).normalize log).1 = (s.normalize log).1
          ∧ ((s.markedBelow marks).normalize log).2.map Event.stripped
            = (s.normalize log).2.map Event.stripped
          ∧ List.Forall₂
            (fun n n' => n'.address = n.address
              ∧ n'.symbol.name = String.join (marks n.address) ++ n.symbol.name
              ∧ (EndsPrivate s.kind n'.path ↔ EndsPrivate s.kind n.path))
            (nodesAll 0 s.childList) (nodesAll 0 (s.markedBelow marks).childList) := by
  refine ⟨fun _ _ => Name.stripMarkers_eq_iff, Name.stripMarkers_stripMarkers,
    fun _ => Name.stripMarkers_eq_self_iff, fun _ hm name => Name.stripMarkers_append hm name, ?_⟩
  intro s marks log h
  have hchildren := childList_markedBelow marks s
  have hkept : survivors (s.markedBelow marks).kind (s.markedBelow marks).childList
      = survivors s.kind s.childList := by
    rw [hchildren]
    exact survivors_markedAll h 0 s.kind s.childList
  refine ⟨?_, ?_, ?_⟩
  · rw [normalize_eq, normalize_eq, hkept]
  · have hevents : ((s.markedBelow marks).events s.name).map Event.stripped
        = (s.events s.name).map Event.stripped := by
      rw [events_eq, events_eq, hkept, hchildren, length_markedAll, List.map_append,
        List.map_append]
      exact congrArg (· ++ _) (eventsAll_markedAll h 0 s.kind s.childList)
    rw [normalize_eq, normalize_eq, Array.map_append, Array.map_append]
    congr 1
    rw [List.map_toArray, List.map_toArray]
    exact congrArg List.toArray hevents
  · rw [hchildren]
    refine (nodesAll_markedAll h 0 s.childList).imp fun n n' hn => ?_
    obtain ⟨haddress, hname, hpath⟩ := hn
    exact ⟨haddress, hname, SameStripped.endsPrivate_iff hpath⟩

/-- Markers for the private field and the accessor of `server`. -/
def setterMarks (address : List Nat) : List String :=
  if address = [1] then ["(set) ", "(get) "] else if address = [2] then ["(set) "] else []

example : (server.markedBelow setterMarks).childList.map name
    = ["start", "(set) (get) _socket", "(set) (get) address"] := by decide

/-- The field is still private, and the accessor is still the `address`. -/
theorem markers_of_server_are_transparent :
    OnlyMarkers setterMarks
      ∧ ((server.markedBelow setterMarks).normalize #[]).1 = (server.normalize #[]).1
      ∧ "(set) " ∈ Name.markers
      ∧ Name.stripMarkers ("(set) " ++ "(get) address") = Name.stripMarkers "(get) address" := by
  have h : OnlyMarkers setterMarks := by
    intro address m hm
    unfold setterMarks at hm
    split at hm
    · exact (by decide : ∀ m ∈ ["(set) ", "(get) "], m ∈ Name.markers) m hm
    · split at hm
      · exact (by decide : ∀ m ∈ ["(set) "], m ∈ Name.markers) m hm
      · cases hm
  have hmarker : "(set) " ∈ Name.markers := by decide
  exact ⟨h, (markers_are_transparent.2.2.2.2 server setterMarks #[] h).1, hmarker,
    markers_are_transparent.2.2.2.1 "(set) " hmarker "(get) address"⟩

end Symbol

end SymbolOutline
