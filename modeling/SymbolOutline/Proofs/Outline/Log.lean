import SymbolOutline.Proofs.Outline.Hidden
import SymbolOutline.Proofs.Outline.Truncated

/-!
# The log of a construction

An outline is logged root by root, and below each root symbol by symbol, in
the order of the recursion over the tree (`Symbol.events_eq_flatMap`). The
numbers in these events balance (`Event.Balanced`): what is kept is normalized,
and a child that is not kept has an event of its own.
-/

namespace SymbolOutline

namespace Event

/-- An event as it is told. -/
def told (e : Event) : Level × String := (e.level, e.message)

section

variable (kind parent : SymbolKind) (name : String) (kept total : Nat)

theorem told_hidChild :
    told (.hidChild kind name parent)
      = (.trace, "Dropping " ++ kind.logName ++ " '" ++ name ++ "' under " ++ parent.logName) := by
  have h : message (.hidChild kind name parent)
      = "Dropping " ++ kind.logName ++ " '" ++ name ++ ("' under " ++ parent.logName) := rfl
  rw [told, h, ← String.append_assoc]
  rfl

theorem told_normalized :
    told (.normalized name kept total)
      = (.debug, "Normalized '" ++ name ++ "': kept " ++ toString kept ++ " of "
          ++ toString total ++ " children") := by
  have h : message (.normalized name kept total)
      = "Normalized '" ++ name
        ++ ("': kept " ++ toString kept ++ " of " ++ toString total ++ " children") := rfl
  rw [told, h]
  simp only [String.append_assoc]
  rfl

end

/-! ## Numbers in events -/

def isNormalized : Event → Bool
  | normalized .. => true
  | _ => false

/-- The children kept of a symbol, where the event is about a symbol with its
children done. -/
def keptChildren : Event → Nat
  | normalized _ kept _ => kept
  | _ => 0

/-- The children of such a symbol, kept or not. -/
def allChildren : Event → Nat
  | normalized _ _ total => total
  | _ => 0

theorem isNormalized_of_trace {e : Event} (h : e.level = .trace) : e.isNormalized = false := by
  cases e with
  | normalized name kept total => cases h
  | _ => rfl

def sumOf (f : Event → Nat) (events : List Event) : Nat := events.foldr (fun e n => f e + n) 0

theorem sumOf_append (f : Event → Nat) (l₁ l₂ : List Event) :
    sumOf f (l₁ ++ l₂) = sumOf f l₁ + sumOf f l₂ := by
  induction l₁ with
  | nil => exact (Nat.zero_add _).symm
  | cons e l₁ ih =>
    show f e + sumOf f (l₁ ++ l₂) = f e + sumOf f l₁ + sumOf f l₂
    rw [ih, Nat.add_assoc]

/-! ## Balance -/

/-- The events of so many symbols, some of them kept: one for each symbol that
is kept here or further down, and one for each that is not. -/
structure Balanced (kept total : Nat) (events : List Event) : Prop where
  normalized : events.countP isNormalized = kept + sumOf keptChildren events
  dropped : sumOf allChildren events + total
    = sumOf keptChildren events + kept + events.countP fun e => e.level = .trace

namespace Balanced

variable {kept kept' total total' : Nat} {events events' : List Event}

theorem nil : Balanced 0 0 [] := ⟨rfl, rfl⟩

theorem append (h : Balanced kept total events) (h' : Balanced kept' total' events') :
    Balanced (kept + kept') (total + total') (events ++ events') := by
  obtain ⟨hn, hd⟩ := h
  obtain ⟨hn', hd'⟩ := h'
  constructor
  · rw [List.countP_append, sumOf_append]
    omega
  · rw [List.countP_append, sumOf_append, sumOf_append]
    omega

/-- Events at the end that are about no single symbol. -/
theorem summary (kept total entries : Nat) :
    Balanced 0 0 [.keptRoots kept total, .builtOutline entries] := ⟨rfl, rfl⟩

theorem drop {e : Event} (h : e.level = .trace) : Balanced 0 1 [e] := by
  cases e with
  | hidChild | hidPrivate => exact ⟨rfl, rfl⟩
  | _ => cases h

/-- With the events of its children, the event of a symbol is that of one kept symbol. -/
theorem close (name : String) (h : Balanced kept total events) :
    Balanced 1 1 (events ++ [.normalized name kept total]) := by
  obtain ⟨hn, hd⟩ := h
  constructor
  · rw [List.countP_append, sumOf_append]
    show events.countP isNormalized + 1 = 1 + (sumOf keptChildren events + kept)
    omega
  · rw [List.countP_append, sumOf_append, sumOf_append]
    show sumOf allChildren events + total + 1 = sumOf keptChildren events + kept + 1 + (_ + 0)
    omega

end Balanced

end Event

namespace Symbol

open Event (Balanced isNormalized)

section

variable {parent : SymbolKind} {s : Symbol}

/-! ## The recursion over the tree -/

/-- The event of a child that is not kept. -/
theorem eventsAll_cons_of_hidden (h : s.IsHidden parent) (rest : List Symbol) :
    ∃ e : Event, e.level = .trace
      ∧ eventsAll parent (s :: rest) = [e] ++ eventsAll parent rest := by
  rw [eventsAll]
  by_cases he : s.kind.IsExcludedUnder parent
  · exact ⟨.hidChild s.kind s.name parent, rfl, by rw [if_pos he]⟩
  · exact ⟨.hidPrivate s.name, rfl, by rw [if_neg he, if_pos (h.resolve_left he)]⟩

theorem eventsAll_cons_of_visible (h : ¬s.IsHidden parent) (rest : List Symbol) :
    eventsAll parent (s :: rest)
      = s.events (Name.stripMarkers s.name) ++ eventsAll parent rest := by
  obtain ⟨he, hp⟩ := not_or.mp h
  rw [eventsAll, if_neg he, if_neg hp]

theorem survivors_cons_of_hidden (h : s.IsHidden parent) (rest : List Symbol) :
    survivors parent (s :: rest) = survivors parent rest := by rw [survivors, if_pos h]

theorem survivors_cons_of_visible (h : ¬s.IsHidden parent) (rest : List Symbol) :
    survivors parent (s :: rest)
      = s.rebuilt (Name.stripMarkers s.name) :: survivors parent rest := by
  rw [survivors, if_neg h]

/-- What is told about a child: why it is not kept, or else all about it. -/
theorem told_eventsUnder (parent child : Symbol) :
    (eventsUnder (some parent) child).map Event.told
      = if child.kind.IsExcludedUnder parent.kind then
          [(.trace, "Dropping " ++ child.kind.logName ++ " '" ++ child.name ++ "' under "
            ++ parent.kind.logName)]
        else if Name.isPrivate (Name.stripMarkers child.name) then
          [(.trace, "Dropping private symbol '" ++ child.name ++ "'")]
        else (child.events (Name.stripMarkers child.name)).map Event.told := by
  have hnone : eventsAll parent.kind [] = [] := rfl
  rw [eventsUnder, eventsAll, hnone, List.append_nil]
  by_cases he : child.kind.IsExcludedUnder parent.kind
  · rw [if_pos he, if_pos he, List.map_singleton, Event.told_hidChild]
  · rw [if_neg he, if_neg he]
    by_cases hp : Name.isPrivate (Name.stripMarkers child.name)
    · rw [if_pos hp, if_pos hp]
      rfl
    · rw [if_neg hp, if_neg hp]

/-- What is told about a symbol that is kept: what is told about its children,
one after the other, and then how many of them are kept. -/
theorem told_events (name : String) (s : Symbol) :
    (s.events name).map Event.told
      = (s.childList.flatMap fun child => (eventsUnder (some s) child).map Event.told)
        ++ [(.debug, "Normalized '" ++ name ++ "': kept "
          ++ toString (s.childList.filter fun child => ¬child.IsHidden s.kind).length
          ++ " of " ++ toString s.childList.length ++ " children")] := by
  rw [events_eq, List.map_append, eventsAll_eq_flatMap, List.map_flatMap, survivors_eq,
    List.length_map, List.map_singleton, Event.told_normalized]

/-! ## Balance -/

theorem balanced_eventsAll (parent : SymbolKind) (forest : List Symbol) :
    Balanced (survivors parent forest).length forest.length (eventsAll parent forest) := by
  induction forest using forest_induction generalizing parent with
  | nil => exact .nil
  | cons s rest ihc ihr =>
    by_cases h : s.IsHidden parent
    · obtain ⟨e, he, hevents⟩ := eventsAll_cons_of_hidden h rest
      have hboth := (Balanced.drop he).append (ihr parent)
      rw [hevents, survivors_cons_of_hidden h, List.length_cons, Nat.add_comm]
      rw [Nat.zero_add] at hboth
      exact hboth
    · have hboth := ((ihc s.kind).close (Name.stripMarkers s.name)).append (ihr parent)
      rw [eventsAll_cons_of_visible h, events_eq, survivors_cons_of_visible h, List.length_cons,
        List.length_cons, Nat.add_comm, Nat.add_comm rest.length]
      exact hboth

theorem balanced_events (name : String) (s : Symbol) : Balanced 1 1 (s.events name) := by
  rw [events_eq]
  exact (balanced_eventsAll s.kind s.childList).close name

theorem balanced_flatMap_events (roots : List Symbol) :
    Balanced roots.length roots.length (roots.flatMap fun s => s.events s.name) := by
  induction roots with
  | nil => exact .nil
  | cons s rest ih =>
    rw [List.flatMap_cons, List.length_cons, Nat.add_comm]
    exact (balanced_events s.name s).append ih

/-! ## Sizes -/

/-- As many symbols are normalized as are left. -/
theorem countP_isNormalized_eventsAll (parent : SymbolKind) (forest : List Symbol) :
    (eventsAll parent forest).countP isNormalized = sizeAll (survivors parent forest) := by
  induction forest using forest_induction generalizing parent with
  | nil => rfl
  | cons s rest ihc ihr =>
    by_cases h : s.IsHidden parent
    · obtain ⟨e, he, hevents⟩ := eventsAll_cons_of_hidden h rest
      have hdrop := Event.isNormalized_of_trace he
      rw [hevents, List.singleton_append, List.countP_cons_of_neg (by rw [hdrop]; decide), ihr,
        survivors_cons_of_hidden h]
    · rw [eventsAll_cons_of_visible h, survivors_cons_of_visible h, events_eq, rebuilt_eq, sizeAll,
        size_eq, List.countP_append, List.countP_append, ihr, ihc, Nat.add_comm 1]
      rfl

theorem countP_isNormalized_events (name : String) (s : Symbol) :
    (s.events name).countP isNormalized = (s.rebuilt name).size := by
  rw [events_eq, rebuilt_eq, size_eq, List.countP_append, countP_isNormalized_eventsAll,
    Nat.add_comm]
  rfl

theorem countP_isNormalized_flatMap_events (roots : List Symbol) :
    (roots.flatMap fun s => s.events s.name).countP isNormalized
      = sizeAll (roots.map normalized) := by
  induction roots with
  | nil => rfl
  | cons s rest ih =>
    rw [List.flatMap_cons, List.countP_append, List.map_cons, sizeAll, ih, normalized_eq,
      countP_isNormalized_events]

end

end Symbol

namespace Entry

/-- Without a cap there is an entry for every symbol. -/
theorem sizeAll_ofLevel_uncapped (sort : Bool) (depth : Nat) (siblings : List Symbol) :
    sizeAll (ofLevel ⟨sort, none⟩ depth siblings) = Symbol.sizeAll siblings := by
  rw [sizeAll_ofLevel]
  induction siblings using Symbol.forest_induction generalizing depth with
  | nil =>
    rw [Builder.ofLevel_eq, List.map_nil]
    split <;> rfl
  | cons s rest ihc ihr =>
    have hall : (⟨false, none⟩ : BuildOptions).Shows depth := by
      intro _ hnone
      cases hnone
    have hchildren : sizeAll (ofLevel ⟨false, none⟩ (depth + 1) s.childList)
        = Symbol.sizeAll s.childList := ihc (depth + 1)
    have hrest : sizeAll (ofLevel ⟨false, none⟩ depth rest) = Symbol.sizeAll rest := ihr depth
    rw [Symbol.ofLevel_cons hall, sizeAll, hrest, ofTree_eq, size_eq, Symbol.sizeAll,
      Symbol.size_eq, hchildren]

end Entry

namespace Outline

open SymbolOutline.Symbol (eventsUnder)

theorem count_build_uncapped (sort : Bool) (log : Log) (symbols : List Symbol) :
    (build ⟨sort, none⟩ log symbols).1.count = Symbol.sizeAll (Symbol.shownRoots symbols) := by
  rw [count_eq, build_eq, Entry.sizeAll_ofLevel_uncapped]

theorem count_build_le_uncapped (options : BuildOptions) (log : Log) (symbols : List Symbol) :
    (build options log symbols).1.count ≤ Symbol.sizeAll (Symbol.shownRoots symbols) := by
  obtain ⟨sort, maxDepth⟩ := options
  cases maxDepth with
  | none => exact Nat.le_of_eq (count_build_uncapped sort log symbols)
  | some limit =>
    rw [← count_build_uncapped sort log symbols, build_capped, count_eq, count_eq]
    exact Entry.sizeAll_truncateAll_le limit _

theorem toList_log_build (options : BuildOptions) (log : Log) (symbols : List Symbol) :
    (build options log symbols).2.toList
      = log.toList ++ ((symbols.filter Symbol.isVisibleRoot).flatMap (fun s => s.events s.name)
        ++ [.keptRoots (symbols.filter Symbol.isVisibleRoot).length symbols.length,
          .builtOutline (build options log symbols).1.count]) := by
  rw [snd_build, Symbol.flatMap_events_filter]
  simp only [Array.toList_push, Array.toList_append, List.append_assoc, List.cons_append,
    List.nil_append]
  rfl

/-- A construction logs the visible roots in their order, each with what is
told about the symbols below it, and at the end how many roots and how many
entries there are. There is an event for each child that is not kept and one
for each symbol that is; these are the entries, unless a cap leaves some out. -/
theorem log_accounts_for_symbols (options : BuildOptions) (log : Log) (symbols : List Symbol) :
    ∃ emitted : List Event, (build options log symbols).2.toList = log.toList ++ emitted
      ∧ emitted.map Event.told
        = (symbols.filter Symbol.isVisibleRoot).flatMap (fun s => (s.events s.name).map Event.told)
          ++ [(.debug, "Kept " ++ toString (symbols.filter Symbol.isVisibleRoot).length ++ " of "
                ++ toString symbols.length ++ " top-level symbols"),
              (.debug, "Built outline with " ++ toString (build options log symbols).1.count
                ++ " entries")]
      ∧ (∀ (s : Symbol) name, (s.events name).map Event.told
          = (s.childList.flatMap fun child =>
              if child.kind.IsExcludedUnder s.kind then
                [(.trace, "Dropping " ++ child.kind.logName ++ " '" ++ child.name ++ "' under "
                  ++ s.kind.logName)]
              else if Name.isPrivate (Name.stripMarkers child.name) then
                [(.trace, "Dropping private symbol '" ++ child.name ++ "'")]
              else (child.events (Name.stripMarkers child.name)).map Event.told)
            ++ [(.debug, "Normalized '" ++ name ++ "': kept "
              ++ toString (s.childList.filter fun child => ¬child.IsHidden s.kind).length
              ++ " of " ++ toString s.childList.length ++ " children")])
      ∧ Event.sumOf Event.allChildren emitted
        = Event.sumOf Event.keptChildren emitted + emitted.countP (fun e => e.level = .trace)
      ∧ emitted.countP Event.isNormalized
        = (symbols.filter Symbol.isVisibleRoot).length + Event.sumOf Event.keptChildren emitted
      ∧ (build options log symbols).1.count ≤ emitted.countP Event.isNormalized
      ∧ (options.maxDepth = none →
          (build options log symbols).1.count = emitted.countP Event.isNormalized) := by
  let roots := symbols.filter Symbol.isVisibleRoot
  let summary : List Event := [.keptRoots roots.length symbols.length,
    .builtOutline (build options log symbols).1.count]
  have hbalanced : Event.Balanced roots.length roots.length
      (roots.flatMap (fun s => s.events s.name) ++ summary) :=
    (Symbol.balanced_flatMap_events roots).append (.summary _ _ _)
  have hsize : (roots.flatMap (fun s => s.events s.name) ++ summary).countP Event.isNormalized
      = Symbol.sizeAll (Symbol.shownRoots symbols) := by
    rw [List.countP_append, Symbol.countP_isNormalized_flatMap_events]
    rfl
  refine ⟨roots.flatMap (fun s => s.events s.name) ++ summary,
    toList_log_build options log symbols, ?_, ?_, ?_, hbalanced.normalized, ?_, ?_⟩
  · rw [List.map_append, List.map_flatMap]
    rfl
  · intro s name
    rw [Symbol.told_events]
    simp only [Symbol.told_eventsUnder]
  · have hdropped := hbalanced.dropped
    omega
  · exact hsize ▸ count_build_le_uncapped options log symbols
  · intro hnone
    obtain ⟨sort, maxDepth⟩ := options
    obtain rfl : maxDepth = none := hnone
    exact (count_build_uncapped sort log symbols).trans hsize.symm

/-- Of a class with three members two are kept, so there are three entries. -/
theorem log_accounts_for_server :
    (⟨false, none⟩ : BuildOptions).maxDepth = none
      ∧ ∃ emitted : List Event, (build ⟨false, none⟩ #[] [Symbol.server]).2.toList = emitted
        ∧ (build ⟨false, none⟩ #[] [Symbol.server]).1.count = emitted.countP Event.isNormalized
        ∧ emitted.map Event.message = ["Normalized 'start': kept 0 of 0 children",
            "Dropping private symbol '_socket'", "Normalized 'address': kept 0 of 0 children",
            "Normalized 'Server': kept 2 of 3 children", "Kept 1 of 1 top-level symbols",
            "Built outline with 3 entries"] := by
  have hmessages : (build ⟨false, none⟩ #[] [Symbol.server]).2.toList.map Event.message
      = ["Normalized 'start': kept 0 of 0 children", "Dropping private symbol '_socket'",
        "Normalized 'address': kept 0 of 0 children", "Normalized 'Server': kept 2 of 3 children",
        "Kept 1 of 1 top-level symbols", "Built outline with 3 entries"] := by
    decide +kernel
  obtain ⟨emitted, hlog, -, -, -, -, -, hcount⟩ :=
    log_accounts_for_symbols ⟨false, none⟩ #[] [Symbol.server]
  rw [hlog] at hmessages
  exact ⟨rfl, emitted, hlog, hcount rfl, hmessages⟩

end Outline

end SymbolOutline
