import Mathlib.Data.List.Chain
import SymbolOutline.Proofs.Outline.Build

/-!
# The stacks of the traversals

Both machines of the library are defined on stacks that they never have. Of a
conversion, every stack reached has the roots at the bottom and levels of entries
above, each one deeper than the level below (`Builder.Nested`). Of a
normalization, every stack has the root at the bottom, and each frame above is
of a surviving child that the frame below has just passed (`Normalizer.Rooted`).
So no stack is empty, and only the bottom is closed without a parent.
-/

namespace SymbolOutline

namespace Builder

/-- The bottom has no entry, and every level above has one and is one deeper
than the level below. -/
inductive Nested : List Level → Prop where
  | bottom (pending : List Symbol) (built : Array Entry) : Nested [⟨none, pending, built, 0⟩]
  | above {level parent : Level} {below : List Level} :
      level.entry ≠ none → level.depth = parent.depth + 1 → Nested (parent :: below) →
      Nested (level :: parent :: below)

theorem step_eq_stuck_iff {options : BuildOptions} {stack : List Level} :
    step options stack = .stuck ↔ stack = [] := by
  constructor
  · intro h
    unfold step at h
    split at h
    · rfl
    · split at h
      · dsimp only at h
        split at h <;> cases h
      · dsimp only at h
        split at h <;> cases h
  · rintro rfl
    rfl

section

variable {options : BuildOptions} {entry : Option Entry} {pending : List Symbol}
  {built : Array Entry} {depth : Nat} {below stack : List Level}

/-- Neither what is pending in the innermost level nor what is built there matters. -/
theorem Nested.update (h : Nested (⟨entry, pending, built, depth⟩ :: below))
    (pending' : List Symbol) (built' : Array Entry) :
    Nested (⟨entry, pending', built', depth⟩ :: below) := by
  cases h with
  | bottom => exact .bottom pending' built'
  | above hentry hdepth hbelow => exact .above hentry hdepth hbelow

theorem nested_step {next : List Level} (h : Nested stack) (hs : step options stack = .next next) :
    Nested next := by
  rcases stack_of_step hs with ⟨entry, s, rest, built, depth, below, rfl, rfl | rfl⟩
    | ⟨e, built, depth, parent, below, rfl, rfl⟩
  · exact .above (Option.some_ne_none _) rfl (h.update rest built)
  · exact h.update rest built
  · cases h with
    | above hentry hdepth hbelow => exact hbelow.update _ _

theorem nested_of_reaches {roots : List Symbol}
    (h : Step.Reaches (step options) [.bottom roots] stack) : Nested stack :=
  h.preserves (fun _ _ => nested_step) (.bottom roots #[])

theorem Nested.ne_nil (h : Nested stack) : stack ≠ [] := by
  cases h <;> exact List.cons_ne_nil _ _

theorem Nested.exists_bottom (h : Nested stack) :
    ∃ above bottom, stack = above ++ [bottom] ∧ bottom.entry = none
      ∧ ∀ level ∈ above, level.entry ≠ none := by
  induction h with
  | bottom pending built => exact ⟨[], ⟨none, pending, built, 0⟩, rfl, rfl, List.forall_mem_nil _⟩
  | @above level parent below hentry hdepth hbelow ih =>
    obtain ⟨above, bottom, hstack, hbottom, habove⟩ := ih
    refine ⟨level :: above, bottom, ?_, hbottom, List.forall_mem_cons.mpr ⟨hentry, habove⟩⟩
    rw [hstack, List.cons_append]

/-- From the bottom up, the depths count from zero. -/
theorem Nested.map_depth (h : Nested stack) :
    stack.map Level.depth = (List.range stack.length).reverse := by
  induction h with
  | bottom => rfl
  | @above level parent below hentry hdepth hbelow ih =>
    -- the depth of the parent is the number of levels below it, by the first of the depths
    have hparent : parent.depth = below.length := by
      rw [List.length_cons, List.range_succ, List.reverse_concat, List.map_cons] at ih
      exact (List.cons.inj ih).1
    rw [List.length_cons, List.range_succ, List.reverse_concat, List.map_cons, ih, hdepth, hparent,
      List.length_cons]

/-- The conversion ends where the bottom is closed. With a level below, the
innermost level has an entry and hands it on. -/
theorem Nested.eq_bottom_of_done {result : List Entry} (h : Nested stack)
    (hs : step options stack = .done result) :
    ∃ built, stack = [⟨none, [], built, 0⟩] ∧ result = arrange options built.toList := by
  obtain ⟨entry, built, depth, below, rfl, hlast, hresult⟩ := stack_of_done hs
  cases h with
  | bottom => exact ⟨built, rfl, hresult⟩
  | above hentry hdepth hbelow =>
    rcases hlast with hbelow | hnone
    · cases hbelow
    · exact absurd hnone hentry

end

theorem exists_last (options : BuildOptions) (roots : List Symbol) :
    ∃ last, Step.Reaches (step options) [.bottom roots] last
      ∧ step options last = .done (entries options roots) := by
  rw [entries_eq]
  exact Step.exists_reaches_done (run_bottom roots)

end Builder

namespace Normalizer

open SymbolOutline.Symbol (fate)

/-- The frame is of a child that survives under the frame below, which has
taken it: what is still pending there are the siblings after it. -/
structure OpenedBy (frame parent : Frame) : Prop where
  taken : frame.source :: parent.pending <:+ parent.source.childList
  survives : ¬frame.source.IsHidden parent.source.kind
  name : frame.name = Name.stripMarkers frame.source.name

/-- The bottom frame is of the root, and each frame above is opened by the one
below. What is pending in a frame are the last children of its symbol. -/
inductive Rooted (root : Symbol) : List Frame → Prop where
  | bottom {frame : Frame} :
      frame.source = root → frame.pending <:+ frame.source.childList → Rooted root [frame]
  | above {frame parent : Frame} {below : List Frame} :
      OpenedBy frame parent → frame.pending <:+ frame.source.childList →
      Rooted root (parent :: below) → Rooted root (frame :: parent :: below)

theorem survivor_of_nextSurvivor {parent : SymbolKind} {log log' : Log}
    {pending rest : List Symbol} {child : Symbol} {name : String}
    (h : nextSurvivor parent log pending = (log', some (child, name, rest))) :
    child :: rest <:+ pending ∧ ¬child.IsHidden parent ∧ name = Name.stripMarkers child.name := by
  induction pending generalizing log with
  | nil => cases h
  | cons s pending ih =>
    rw [nextSurvivor] at h
    by_cases hs : s.IsHidden parent
    · obtain ⟨event, hevent⟩ : ∃ event, fate parent s = .dropped event := by
        by_cases he : s.kind.IsExcludedUnder parent
        · exact ⟨_, fate_of_excluded he⟩
        · exact ⟨_, fate_of_private he (hs.resolve_left he)⟩
      rw [hevent] at h
      obtain ⟨hrest, hchild⟩ := ih h
      exact ⟨hrest.trans (List.suffix_cons s pending), hchild⟩
    · rw [fate_of_visible hs] at h
      obtain ⟨-, hsome⟩ := Prod.mk.inj h
      obtain ⟨rfl, hpair⟩ := Prod.mk.inj (Option.some.inj hsome)
      obtain ⟨rfl, rfl⟩ := Prod.mk.inj hpair
      exact ⟨List.suffix_refl _, hs, rfl⟩

/-- A step opens the next survivor of the innermost frame, or closes that frame. -/
theorem stack_of_step {s t : State} (h : step s = .next t) :
    (∃ frame below child name rest, s.stack = frame :: below
      ∧ t.stack = .opening child name :: { frame with pending := rest } :: below
      ∧ child :: rest <:+ frame.pending ∧ ¬child.IsHidden frame.source.kind
      ∧ name = Name.stripMarkers child.name)
    ∨ ∃ frame parent below, s.stack = frame :: parent :: below
      ∧ t.stack = { parent with kept := parent.kept.push frame.symbol } :: below := by
  obtain ⟨stack, log⟩ := s
  unfold step at h
  dsimp only at h
  split at h
  · cases h
  · next frame below =>
    split at h
    · next log' child name rest hnext =>
      obtain rfl := Step.next.inj h
      exact .inl ⟨frame, below, child, name, rest, rfl, rfl, survivor_of_nextSurvivor hnext⟩
    · split at h
      · cases h
      · next parent below =>
        obtain rfl := Step.next.inj h
        exact .inr ⟨frame, parent, below, rfl, rfl⟩

theorem stack_of_done {s : State} {result : List Symbol × Log} (h : step s = .done result) :
    ∃ frame, s.stack = [frame] := by
  obtain ⟨stack, log⟩ := s
  unfold step at h
  dsimp only at h
  split at h
  · cases h
  · next frame below =>
    split at h
    · cases h
    · split at h
      · exact ⟨frame, rfl⟩
      · cases h

theorem step_eq_stuck_iff {s : State} : step s = .stuck ↔ s.stack = [] := by
  obtain ⟨stack, log⟩ := s
  constructor
  · intro h
    unfold step at h
    dsimp only at h
    split at h
    · rfl
    · split at h
      · cases h
      · split at h <;> cases h
  · rintro rfl
    rfl

section

variable {root : Symbol} {stack : List Frame}

theorem Rooted.pending {frame : Frame} {below : List Frame} (h : Rooted root (frame :: below)) :
    frame.pending <:+ frame.source.childList := by
  cases h with
  | bottom _ hpending => exact hpending
  | above _ hpending _ => exact hpending

/-- A frame may go on to later children and keep what it likes. -/
theorem Rooted.update {source : Symbol} {name : String} {pending pending' : List Symbol}
    {kept : Array Symbol} {below : List Frame}
    (h : Rooted root (⟨source, name, pending, kept⟩ :: below)) (hp : pending' <:+ pending)
    (kept' : Array Symbol) :
    Rooted root (⟨source, name, pending', kept'⟩ :: below) := by
  have hpending : pending' <:+ source.childList := hp.trans h.pending
  cases h with
  | bottom hsource _ => exact .bottom hsource hpending
  | above hopened _ hbelow =>
    exact .above ⟨hopened.taken, hopened.survives, hopened.name⟩ hpending hbelow

theorem rooted_step {s t : State} (h : Rooted root s.stack) (hs : step s = .next t) :
    Rooted root t.stack := by
  rcases stack_of_step hs with
    ⟨frame, below, child, name, rest, hstack, hnext, htaken, hvisible, hname⟩
    | ⟨frame, parent, below, hstack, hnext⟩
  · -- the child stands right before what is left, and with a fresh frame all is pending
    rw [hstack] at h
    rw [hnext]
    have hopened : OpenedBy (.opening child name) { frame with pending := rest } :=
      ⟨htaken.trans h.pending, hvisible, hname⟩
    exact .above hopened (List.suffix_refl _)
      (h.update ((List.suffix_cons child rest).trans htaken) frame.kept)
  · rw [hstack] at h
    rw [hnext]
    cases h with
    | above _ _ hbelow => exact hbelow.update (List.suffix_refl _) _

theorem rooted_of_reaches {log : Log} {s : State}
    (h : Step.Reaches step ⟨[.opening root root.name], log⟩ s) : Rooted root s.stack := by
  have hstart : Rooted root [.opening root root.name] := .bottom rfl (List.suffix_refl _)
  exact h.preserves (P := fun s => Rooted root s.stack) (fun _ _ => rooted_step) hstart

theorem Rooted.ne_nil (h : Rooted root stack) : stack ≠ [] := by
  cases h <;> exact List.cons_ne_nil _ _

theorem Rooted.isChain (h : Rooted root stack) : stack.IsChain OpenedBy := by
  induction h with
  | bottom => exact .singleton _
  | above hopened _ _ ih => exact .cons_cons hopened ih

theorem Rooted.exists_bottom (h : Rooted root stack) :
    ∃ above bottom, stack = above ++ [bottom] ∧ bottom.source = root := by
  induction h with
  | @bottom frame hsource _ => exact ⟨[], frame, rfl, hsource⟩
  | @above frame parent below _ _ _ ih =>
    obtain ⟨above, bottom, hstack, hbottom⟩ := ih
    exact ⟨frame :: above, bottom, by rw [hstack, List.cons_append], hbottom⟩

end

theorem exists_last (log : Log) (s : Symbol) :
    ∃ last, Step.Reaches step ⟨[.opening s s.name], log⟩ last
      ∧ step last = .done (s.normalize log) := by
  rw [Symbol.normalize_eq]
  exact Step.exists_reaches_done (run_opening log s s.name)

end Normalizer

namespace Outline

/-- No stack of a traversal is empty, so no step is stuck. In a conversion the
levels are one deeper each from the bottom up, only the bottom has no entry, and
only the bottom is closed without a level to hand its entry to. In a
normalization the bottom is of the root, and each frame above is of a survivor
that the one below has taken. Each step leaves less work, so both come to an
end, and what they end with is their result. -/
theorem stacks_keep_their_shape :
    (∀ (options : BuildOptions) (roots : List Symbol),
      (∀ stack, Step.Reaches (Builder.step options) [.bottom roots] stack →
        stack ≠ []
        ∧ (∃ above bottom, stack = above ++ [bottom] ∧ bottom.entry = none
          ∧ ∀ level ∈ above, level.entry ≠ none)
        ∧ stack.map Builder.Level.depth = (List.range stack.length).reverse
        ∧ Builder.step options stack ≠ .stuck
        ∧ ∀ result, Builder.step options stack = .done result →
          ∃ built, stack = [⟨none, [], built, 0⟩]
            ∧ result = Builder.arrange options built.toList)
      ∧ (∀ stack next, Builder.step options stack = .next next →
        Builder.work next < Builder.work stack)
      ∧ ∃ last, Step.Reaches (Builder.step options) [.bottom roots] last
        ∧ Builder.step options last = .done (Builder.entries options roots))
    ∧ ∀ (log : Log) (s : Symbol),
      (∀ state, Step.Reaches Normalizer.step ⟨[.opening s s.name], log⟩ state →
        state.stack ≠ []
        ∧ (∃ above bottom, state.stack = above ++ [bottom] ∧ bottom.source = s)
        ∧ state.stack.IsChain Normalizer.OpenedBy
        ∧ Normalizer.step state ≠ .stuck
        ∧ ∀ result, Normalizer.step state = .done result → ∃ bottom, state.stack = [bottom])
      ∧ (∀ state next, Normalizer.step state = .next next →
        Normalizer.work next < Normalizer.work state)
      ∧ ∃ last, Step.Reaches Normalizer.step ⟨[.opening s s.name], log⟩ last
        ∧ Normalizer.step last = .done (s.normalize log) := by
  constructor
  · intro options roots
    refine ⟨?_, Builder.work_step options, Builder.exists_last options roots⟩
    intro stack hreaches
    have h := Builder.nested_of_reaches hreaches
    exact ⟨h.ne_nil, h.exists_bottom, h.map_depth, mt Builder.step_eq_stuck_iff.mp h.ne_nil,
      fun _ => h.eq_bottom_of_done⟩
  · intro log s
    refine ⟨?_, Normalizer.work_step, Normalizer.exists_last log s⟩
    intro state hreaches
    have h := Normalizer.rooted_of_reaches hreaches
    exact ⟨h.ne_nil, h.exists_bottom, h.isChain, mt Normalizer.step_eq_stuck_iff.mp h.ne_nil,
      fun _ => Normalizer.stack_of_done⟩

/-- A class is open over the roots. -/
def serverLevels : List Builder.Level :=
  [.opening ⟨true, none⟩ Symbol.server 1, ⟨none, [], #[], 0⟩]

/-- The method of a class is open over the class. -/
def serverFrames : List Normalizer.Frame :=
  [.opening (.plain .methodKind "start" []) "start",
    ⟨Symbol.server, "Server", Symbol.server.childList.tail, #[]⟩]

/-- Both are reached in a step from less, and where nothing is pending at the
start the bottom is closed at once. -/
theorem stacks_of_server_keep_their_shape :
    (Step.Reaches (Builder.step ⟨true, none⟩) [.bottom [Symbol.server]] serverLevels
      ∧ serverLevels.map Builder.Level.depth = [1, 0]
      ∧ Builder.work serverLevels < Builder.work [.bottom [Symbol.server]]
      ∧ ∃ built, [Builder.Level.bottom []] = [⟨none, [], built, 0⟩]
        ∧ [] = Builder.arrange ⟨true, none⟩ built.toList)
    ∧ Step.Reaches Normalizer.step ⟨[.opening Symbol.server "Server"], #[]⟩ ⟨serverFrames, #[]⟩
      ∧ serverFrames.IsChain Normalizer.OpenedBy
      ∧ Normalizer.work ⟨serverFrames, #[]⟩
        < Normalizer.work ⟨[.opening Symbol.server "Server"], #[]⟩
      ∧ ∃ bottom,
        [Normalizer.Frame.opening (.plain .methodKind "start" []) "start"] = [bottom] := by
  have hlevels : Builder.step ⟨true, none⟩ [.bottom [Symbol.server]] = .next serverLevels :=
    Builder.step_open (by decide)
  have hframes : Normalizer.step ⟨[.opening Symbol.server "Server"], #[]⟩
      = .next ⟨serverFrames, #[]⟩ :=
    Normalizer.step_kept (Normalizer.fate_of_visible (by decide))
  have hbuilt : Builder.step ⟨true, none⟩ [.bottom []] = .done [] := by
    rw [Builder.Level.bottom, Builder.step_last]
    exact congrArg Step.done Entry.byWeight_nil
  constructor
  · obtain ⟨hshape, hwork, -⟩ := stacks_keep_their_shape.1 ⟨true, none⟩ [Symbol.server]
    obtain ⟨hempty, -, -⟩ := stacks_keep_their_shape.1 ⟨true, none⟩ []
    have hreaches := Step.Reaches.tail (.refl _) hlevels
    exact ⟨hreaches, (hshape _ hreaches).2.2.1, hwork _ _ hlevels,
      (hempty _ (.refl _)).2.2.2.2 _ hbuilt⟩
  · obtain ⟨hshape, hwork, -⟩ := stacks_keep_their_shape.2 #[] Symbol.server
    obtain ⟨hleaf, -, -⟩ := stacks_keep_their_shape.2 #[] (.plain .methodKind "start" [])
    have hreaches := Step.Reaches.tail (.refl _) hframes
    exact ⟨hreaches, (hshape _ hreaches).2.2.1, hwork _ _ hframes,
      (hleaf _ (.refl _)).2.2.2.2 _ rfl⟩

end Outline

end SymbolOutline
