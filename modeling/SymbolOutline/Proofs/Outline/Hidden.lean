import SymbolOutline.Proofs.Outline.Displayed

/-!
# What is hidden does not matter

Two forests may differ in everything that is not shown: below a hidden symbol
in all, at a hidden symbol in all but its kind and its name, and elsewhere in
the fields an entry does not have (`Symbol.AgreeUnder`). Their outlines are
the same, and so is what is logged on the way.
-/

namespace SymbolOutline

namespace Symbol

/-- Two forests under one parent with the same symbols in what is shown. Of a
hidden symbol only its kind and its name are the same: what is logged about it
tells them. -/
inductive AgreeUnder : Option Symbol → List Symbol → List Symbol → Prop where
  | nil (parent : Option Symbol) : AgreeUnder parent [] []
  | hidden {parent : Option Symbol} {s t : Symbol} {rest rest' : List Symbol} :
      ¬admits parent s → t.kind = s.kind → t.name = s.name → AgreeUnder parent rest rest' →
      AgreeUnder parent (s :: rest) (t :: rest')
  | shown {parent : Option Symbol} {s t : Symbol} {rest rest' : List Symbol} :
      admits parent s → t.kind = s.kind → t.name = s.name → t.detail = s.detail →
      t.range.start.line = s.range.start.line →
      AgreeUnder (some s) s.childList t.childList → AgreeUnder parent rest rest' →
      AgreeUnder parent (s :: rest) (t :: rest')

/-- `server` with more behind its private field, and on other columns. -/
def serverWithPool : Symbol :=
  { (plain .classKind "Server" [plain .methodKind "start" [],
      { (plain .fieldKind "_socket" [plain .classKind "Pool" []]) with
        detail := some "TcpStream"
        deprecated := some true },
      plain .propertyKind "(get) address" []]) with
    range := ⟨⟨0, 4⟩, ⟨30, 1⟩⟩
    tags := some [1] }

/-- What is logged about a symbol and those below it. -/
def eventsUnder (parent : Option Symbol) (s : Symbol) : List Event :=
  match parent with
  | none => if s.isVisibleRoot then s.events s.name else []
  | some parent => eventsAll parent.kind [s]

theorem eventsAll_eq_flatMap (parent : Symbol) (forest : List Symbol) :
    eventsAll parent.kind forest = forest.flatMap (eventsUnder (some parent)) := by
  induction forest with
  | nil => rfl
  | cons s rest ih => rw [eventsAll, List.flatMap_cons, ih, eventsUnder, eventsAll, eventsAll,
      List.append_nil]

section

variable {parent : Option Symbol} {s t : Symbol}

/-- Whether a symbol gets past its parent is told by its kind and its name. -/
theorem admits_congr (hk : t.kind = s.kind) (hn : t.name = s.name) :
    admits parent t = admits parent s := by
  cases parent with
  | none => simp only [admits, isVisibleRoot, hk, hn]
  | some parent => exact decide_eq_decide.mpr (by rw [IsHidden, IsHidden, hk, hn])

theorem nameUnder_congr (hn : t.name = s.name) : nameUnder parent t = nameUnder parent s := by
  cases parent <;> simp only [nameUnder, hn]

/-- The one event of a hidden symbol does not tell more than its kind and its name. -/
theorem eventsUnder_of_not_admits (hs : ¬admits parent s) (hk : t.kind = s.kind)
    (hn : t.name = s.name) : eventsUnder parent t = eventsUnder parent s := by
  have ht : ¬admits parent t := by rwa [admits_congr hk hn]
  cases parent with
  | none =>
    rw [eventsUnder, eventsUnder, if_neg (show ¬t.isVisibleRoot from ht),
      if_neg (show ¬s.isVisibleRoot from hs)]
  | some parent =>
    have hh : s.IsHidden parent.kind := by simpa [admits] using hs
    simp only [eventsUnder, eventsAll, hk, hn]
    by_cases he : s.kind.IsExcludedUnder parent.kind
    · rw [if_pos he, if_pos he]
    · rw [if_neg he, if_neg he, if_pos (hh.resolve_left he), if_pos (hh.resolve_left he)]

theorem eventsUnder_of_admits (hs : admits parent s) :
    eventsUnder parent s = s.events (nameUnder parent s) := by
  cases parent with
  | none => exact if_pos hs
  | some parent =>
    have hh : ¬s.IsHidden parent.kind := by simpa [admits] using hs
    obtain ⟨he, hp⟩ := not_or.mp hh
    rw [eventsUnder, eventsAll, eventsAll, List.append_nil, if_neg he, if_neg hp]
    rfl

end

section

variable {parent : Option Symbol} {forest forest' : List Symbol}

theorem AgreeUnder.length_eq (h : AgreeUnder parent forest forest') :
    forest'.length = forest.length := by
  induction h with
  | nil => rfl
  | hidden _ _ _ _ ih => rw [List.length_cons, List.length_cons, ih]
  | shown _ _ _ _ _ _ _ _ ih => rw [List.length_cons, List.length_cons, ih]

theorem AgreeUnder.length_filter_admits (h : AgreeUnder parent forest forest') :
    (forest'.filter (admits parent)).length = (forest.filter (admits parent)).length := by
  induction h with
  | nil => rfl
  | hidden hs hk hn _ ih =>
    have ht := admits_congr hk hn ▸ hs
    rw [List.filter_cons_of_neg ht, List.filter_cons_of_neg hs, ih]
  | shown hs hk hn _ _ _ _ _ ih =>
    have ht := (admits_congr hk hn).trans hs
    rw [List.filter_cons_of_pos ht, List.filter_cons_of_pos hs, List.length_cons, List.length_cons,
      ih]

theorem length_survivors (parent : Symbol) (forest : List Symbol) :
    (survivors parent.kind forest).length = (forest.filter (admits (some parent))).length := by
  rw [← shownUnder_some, shownUnder, List.length_map]

/-- The same is logged about both. -/
theorem AgreeUnder.flatMap_events (h : AgreeUnder parent forest forest') :
    forest'.flatMap (eventsUnder parent) = forest.flatMap (eventsUnder parent) := by
  induction h with
  | nil => rfl
  | hidden hs hk hn _ ih =>
    rw [List.flatMap_cons, List.flatMap_cons, ih, eventsUnder_of_not_admits hs hk hn]
  | @shown parent s t _ _ hs hk hn _ _ hc _ ihc ih =>
    have ht := (admits_congr hk hn).trans hs
    have hbelow : eventsAll t.kind t.childList = eventsAll s.kind s.childList := by
      rw [hk, eventsAll_eq_flatMap, eventsAll_eq_flatMap, ihc]
    have hkept : (survivors t.kind t.childList).length = (survivors s.kind s.childList).length := by
      rw [hk, length_survivors, length_survivors, hc.length_filter_admits]
    rw [List.flatMap_cons, List.flatMap_cons, ih, eventsUnder_of_admits ht,
      eventsUnder_of_admits hs, nameUnder_congr hn, events_eq, events_eq, hbelow, hkept,
      hc.length_eq]

/-- The same entries are built from both. -/
theorem AgreeUnder.ofTrees_eq (h : AgreeUnder parent forest forest') (options : BuildOptions)
    (depth : Nat) :
    Entry.ofTrees options depth (shownUnder parent forest')
      = Entry.ofTrees options depth (shownUnder parent forest) := by
  induction h generalizing depth with
  | nil => rfl
  | hidden hs hk hn _ ih =>
    have ht := admits_congr hk hn ▸ hs
    rw [shownUnder, shownUnder, List.filter_cons_of_neg ht, List.filter_cons_of_neg hs]
    exact ih depth
  | @shown parent s t _ _ hs hk hn hd hl _ _ ihc ih =>
    have ht := (admits_congr hk hn).trans hs
    have hbelow : Entry.ofLevel options (depth + 1) (shownUnder (some t) t.childList)
        = Entry.ofLevel options (depth + 1) (shownUnder (some s) s.childList) := by
      rw [shownUnder_some, hk, ← shownUnder_some, Entry.ofLevel, Entry.ofLevel, ihc (depth + 1)]
    have htree : Entry.ofTree options depth (t.rebuilt (nameUnder parent t))
        = Entry.ofTree options depth (s.rebuilt (nameUnder parent s)) := by
      rw [ofTree_rebuilt, ofTree_rebuilt, hbelow, nameUnder_congr hn]
      simp only [Entry.ofSymbol, hk, hd, hl]
    have hrest := ih depth
    rw [shownUnder, shownUnder] at hrest ⊢
    rw [List.filter_cons_of_pos ht, List.filter_cons_of_pos hs, List.map_cons, List.map_cons,
      Entry.ofTrees, Entry.ofTrees, htree, hrest]

end

theorem snd_normalizeAll (log : Log) (symbols : List Symbol) :
    (normalizeAll log symbols).2 = log ++ (symbols.flatMap fun s => s.events s.name).toArray := by
  induction symbols generalizing log with
  | nil => simp [normalizeAll]
  | cons s rest ih =>
    simp only [normalizeAll, ih, normalize_eq, List.flatMap_cons, Array.append_assoc,
      List.append_toArray]

theorem flatMap_events_filter (symbols : List Symbol) :
    (symbols.filter isVisibleRoot).flatMap (fun s => s.events s.name)
      = symbols.flatMap (eventsUnder none) := by
  induction symbols with
  | nil => rfl
  | cons s rest ih =>
    rw [List.flatMap_cons, ← ih, List.filter_cons, eventsUnder]
    split <;> rfl

end Symbol

namespace Outline

open SymbolOutline.Symbol (AgreeUnder admits eventsUnder)

theorem snd_build (options : BuildOptions) (log : Log) (symbols : List Symbol) :
    (build options log symbols).2
      = ((log ++ (symbols.flatMap (eventsUnder none)).toArray).push
          (.keptRoots (symbols.filter (admits none)).length symbols.length)).push
            (.builtOutline (build options log symbols).1.count) := by
  simp only [build, Symbol.snd_normalizeAll, Symbol.fst_normalizeAll, List.length_map,
    Symbol.flatMap_events_filter]
  rfl

/-- Nothing hidden leaks into an outline, nor into the log of its construction. -/
theorem build_independent_of_hidden (options : BuildOptions) (log : Log)
    {symbols symbols' : List Symbol} (h : AgreeUnder none symbols symbols') :
    build options log symbols' = build options log symbols := by
  have hfst : (build options log symbols').1 = (build options log symbols).1 := by
    rw [build_eq, build_eq, ← Symbol.shownUnder_none, ← Symbol.shownUnder_none, Entry.ofLevel,
      Entry.ofLevel, h.ofTrees_eq]
  refine Prod.ext hfst ?_
  rw [snd_build, snd_build, hfst, h.flatMap_events, h.length_filter_admits, h.length_eq]

/-- A private field, and a private root, may hold whatever they like. -/
theorem build_independent_of_socket :
    AgreeUnder none [Symbol.server, .plain .variableKind "_cache" []]
        [Symbol.serverWithPool, .plain .variableKind "_cache" [.plain .classKind "Page" []]]
      ∧ build {} #[]
          [Symbol.serverWithPool, .plain .variableKind "_cache" [.plain .classKind "Page" []]]
        = build {} #[] [Symbol.server, .plain .variableKind "_cache" []] := by
  have hmembers : AgreeUnder (some Symbol.server) Symbol.server.childList
      Symbol.serverWithPool.childList :=
    .shown (by decide) rfl rfl rfl rfl (.nil _)
      (.hidden (by decide) rfl rfl (.shown (by decide) rfl rfl rfl rfl (.nil _) (.nil _)))
  have h : AgreeUnder none [Symbol.server, .plain .variableKind "_cache" []]
      [Symbol.serverWithPool, .plain .variableKind "_cache" [.plain .classKind "Page" []]] :=
    .shown (by decide) rfl rfl rfl rfl hmembers (.hidden (by decide) rfl rfl (.nil _))
  exact ⟨h, build_independent_of_hidden {} #[] h⟩

end Outline

end SymbolOutline
