import SymbolOutline.Proofs.Toml.Line

/-!
# Plain documents

A plain document is a list of sections, each a header with the pairs below it.
If no header and, below one header, no name comes twice, the document is read
as a table with an entry for each section and in it one for each pair, in the
order of the document (`read?_plain`).
-/

namespace SymbolOutline.Toml

structure PlainSection where
  name : String
  pairs : List PlainPair

namespace PlainSection

def lines (sec : PlainSection) : List Plain := .header sec.name :: sec.pairs.map .pair

structure WellFormed (sec : PlainSection) : Prop where
  name : IsBareName sec.name
  pairs : ∀ p ∈ sec.pairs, (Plain.pair p).WellFormed
  nodup : (sec.pairs.map PlainPair.name).Nodup

theorem filter_lines (sec : PlainSection) : sec.lines.filter (! ·.isBlank) = sec.lines := by
  rw [List.filter_eq_self]
  intro l hl
  rcases List.mem_cons.mp hl with rfl | hl
  · rfl
  · obtain ⟨p, -, rfl⟩ := List.mem_map.mp hl
    rfl

end PlainSection

/-- The entry of a pair. -/
def HoldsPair (p : PlainPair) (e : Key × Item) : Prop :=
  e.1.name = p.name ∧ ∃ span, e.2 = .scalar span p.value

/-- The entry of a section, with those of its pairs. -/
def HoldsSection (sec : PlainSection) (e : Key × Item) : Prop :=
  e.1.name = sec.name
    ∧ ∃ span entries, e.2 = .table span .header entries ∧ List.Forall₂ HoldsPair sec.pairs entries

theorem forall₂_append_left {α β : Type} {R : α → β → Prop} {l₁ l₂ : List α} {u : List β}
    (h : List.Forall₂ R (l₁ ++ l₂) u) :
    ∃ u₁ u₂, u = u₁ ++ u₂ ∧ List.Forall₂ R l₁ u₁ ∧ List.Forall₂ R l₂ u₂ := by
  have hflip : List.Forall₂ (flip R) u (l₁ ++ l₂) := List.Forall₂.flip (R := flip R) h
  exact ⟨u.take l₁.length, u.drop l₁.length, (List.take_append_drop l₁.length u).symm,
    (List.forall₂_take_append u l₁ l₂ hflip).flip, (List.forall₂_drop_append u l₁ l₂ hflip).flip⟩

/-! ## One line -/

namespace Table

/-- The names of the entries. -/
def names (t : Table) : List String := t.entries.map (·.1.name)

theorem find?_of_notMem {t : Table} {name : String} (h : name ∉ t.names) : t.find? name = none := by
  rw [find?, Option.map_eq_none_iff, List.find?_eq_none]
  intro e he hname
  have hmem : e.1.name ∈ t.names := List.mem_map_of_mem he
  rw [of_decide_eq_true hname] at hmem
  exact h hmem

theorem insert?_of_notMem {t : Table} {key : Key} (horigin : t.origin = .header)
    (h : key.name ∉ t.names) (value : Item) : t.insert? [] key value = some (t.add key value) := by
  have horigin : ¬t.origin = .dotted := by
    rw [horigin]
    decide
  rw [insert?, update?]
  simp [horigin, find?_of_notMem h]

theorem take?_of_notMem {t : Table} {key : Key} (h : key.name ∉ t.names) :
    t.take? key = some ([], t) := by
  rw [take?, find?_of_notMem h]

end Table

namespace Draft

/-- A draft whose last section is to be a table of its own at the root. -/
def below (root : Table) (span : Span) (key : Key) (entries : List (Key × Item)) : Draft :=
  ⟨root, some ⟨span, [], key, false⟩, ⟨.header, entries⟩⟩

variable {root : Table} {span : Span} {key : Key} {entries : List (Key × Item)}

theorem close?_below :
    (below root span key entries).close?
      = some (root.add key (.table (some span) .header entries)) := rfl

theorem line?_header_of_notMem {d : Draft} (hd : d.close? = some root) (key : Key)
    (h : key.name ∉ root.names) (span : Span) :
    d.line? (.header span [] key false) = some (below root span key []) := by
  rw [line?, open?, hd]
  simp only [Option.bind_eq_bind, Option.bind_some, Bool.false_eq_true, if_false, Table.update?,
    Table.take?_of_notMem h]
  rfl

theorem line?_pair_of_notMem {name : Key} {value : Item}
    (h : name.name ∉ entries.map (·.1.name)) :
    ∃ span', (below root span key entries).line? (.pair [] name value)
      = some (below root span' key (entries ++ [(name, value)])) := by
  refine ⟨⟨span.start, (value.span?.map (·.stop)).getD span.stop⟩, ?_⟩
  have hinsert := Table.insert?_of_notMem (t := ⟨.header, entries⟩) rfl h value
  rw [line?, pair?]
  show (Table.insert? [] name value ⟨.header, entries⟩ >>= _) = _
  rw [hinsert]
  rfl

/-! ## The lines of a document -/

theorem foldlM_pairs {pairs : List PlainPair} {lines : List Line} (root : Table) (span : Span)
    (key : Key) (h : List.Forall₂ Plain.Gives (pairs.map .pair) lines)
    (hnodup : (entries.map (·.1.name) ++ pairs.map PlainPair.name).Nodup) :
    ∃ span' more, lines.foldlM line? (below root span key entries)
        = some (below root span' key (entries ++ more))
      ∧ List.Forall₂ HoldsPair pairs more := by
  induction pairs generalizing lines span entries with
  | nil =>
    cases h
    exact ⟨span, [], by rw [List.append_nil]; rfl, .nil⟩
  | cons p pairs ih =>
    rw [List.map_cons] at h
    cases h with
    | cons hgives hrest =>
      cases hgives with
      | pair keySpan valueSpan =>
        have hfresh : p.name ∉ entries.map (·.1.name) := by
          intro hmem
          exact (List.nodup_append.mp hnodup).2.2 _ hmem _ List.mem_cons_self rfl
        let e : Key × Item := (⟨p.name, keySpan⟩, .scalar valueSpan p.value)
        obtain ⟨span₁, hline⟩ : ∃ span₁, (below root span key entries).line? (.pair [] e.1 e.2)
            = some (below root span₁ key (entries ++ [e])) := line?_pair_of_notMem hfresh
        have hnodup' : ((entries ++ [e]).map (·.1.name) ++ pairs.map PlainPair.name).Nodup := by
          rw [List.map_append, List.append_assoc]
          exact hnodup
        obtain ⟨span', more, hfold, hmore⟩ := ih span₁ hrest hnodup'
        refine ⟨span', e :: more, ?_, .cons ⟨rfl, valueSpan, rfl⟩ hmore⟩
        rw [List.foldlM_cons, hline]
        rw [List.append_assoc] at hfold
        exact hfold

theorem foldlM_section {sec : PlainSection} {lines : List Line}
    (h : List.Forall₂ Plain.Gives sec.lines lines) (hsec : sec.WellFormed) {d : Draft}
    (hd : d.close? = some root) (hfresh : sec.name ∉ root.names) :
    ∃ d' e, lines.foldlM line? d = some d'
      ∧ d'.close? = some ⟨root.origin, root.entries ++ [e]⟩ ∧ HoldsSection sec e := by
  rw [PlainSection.lines] at h
  cases h with
  | cons hgives hpairs =>
    cases hgives with
    | header span keySpan =>
      have hline := line?_header_of_notMem hd ⟨sec.name, keySpan⟩ hfresh span
      have hnodup : (([] : List (Key × Item)).map (·.1.name)
          ++ sec.pairs.map PlainPair.name).Nodup := hsec.nodup
      obtain ⟨span', entries, hfold, hentries⟩ :=
        foldlM_pairs root span ⟨sec.name, keySpan⟩ hpairs hnodup
      rw [List.nil_append] at hfold
      refine ⟨_, (⟨sec.name, keySpan⟩, .table (some span') .header entries), ?_, close?_below, rfl,
        some span', entries, rfl, hentries⟩
      rw [List.foldlM_cons, hline]
      exact hfold

theorem foldlM_document {doc : List PlainSection} {lines : List Line}
    (h : List.Forall₂ Plain.Gives (doc.flatMap PlainSection.lines) lines)
    (hdoc : ∀ sec ∈ doc, sec.WellFormed) {d : Draft} (hd : d.close? = some root)
    (hnodup : (root.names ++ doc.map PlainSection.name).Nodup) :
    ∃ d' entries, lines.foldlM line? d = some d'
      ∧ d'.close? = some ⟨root.origin, root.entries ++ entries⟩
      ∧ List.Forall₂ HoldsSection doc entries := by
  -- After each section the draft, if it were closed, would be the root with the sections so far.
  induction doc generalizing lines d root with
  | nil =>
    cases h
    exact ⟨d, [], rfl, by rw [List.append_nil]; exact hd, .nil⟩
  | cons sec doc ih =>
    rw [List.flatMap_cons] at h
    obtain ⟨first, later, rfl, hfirst, hlater⟩ := forall₂_append_left h
    have hfresh : sec.name ∉ root.names := by
      intro hmem
      exact (List.nodup_append.mp hnodup).2.2 _ hmem _ List.mem_cons_self rfl
    obtain ⟨d₁, e, hfold, hclose, hholds⟩ :=
      foldlM_section hfirst (hdoc sec List.mem_cons_self) hd hfresh
    have hnodup' : (Table.names ⟨root.origin, root.entries ++ [e]⟩
        ++ doc.map PlainSection.name).Nodup := by
      rw [Table.names, List.map_append, List.append_assoc, List.map_singleton, hholds.1]
      exact hnodup
    obtain ⟨d', entries, hfold', hclose', hall⟩ := ih hlater
      (fun sec' hsec' => hdoc sec' (List.mem_cons_of_mem sec hsec')) hclose hnodup'
    refine ⟨d', e :: entries, ?_, ?_, .cons hholds hall⟩
    · rw [List.foldlM_append, hfold]
      exact hfold'
    · rw [hclose', List.append_assoc]
      rfl

end Draft

/-- A plain document, with blank lines anywhere, is read as its sections. -/
theorem read?_plain {plain : List Plain} {doc : List PlainSection}
    (hlines : plain.filter (! ·.isBlank) = doc.flatMap PlainSection.lines)
    (hdoc : ∀ sec ∈ doc, sec.WellFormed) (hnodup : (doc.map PlainSection.name).Nodup) :
    ∃ t, read? (plain.flatMap Plain.text) = some t
      ∧ List.Forall₂ HoldsSection doc t.entries := by
  have hplain : ∀ l ∈ plain, l.WellFormed := by
    intro l hl
    cases hblank : l.isBlank with
    | true =>
      cases l with
      | blank => trivial
      | header name => cases hblank
      | pair p => cases hblank
    | false =>
      have hmem : l ∈ doc.flatMap PlainSection.lines := by
        rw [← hlines]
        exact List.mem_filter.mpr ⟨hl, by rw [hblank]; rfl⟩
      obtain ⟨sec, hsec, hl⟩ := List.mem_flatMap.mp hmem
      rcases List.mem_cons.mp hl with rfl | hl
      · exact (hdoc sec hsec).name
      · obtain ⟨p, hp, rfl⟩ := List.mem_map.mp hl
        exact (hdoc sec hsec).pairs p hp
  obtain ⟨lines, hread, hgives⟩ := lines?_plain hplain
  rw [hlines] at hgives
  have hempty : Draft.empty.close? = some ⟨.header, []⟩ := rfl
  obtain ⟨d, entries, hfold, hclose, hentries⟩ :=
    Draft.foldlM_document hgives hdoc hempty hnodup
  refine ⟨⟨.header, entries⟩, ?_, hentries⟩
  rw [read?, hread]
  show (lines.foldlM Draft.line? Draft.empty >>= _) = _
  rw [hfold]
  exact hclose

end SymbolOutline.Toml
