import SymbolOutline.Proofs.Toml.Document
import SymbolOutline.Proofs.Toml.Scalar
import SymbolOutline.Settings.Toml

/-!
# Settings are read back

The document of settings is a list of lines (`docLines`), and what any of them
leave, as long as a field keeps its header, is plain: a section for each header
and in it a pair for each field. Reading it takes just these fields, one after
the other, from the settings that were written (`ofToml_filter_docLines`); so a
document with all fields gives the settings back (`ofToml_tomlOf_all`).
-/

namespace SymbolOutline.Settings

open Toml (PlainPair PlainSection Plain WritesScalar HoldsPair HoldsSection IsBareName)

variable (s : Settings)

/-! ## The document -/

/-- The pair of a field, if the field has a value. -/
def pair? : Field → Option PlainPair
  | .sort => some ⟨"sort", boolText s.outline.sort, .boolean s.outline.sort⟩
  | .maxDepth => s.outline.maxDepth.map fun n => ⟨"max_depth", Decimal.digits n, .integer n⟩
  | .indent => some ⟨"indent", Decimal.digits s.render.indent, .integer s.render.indent⟩
  | .showLines => some ⟨"show_lines", boolText s.render.showLines, .boolean s.render.showLines⟩
  | .showDetail => some ⟨"show_detail", boolText s.render.showDetail, .boolean s.render.showDetail⟩

def plainSection (keep : Field → Bool) (sec : Section) : PlainSection :=
  ⟨sec.name, (sec.fields.filter keep).filterMap s.pair?⟩

theorem line_eq (field : Field) :
    s.line field = (s.pair? field).toList.flatMap fun p => (Plain.pair p).text := by
  cases field with
  | maxDepth =>
    cases h : s.outline.maxDepth <;>
      simp [line, valueText?, pair?, Plain.text, h, Field.name]
  | sort | indent | showLines | showDetail =>
    simp [line, valueText?, pair?, Plain.text, Field.name]

theorem name_of_pair? {field : Field} {p : PlainPair} (h : s.pair? field = some p) :
    p.name = field.name := by
  cases field with
  | maxDepth =>
    obtain ⟨n, -, rfl⟩ := Option.map_eq_some_iff.mp h
    rfl
  | _ => cases h; rfl

/-! ## Its lines -/

/-- A line of the document of settings. -/
inductive DocLine where
  | header (sec : Section)
  | field (f : Field)
  /-- The blank line between the sections. -/
  | gap
  deriving DecidableEq, Repr

def lineText : DocLine → List Char
  | .header sec => '[' :: (sec.name.toList ++ [']', '\n'])
  | .field f => s.line f
  | .gap => ['\n']

/-- The lines of a section: its header, and a line for each field with a value. -/
def sectionLines (sec : Section) : List DocLine :=
  .header sec :: (sec.fields.filter fun f => (s.valueText? f).isSome).map .field

/-- The lines of the document, first to last. -/
def docLines : List DocLine := s.sectionLines .outline ++ .gap :: s.sectionLines .render

theorem mem_docLines {sec : Section} {line : DocLine} (h : line ∈ s.sectionLines sec) :
    line ∈ s.docLines := by
  cases sec with
  | outline => exact List.mem_append_left _ h
  | render => exact List.mem_append_right _ (List.mem_cons_of_mem _ h)

theorem isSome_of_mem_docLines {f : Field} (h : .field f ∈ s.docLines) :
    (s.valueText? f).isSome = true := by
  simp only [docLines, sectionLines, List.mem_append, List.mem_cons, List.mem_map,
    List.mem_filter, reduceCtorEq, false_or, DocLine.field.injEq] at h
  rcases h with ⟨_, ⟨-, hf⟩, rfl⟩ | ⟨_, ⟨-, hf⟩, rfl⟩
  · exact hf
  · exact hf

/-- The lines of some fields, with all headers. -/
def DocLine.hasField (keep : Field → Bool) : DocLine → Bool
  | .field f => keep f
  | .header _ | .gap => true

theorem flatMap_lineText_fields (keep : Field → Bool) (fields : List Field) :
    (((fields.filter fun f => (s.valueText? f).isSome).map DocLine.field).filter
        (DocLine.hasField keep)).flatMap s.lineText
      = (fields.filter keep).flatMap s.line := by
  induction fields with
  | nil => rfl
  | cons f fields ih =>
    cases hvalue : s.valueText? f <;> cases hkeep : keep f <;>
      simp [DocLine.hasField, lineText, line, hvalue, hkeep] at ih ⊢ <;> exact ih

theorem flatMap_lineText_section (keep : Field → Bool) (sec : Section) :
    ((s.sectionLines sec).filter (DocLine.hasField keep)).flatMap s.lineText
      = s.sectionText keep sec := by
  rw [sectionLines, List.filter_cons_of_pos rfl, List.flatMap_cons, flatMap_lineText_fields]
  rfl

theorem tomlOf_eq (keep : Field → Bool) :
    s.tomlOf keep = (s.docLines.filter (DocLine.hasField keep)).flatMap s.lineText := by
  rw [docLines, List.filter_append, List.filter_cons_of_pos rfl, List.flatMap_append,
    List.flatMap_cons, flatMap_lineText_section, flatMap_lineText_section]
  rfl

/-- What a line stands for. -/
def plainLine : DocLine → Plain
  | .header sec => .header sec.name
  | .field f => ((s.pair? f).map Plain.pair).getD .blank
  | .gap => .blank

theorem isSome_valueText? (f : Field) : (s.valueText? f).isSome = (s.pair? f).isSome := by
  cases f with
  | maxDepth => simp [valueText?, pair?]
  | _ => rfl

theorem text_plainLine {line : DocLine} (h : line ∈ s.docLines) :
    (s.plainLine line).text = s.lineText line := by
  cases line with
  | header sec => simp [plainLine, lineText, Plain.text]
  | gap => rfl
  | field f =>
    have hsome : (s.pair? f).isSome = true := by
      rw [← isSome_valueText?]
      exact s.isSome_of_mem_docLines h
    obtain ⟨p, hp⟩ := Option.isSome_iff_exists.mp hsome
    simp [plainLine, lineText, line_eq, hp]

/-! ## The document is well formed -/

theorem writesScalar_boolText (b : Bool) : WritesScalar (boolText b) (.boolean b) where
  start := by cases b <;> exact ⟨_, _, rfl, by decide⟩
  scalar rest := Toml.scalar?_boolean b rest

theorem writesScalar_digits {n : Nat} (hn : n ≤ maxCount) :
    WritesScalar (Decimal.digits n) (.integer n) where
  start := by
    obtain ⟨d, ds, hdigits, hd, -⟩ := Decimal.digits_eq_cons n
    have hblank : Toml.isBlank d = false := by
      simp [Toml.isBlank, Toml.ne_of_isDigit hd (c := ' ') (by decide),
        Toml.ne_of_isDigit hd (c := '\t') (by decide)]
    exact ⟨d, ds, hdigits, hblank, Toml.ne_of_isDigit hd (by decide),
      Toml.ne_of_isDigit hd (by decide)⟩
  scalar rest := by
    have hfits : n < Nat.pow 2 63 := by
      have hpos : 0 < Nat.pow 2 63 := by decide
      unfold maxCount at hn
      omega
    exact Toml.scalar?_digits hfits rest

theorem isBareName_field (field : Field) : IsBareName field.name := by
  cases field <;> exact ⟨List.cons_ne_nil _ _, List.all_eq_true.mp (by rfl)⟩

theorem isBareName_section (sec : Section) : IsBareName sec.name := by
  cases sec <;> exact ⟨List.cons_ne_nil _ _, List.all_eq_true.mp (by rfl)⟩

theorem wellFormed_of_pair? (hs : s.IsWritable) {field : Field} {p : PlainPair}
    (h : s.pair? field = some p) : (Plain.pair p).WellFormed := by
  refine ⟨?_, ?_⟩
  · rw [name_of_pair? s h]
    exact isBareName_field field
  · cases field with
    | maxDepth =>
      obtain ⟨n, hn, rfl⟩ := Option.map_eq_some_iff.mp h
      exact writesScalar_digits (hs.1 n hn)
    | indent =>
      cases h
      exact writesScalar_digits hs.2
    | sort | showLines | showDetail =>
      cases h
      exact writesScalar_boolText _

theorem nodup_fields (sec : Section) : (sec.fields.map Field.name).Nodup := by
  cases sec <;> decide

theorem names_sublist (fields : List Field) :
    ((fields.filterMap s.pair?).map PlainPair.name).Sublist (fields.map Field.name) := by
  induction fields with
  | nil => exact .slnil
  | cons field fields ih =>
    rw [List.map_cons]
    cases hp : s.pair? field with
    | none =>
      rw [List.filterMap_cons_none hp]
      exact ih.cons field.name
    | some p =>
      rw [List.filterMap_cons_some hp, List.map_cons, name_of_pair? s hp]
      exact ih.cons_cons field.name

theorem wellFormed_plainSection (hs : s.IsWritable) (keep : Field → Bool) (sec : Section) :
    (s.plainSection keep sec).WellFormed where
  name := isBareName_section sec
  pairs p hp := by
    obtain ⟨field, -, hfield⟩ := List.mem_filterMap.mp hp
    exact wellFormed_of_pair? s hs hfield
  nodup := by
    have hkept : ((sec.fields.filter keep).map Field.name).Sublist (sec.fields.map Field.name) :=
      List.filter_sublist.map Field.name
    exact (nodup_fields sec).sublist ((names_sublist s _).trans hkept)

/-! ## Reading -/

/-- The settings with the value of a field, if it has one, taken from others. -/
def take (base : Settings) : Field → Settings
  | .sort => { base with outline.sort := s.outline.sort }
  | .maxDepth => { base with outline.maxDepth := s.outline.maxDepth.or base.outline.maxDepth }
  | .indent => { base with render.indent := s.render.indent }
  | .showLines => { base with render.showLines := s.render.showLines }
  | .showDetail => { base with render.showDetail := s.render.showDetail }

theorem take_of_none {field : Field} (h : s.pair? field = none) (base : Settings) :
    s.take base field = base := by
  cases field with
  | maxDepth =>
    have hnone : s.outline.maxDepth = none := Option.map_eq_none_iff.mp h
    rw [take, hnone]
    rfl
  | _ => cases h

theorem foldl_take_of_none {fields : List Field} (h : ∀ f ∈ fields, s.pair? f = none)
    (base : Settings) : fields.foldl s.take base = base := by
  induction fields with
  | nil => rfl
  | cons f fields ih =>
    rw [List.foldl_cons, take_of_none s (h f List.mem_cons_self)]
    exact ih fun f' hf' => h f' (List.mem_cons_of_mem f hf')

theorem count_ofNat (span : Toml.Span) (span' : Toml.Span) (n : Nat) :
    count span (.scalar span' (.integer n)) = .ok n := by
  rw [count, if_neg (by omega), Int.toNat_natCast]

theorem set_of_pair? {field : Field} {p : PlainPair} (h : s.pair? field = some p)
    (base : Settings) (span span' : Toml.Span) :
    base.set field span (.scalar span' p.value) = .ok (s.take base field) := by
  cases field with
  | maxDepth =>
    obtain ⟨n, hn, rfl⟩ := Option.map_eq_some_iff.mp h
    rw [set, count_ofNat, take, hn]
    rfl
  | indent =>
    cases h
    rw [set, count_ofNat]
    rfl
  | sort | showLines | showDetail =>
    cases h
    rfl

theorem find?_field {sec : Section} {field : Field} (h : field ∈ sec.fields) :
    sec.fields.find? (·.name = field.name) = some field := by
  cases sec <;> cases field <;> first | decide | exact absurd h (by decide)

/-- A section takes the fields that it has pairs for. -/
theorem readSection_of_holds {sec : Section} {fields : List Field}
    (hfields : ∀ field ∈ fields, field ∈ sec.fields) {entries : List (Toml.Key × Toml.Item)}
    (h : List.Forall₂ HoldsPair (fields.filterMap s.pair?) entries) (base : Settings)
    (place : Toml.Span) (span : Option Toml.Span) (origin : Toml.Origin) :
    readSection sec base place (.table span origin entries)
      = .ok (fields.foldl s.take base) := by
  rw [readSection]
  induction fields generalizing entries base with
  | nil =>
    cases h
    rfl
  | cons field fields ih =>
    have hrest : ∀ f ∈ fields, f ∈ sec.fields := fun f hf =>
      hfields f (List.mem_cons_of_mem field hf)
    rw [List.foldl_cons]
    cases hp : s.pair? field with
    | none =>
      rw [List.filterMap_cons_none hp] at h
      rw [take_of_none s hp]
      exact ih hrest h base
    | some p =>
      rw [List.filterMap_cons_some hp] at h
      cases h with
      | @cons _ e _ later hpair hlater =>
        obtain ⟨key, item⟩ := e
        obtain ⟨hname, span', rfl⟩ := hpair
        have hfind : sec.fields.find? (·.name = key.name) = some field := by
          rw [hname, name_of_pair? s hp]
          exact find?_field (hfields field List.mem_cons_self)
        rw [List.foldlM_cons]
        simp only [hfind, set_of_pair? s hp]
        exact ih hrest hlater (s.take base field)

/-- The settings with the values of the kept fields; the others have their default. -/
def keeping (keep : Field → Bool) : Settings where
  outline :=
    { sort := if keep .sort then s.outline.sort else true
      maxDepth := if keep .maxDepth then s.outline.maxDepth else none }
  render :=
    { indent := if keep .indent then s.render.indent else 2
      showLines := if keep .showLines then s.render.showLines else true
      showDetail := if keep .showDetail then s.render.showDetail else false }

theorem foldl_take (keep : Field → Bool) :
    (Section.render.fields.filter keep).foldl s.take
        ((Section.outline.fields.filter keep).foldl s.take {})
      = s.keeping keep := by
  have houtline : (Section.outline.fields.filter keep).foldl s.take {}
      = { outline := (s.keeping keep).outline } := by
    cases hsort : keep .sort <;> cases hdepth : keep .maxDepth <;>
      simp [Section.fields, take, keeping, hsort, hdepth]
  rw [houtline]
  cases hindent : keep .indent <;> cases hlines : keep .showLines <;>
    cases hdetail : keep .showDetail <;>
      simp [Section.fields, take, keeping, hindent, hlines, hdetail]

theorem find?_section (sec : Section) :
    [Section.outline, .render].find? (·.name = sec.name) = some sec := by
  cases sec <;> rfl

theorem readSection_of_holdsSection {keep : Field → Bool} {sec : Section} {key : Toml.Key}
    {item : Toml.Item} (h : HoldsSection (s.plainSection keep sec) (key, item)) :
    [Section.outline, .render].find? (·.name = key.name) = some sec
      ∧ ∀ base place, readSection sec base place item
        = .ok ((sec.fields.filter keep).foldl s.take base) := by
  obtain ⟨hname, span, entries, rfl, hentries⟩ := h
  refine ⟨by rw [hname]; exact find?_section sec, ?_⟩
  intro base place
  exact readSection_of_holds s (fun f hf => (List.mem_filter.mp hf).1) hentries base place span
    .header

/-- The settings with the kept fields of a section taken from others. -/
def takeSection (keep : Field → Bool) (base : Settings) (sec : Section) : Settings :=
  (sec.fields.filter keep).foldl s.take base

theorem ofTable_of_holds {keep : Field → Bool} {secs : List Section} {t : Toml.Table}
    (h : List.Forall₂ HoldsSection (secs.map (s.plainSection keep)) t.entries) :
    ofTable t = .ok (secs.foldl (s.takeSection keep) {}) := by
  rw [ofTable]
  generalize t.entries = entries at h ⊢
  generalize ({} : Settings) = base
  induction secs generalizing entries base with
  | nil =>
    cases h
    rfl
  | cons sec secs ih =>
    rw [List.map_cons] at h
    cases h with
    | @cons _ e _ later hsec hlater =>
      obtain ⟨key, item⟩ := e
      obtain ⟨hfind, hread⟩ := readSection_of_holdsSection s hsec
      rw [List.foldlM_cons]
      simp only [hfind, hread]
      exact ih later hlater (s.takeSection keep base sec)

/-! ## Lines left out -/

variable {s}

/-- A field that is left has its header above it. -/
def KeepsHeaders (s : Settings) (kept : DocLine → Bool) : Prop :=
  ∀ sec, ∀ f ∈ sec.fields, .field f ∈ s.docLines → kept (.field f) = true →
    kept (.header sec) = true

/-- The sections whose header is left. -/
def leftHeaders (kept : DocLine → Bool) : List Section :=
  [.outline, .render].filter fun sec => kept (.header sec)

def leftSections (s : Settings) (kept : DocLine → Bool) : List PlainSection :=
  (leftHeaders kept).map (s.plainSection fun f => kept (.field f))

theorem wellFormed_leftSections (hs : s.IsWritable) (kept : DocLine → Bool) :
    ∀ sec ∈ s.leftSections kept, sec.WellFormed := by
  intro sec hsec
  obtain ⟨sec, -, rfl⟩ := List.mem_map.mp hsec
  exact wellFormed_plainSection s hs _ sec

theorem nodup_leftSections (s : Settings) (kept : DocLine → Bool) :
    ((s.leftSections kept).map PlainSection.name).Nodup := by
  have hnames : ((leftHeaders kept).map Section.name).Sublist ["outline", "render"] :=
    List.filter_sublist.map Section.name
  rw [leftSections, List.map_map]
  exact hnames.nodup (by decide)

/-- The pairs of the lines that are left below a header. -/
theorem map_plainLine_fields (kept : DocLine → Bool) (fields : List Field) :
    (((fields.filter fun f => (s.valueText? f).isSome).map DocLine.field).filter kept).map
        s.plainLine
      = ((fields.filter fun f => kept (.field f)).filterMap s.pair?).map Plain.pair := by
  induction fields with
  | nil => rfl
  | cons f fields ih =>
    cases hp : s.pair? f <;> cases hf : kept (.field f) <;>
      simp [isSome_valueText?, plainLine, hp, hf] at ih ⊢ <;> exact ih

/-- The lines that are left of a section are those of its plain section, or none. -/
theorem plainLines_section {kept : DocLine → Bool} (hkept : s.KeepsHeaders kept) (sec : Section) :
    (((s.sectionLines sec).filter kept).map s.plainLine).filter (! ·.isBlank)
      = ([sec].filter fun sec => kept (.header sec)).flatMap fun sec =>
          (s.plainSection (fun f => kept (.field f)) sec).lines := by
  by_cases hheader : kept (.header sec) = true
  · have hlines : ((s.sectionLines sec).filter kept).map s.plainLine
        = (s.plainSection (fun f => kept (.field f)) sec).lines := by
      rw [sectionLines, List.filter_cons_of_pos hheader, List.map_cons, map_plainLine_fields]
      rfl
    rw [hlines, PlainSection.filter_lines]
    simp [hheader]
  · have hnone : (s.sectionLines sec).filter kept = [] := by
      rw [List.filter_eq_nil_iff]
      intro line hline hkeep
      rcases List.mem_cons.mp hline with rfl | hfield
      · exact hheader hkeep
      · obtain ⟨f, hf, rfl⟩ := List.mem_map.mp hfield
        exact hheader (hkept sec f (List.mem_filter.mp hf).1 (s.mem_docLines hline) hkeep)
    simp [hnone, hheader]

theorem plainLines_docLines {kept : DocLine → Bool} (hkept : s.KeepsHeaders kept) :
    ((s.docLines.filter kept).map s.plainLine).filter (! ·.isBlank)
      = (s.leftSections kept).flatMap PlainSection.lines := by
  have hgap : (([DocLine.gap].filter kept).map s.plainLine).filter (! ·.isBlank) = [] := by
    cases h : kept .gap <;> simp [h, plainLine, Plain.isBlank]
  have hsections : [Section.outline, .render] = [.outline] ++ [.render] := rfl
  have hlines : s.docLines = s.sectionLines .outline ++ ([.gap] ++ s.sectionLines .render) := rfl
  rw [hlines, leftSections, leftHeaders, hsections]
  simp only [List.filter_append, List.map_append, plainLines_section hkept, hgap, List.nil_append,
    List.flatMap_append, List.flatMap_map]

/-- Nothing is taken from a section whose header is left out. -/
theorem takeSection_of_not_kept {kept : DocLine → Bool} (hkept : s.KeepsHeaders kept)
    {sec : Section} (hheader : ¬kept (.header sec) = true) (base : Settings) :
    s.takeSection (fun f => kept (.field f)) base sec = base := by
  refine foldl_take_of_none s (fun f hf => ?_) base
  obtain ⟨hmem, hkeep⟩ := List.mem_filter.mp hf
  rw [← Option.not_isSome_iff_eq_none, ← isSome_valueText?]
  intro hsome
  have hline : .field f ∈ s.sectionLines sec :=
    List.mem_cons_of_mem _ (List.mem_map_of_mem (List.mem_filter.mpr ⟨hmem, hsome⟩))
  exact hheader (hkept sec f hmem (s.mem_docLines hline) hkeep)

theorem foldl_takeSection {kept : DocLine → Bool} (hkept : s.KeepsHeaders kept) :
    (leftHeaders kept).foldl (s.takeSection fun f => kept (.field f)) {}
      = s.keeping fun f => kept (.field f) := by
  have hall : ∀ base sec, (if kept (.header sec) = true
      then s.takeSection (fun f => kept (.field f)) base sec else base)
        = s.takeSection (fun f => kept (.field f)) base sec := by
    intro base sec
    split
    · rfl
    · next hheader => exact (takeSection_of_not_kept hkept hheader base).symm
  rw [leftHeaders, List.foldl_filter]
  simp only [hall, ← foldl_take]
  rfl

/-- The lines that are left of a document give the fields that are left; the
others have their default. -/
theorem ofToml_filter_docLines (hs : s.IsWritable) {kept : DocLine → Bool}
    (hkept : s.KeepsHeaders kept) :
    ofToml ((s.docLines.filter kept).flatMap s.lineText)
      = .ok (s.keeping fun f => kept (.field f)) := by
  have htext : (s.docLines.filter kept).flatMap s.lineText
      = ((s.docLines.filter kept).map s.plainLine).flatMap Plain.text := by
    rw [List.flatMap_map]
    refine List.flatMap_congr fun line hline => ?_
    exact (s.text_plainLine (List.mem_filter.mp hline).1).symm
  obtain ⟨t, hread, hholds⟩ := Toml.read?_plain (plainLines_docLines hkept)
    (wellFormed_leftSections hs kept) (nodup_leftSections s kept)
  rw [ofToml, htext, hread]
  show ofTable t = _
  rw [ofTable_of_holds s hholds, foldl_takeSection hkept]

theorem ofToml_tomlOf {s : Settings} (hs : s.IsWritable) (keep : Field → Bool) :
    ofToml (s.tomlOf keep) = .ok (s.keeping keep) := by
  rw [tomlOf_eq]
  exact ofToml_filter_docLines hs fun _ _ _ _ _ => rfl

theorem keeping_all (s : Settings) : s.keeping (fun _ => true) = s := rfl

/-- A document with all fields gives the settings back. -/
theorem ofToml_tomlOf_all {s : Settings} (hs : s.IsWritable) :
    ofToml (s.tomlOf fun _ => true) = .ok s := by
  rw [ofToml_tomlOf hs, keeping_all]

end SymbolOutline.Settings
