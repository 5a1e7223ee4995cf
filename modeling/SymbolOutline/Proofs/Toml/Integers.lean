import Mathlib.Data.List.Basic
import SymbolOutline.Toml.Reader

/-!
# Integers of a document

Every integer in a document that is read has 64 bits, wherever it stands
(`fits_of_read?`). Numerals are checked when they are read
(`Scalar.fits_of_scalar?`), and putting tables together moves items around but
makes no integers (`Table.update?_keeps`).
-/

namespace SymbolOutline.Toml

/-- The scalar is no integer beyond 64 bits. -/
def Scalar.Fits : Scalar → Prop
  | integer i => fitsInt64 i = true
  | string _ | float _ | boolean _ | dateTime => True

/-- No integer in the item is beyond 64 bits. -/
inductive Item.Fits : Item → Prop where
  | scalar {span : Span} {v : Scalar} : v.Fits → Fits (.scalar span v)
  | array {span : Span} {items : List Item} : (∀ item ∈ items, Fits item) → Fits (.array span items)
  | table {span : Option Span} {origin : Origin} {entries : List (Key × Item)} :
      (∀ e ∈ entries, Fits e.2) → Fits (.table span origin entries)
  | tables {span : Option Span} {items : List Item} :
      (∀ item ∈ items, Fits item) → Fits (.tables span items)

def Table.Fits (t : Table) : Prop := ∀ e ∈ t.entries, e.2.Fits

def Line.Fits : Line → Prop
  | pair _ _ value => value.Fits
  | header .. => True

/-! ## Numerals -/

namespace Scalar

variable {v : Scalar} {text rest : List Char}

theorem fits_of_integerOf? {i : Int} (h : integerOf? i text = some (v, rest)) : v.Fits := by
  unfold integerOf? at h
  split at h
  · next hfits =>
    cases h
    exact hfits
  · cases h

theorem fits_of_floatOf? {x : Double} (h : floatOf? x text = some (v, rest)) : v.Fits := by
  unfold floatOf? at h
  split at h
  · cases h
  · cases h
    trivial

theorem fits_of_baseInteger? {base : Nat} (h : baseInteger? base text = some (v, rest)) :
    v.Fits := by
  unfold baseInteger? at h
  split at h
  · exact fits_of_integerOf? h
  · cases h

theorem fits_of_decimal? {negative : Bool} (h : decimal? negative text = some (v, rest)) :
    v.Fits := by
  unfold decimal? at h
  split at h
  · cases h
  · split at h
    · cases h
    · split at h
      · cases h
      · split at h
        · exact fits_of_integerOf? h
        · exact fits_of_floatOf? h
      · exact fits_of_floatOf? h

theorem fits_of_number? (h : number? text = some (v, rest)) : v.Fits := by
  unfold number? at h
  split at h
  · exact fits_of_baseInteger? h
  · exact fits_of_baseInteger? h
  · exact fits_of_baseInteger? h
  · split at h
    · cases h
      trivial
    · cases h
      trivial
    · exact fits_of_decimal? h

theorem fits_of_scalar? (h : scalar? text = some (v, rest)) : v.Fits := by
  unfold scalar? at h
  split at h
  · obtain ⟨_, -, heq⟩ := Option.map_eq_some_iff.mp h
    cases heq
    trivial
  · obtain ⟨_, -, heq⟩ := Option.map_eq_some_iff.mp h
    cases heq
    trivial
  · cases h
    trivial
  · cases h
    trivial
  · split at h
    · cases h
      trivial
    · exact fits_of_number? h

end Scalar

/-! ## Tables -/

namespace Table

variable {t t' : Table} {item : Item} {name : String} {key : Key}

theorem fits_of_find? (ht : t.Fits) (h : t.find? name = some item) : item.Fits := by
  obtain ⟨e, he, rfl⟩ := Option.map_eq_some_iff.mp h
  exact ht e (List.mem_of_find?_eq_some he)

theorem Fits.add (ht : t.Fits) (hitem : item.Fits) : (t.add key item).Fits := by
  intro e he
  rcases List.mem_append.mp he with he | he
  · exact ht e he
  · rw [List.mem_singleton.mp he]
    exact hitem

theorem Fits.erase (ht : t.Fits) : (t.erase name).Fits :=
  fun e he => ht e (List.mem_filter.mp he).1

theorem Fits.replace (ht : t.Fits) (hitem : item.Fits) : (t.replace name item).Fits := by
  intro e he
  obtain ⟨⟨key, old⟩, hold, rfl⟩ := List.mem_map.mp he
  dsimp only
  split
  · exact hitem
  · exact ht (key, old) hold

theorem Fits.toItem (ht : t.Fits) (span : Option Span) : (t.item span).Fits := .table ht

theorem fits_empty (origin : Origin) : Table.Fits ⟨origin, []⟩ := List.forall_mem_nil _

section

variable {α : Type} {P : α → Prop} {origin : Origin} {change : Table → Option (α × Table)}

/-- What a change at the end of a path keeps is kept along the path. -/
theorem update?_keeps
    (hchange : ∀ t a t', t.Fits → change t = some (a, t') → P a ∧ t'.Fits) {path : List Key}
    {t t' : Table} {a : α} (ht : t.Fits) (h : update? origin change path t = some (a, t')) :
    P a ∧ t'.Fits := by
  induction path generalizing t t' a with
  | nil => exact hchange t a t' ht h
  | cons key path ih =>
    rw [update?] at h
    split at h
    · simp only [Option.bind_eq_bind, Option.bind_eq_some_iff] at h
      obtain ⟨⟨a', inner⟩, hinner, heq⟩ := h
      cases heq
      obtain ⟨ha, hfits⟩ := ih (fits_empty origin) hinner
      exact ⟨ha, ht.add (hfits.toItem none)⟩
    · next span made entries hfind =>
      cases fits_of_find? ht hfind with
      | table hentries =>
        split at h
        · simp only [Option.bind_eq_bind, Option.bind_eq_some_iff] at h
          obtain ⟨⟨a', inner⟩, hinner, heq⟩ := h
          cases heq
          obtain ⟨ha, hfits⟩ := ih (t := ⟨made, entries⟩) hentries hinner
          exact ⟨ha, ht.replace (hfits.toItem span)⟩
        · cases h
    · next span items hfind =>
      cases fits_of_find? ht hfind with
      | tables hitems =>
        split at h
        · next last made entries hlast =>
          cases hitems _ (List.mem_of_getLast? hlast) with
          | table hentries =>
            simp only [Option.bind_eq_bind, Option.bind_eq_some_iff] at h
            obtain ⟨⟨a', inner⟩, hinner, heq⟩ := h
            cases heq
            obtain ⟨ha, hfits⟩ := ih (t := ⟨made, entries⟩) hentries hinner
            refine ⟨ha, ht.replace (.tables ?_)⟩
            intro item hitem
            rcases List.mem_append.mp hitem with hitem | hitem
            · exact hitems item (List.dropLast_subset items hitem)
            · rw [List.mem_singleton.mp hitem]
              exact hfits.toItem last
        · cases h
    · cases h

end

theorem Fits.insert? {path : List Key} {value : Item} (ht : t.Fits) (hvalue : value.Fits)
    (h : t.insert? path key value = some t') : t'.Fits := by
  simp only [Table.insert?, Option.bind_eq_bind, Option.bind_eq_some_iff] at h
  obtain ⟨⟨⟨⟩, inner⟩, hinner, heq⟩ := h
  cases heq
  refine (update?_keeps (P := fun _ => True) ?_ ht hinner).2
  intro t a t' ht h
  split at h
  · cases h
  · split at h
    · cases h
    · cases h
      exact ⟨trivial, ht.add hvalue⟩

theorem Fits.take? (ht : t.Fits) {entries : List (Key × Item)}
    (h : t.take? key = some (entries, t')) : (∀ e ∈ entries, e.2.Fits) ∧ t'.Fits := by
  unfold Table.take? at h
  split at h
  · cases h
    exact ⟨List.forall_mem_nil _, ht⟩
  · next hfind =>
    cases h
    cases fits_of_find? ht hfind with
    | table hentries => exact ⟨hentries, ht.erase⟩
  · cases h

theorem Fits.startMany? (ht : t.Fits) {a : Unit} (h : t.startMany? key = some (a, t')) :
    True ∧ t'.Fits := by
  unfold Table.startMany? at h
  split at h
  · cases h
    exact ⟨trivial, ht.add (.tables (List.forall_mem_nil _))⟩
  · cases h
    exact ⟨trivial, ht⟩
  · cases h

theorem Fits.addMany? (ht : t.Fits) {span : Span} (hitem : item.Fits) {a : Unit}
    (h : t.addMany? key span item = some (a, t')) : True ∧ t'.Fits := by
  unfold Table.addMany? at h
  split at h
  · next old items hfind =>
    cases h
    refine ⟨trivial, ht.replace (.tables ?_)⟩
    cases fits_of_find? ht hfind with
    | tables hitems =>
      intro i hi
      rcases List.mem_append.mp hi with hi | hi
      · exact hitems i hi
      · rw [List.mem_singleton.mp hi]
        exact hitem
  · cases h

end Table

/-! ## Drafts -/

namespace Draft

structure Fits (d : Draft) : Prop where
  root : d.root.Fits
  current : d.current.Fits

variable {d d' : Draft} {t : Table}

theorem Fits.close? (hd : d.Fits) (h : d.close? = some t) : t.Fits := by
  unfold Draft.close? at h
  split at h
  · cases h
    exact hd.current
  · next s _ =>
    simp only [Option.bind_eq_bind, Option.bind_eq_some_iff] at h
    obtain ⟨⟨⟨⟩, root⟩, hroot, heq⟩ := h
    cases heq
    refine (Table.update?_keeps (P := fun _ => True) ?_ hd.root hroot).2
    intro t a t' ht h
    have hitem := hd.current.toItem (some s.span)
    split at h
    · exact ht.addMany? hitem h
    · cases h
      exact ⟨trivial, ht.add hitem⟩

theorem Fits.open? (hd : d.Fits) {s : Section} (h : d.open? s = some d') : d'.Fits := by
  simp only [Draft.open?, Option.bind_eq_bind, Option.bind_eq_some_iff] at h
  obtain ⟨root, hclose, h⟩ := h
  have hroot := hd.close? hclose
  split at h
  · simp only [Option.bind_eq_some_iff] at h
    obtain ⟨⟨⟨⟩, started⟩, hstart, heq⟩ := h
    cases heq
    exact ⟨(Table.update?_keeps (P := fun _ => True) (fun _ _ _ ht h => ht.startMany? h) hroot
      hstart).2, Table.fits_empty _⟩
  · simp only [Option.bind_eq_some_iff] at h
    obtain ⟨⟨entries, left⟩, htake, heq⟩ := h
    cases heq
    obtain ⟨hentries, hleft⟩ := Table.update?_keeps (P := fun l => ∀ e ∈ l, e.2.Fits)
      (fun _ _ _ ht h => ht.take? h) hroot htake
    exact ⟨hleft, hentries⟩

theorem Fits.pair? (hd : d.Fits) {path : List Key} {key : Key} {value : Item}
    (hvalue : value.Fits) (h : d.pair? path key value = some d') : d'.Fits := by
  simp only [Draft.pair?, Option.bind_eq_bind, Option.bind_eq_some_iff] at h
  obtain ⟨current, hcurrent, heq⟩ := h
  cases heq
  exact ⟨hd.root, hd.current.insert? hvalue hcurrent⟩

theorem Fits.line? (hd : d.Fits) {line : Line} (hline : line.Fits)
    (h : d.line? line = some d') : d'.Fits := by
  cases line with
  | pair path key value => exact hd.pair? hline h
  | header span path key many => exact hd.open? h

theorem Fits.foldlM {lines : List Line} (hd : d.Fits) (hlines : ∀ l ∈ lines, l.Fits)
    (h : lines.foldlM Draft.line? d = some d') : d'.Fits := by
  induction lines generalizing d with
  | nil =>
    cases h
    exact hd
  | cons line lines ih =>
    obtain ⟨hline, hlines⟩ := List.forall_mem_cons.mp hlines
    simp only [List.foldlM_cons, Option.bind_eq_bind, Option.bind_eq_some_iff] at h
    obtain ⟨next, hnext, hrest⟩ := h
    exact ih (hd.line? hline hnext) hlines hrest

end Draft

theorem Table.fits_of_ofLines? {lines : List Line} (hlines : ∀ l ∈ lines, l.Fits) {t : Table}
    (h : ofLines? lines = some t) : t.Fits := by
  simp only [ofLines?, Option.bind_eq_bind, Option.bind_eq_some_iff] at h
  obtain ⟨d, hfold, hclose⟩ := h
  have hempty : Draft.empty.Fits := ⟨fits_empty _, fits_empty _⟩
  exact (hempty.foldlM hlines hfold).close? hclose

/-! ## Values -/

/-- Values are read without integers beyond 64 bits. -/
def ReadsFits (value? : List Char → Option (Item × List Char)) : Prop :=
  ∀ text item rest, value? text = some (item, rest) → item.Fits

section

variable {value? : List Char → Option (Item × List Char)} (hvalue : ReadsFits value?)

include hvalue

theorem fits_of_read_more {read : List Item} {item : Item} {text rest : List Char}
    (hread : ∀ item ∈ read, item.Fits) (h : value? text = some (item, rest)) :
    ∀ i ∈ item :: read, i.Fits :=
  List.forall_mem_cons.mpr ⟨hvalue text item rest h, hread⟩

theorem fits_of_items? {fuel : Nat} {read items : List Item} {text rest : List Char}
    (hread : ∀ item ∈ read, item.Fits) (h : items? value? fuel read text = some (items, rest)) :
    ∀ item ∈ items, item.Fits := by
  fun_induction items? value? fuel read text with
  | case1 fuel read text left hclose =>
    cases h
    exact fun item hitem => hread item (List.mem_reverse.mp hitem)
  | case2 => cases h
  | case3 read text fuel item left later hcomma hopen hitem ih =>
    exact ih (fits_of_read_more hvalue hread hitem) h
  | case4 read text fuel item left later hclose hopen hitem =>
    cases h
    exact fun i hi => fits_of_read_more hvalue hread hitem i (List.mem_reverse.mp hi)
  | case5 => cases h
  | case6 => cases h

theorem fits_of_assignment? {text rest : List Char} {path : List Key} {key : Key} {item : Item}
    (h : assignment? value? text = some ((path, key, item), rest)) : item.Fits := by
  unfold assignment? at h
  split at h
  · next left hkey =>
    obtain ⟨⟨item', rest'⟩, hitem, heq⟩ := Option.map_eq_some_iff.mp h
    cases heq
    exact hvalue (skipBlanks left) item rest hitem
  · cases h

theorem fits_of_inlinePairs? {fuel : Nat} {t t' : Table} {text rest : List Char} (ht : t.Fits)
    (h : inlinePairs? value? fuel t text = some (t', rest)) : t'.Fits := by
  fun_induction inlinePairs? value? fuel t text with
  | case1 => cases h
  | case2 => cases h
  | case3 => cases h
  | case4 t text fuel path key item left hpair t₁ hinsert later hcomma ih =>
    exact ih (ht.insert? (fits_of_assignment? hvalue hpair) hinsert) h
  | case5 t text fuel path key item left hpair t₁ hinsert later hclose =>
    cases h
    exact ht.insert? (fits_of_assignment? hvalue hpair) hinsert
  | case6 => cases h

theorem fits_of_inlineTable? {t : Table} {text rest : List Char}
    (h : inlineTable? value? text = some (t, rest)) : t.Fits := by
  unfold inlineTable? at h
  split at h
  · cases h
    exact Table.fits_empty _
  · exact fits_of_inlinePairs? hvalue (Table.fits_empty _) h

end

theorem fits_of_scalarItem? {text rest : List Char} {item : Item}
    (h : (scalar? text).map (fun (v, left) => (Item.scalar ⟨text, left⟩ v, left))
      = some (item, rest)) : item.Fits := by
  obtain ⟨⟨v, left⟩, hv, heq⟩ := Option.map_eq_some_iff.mp h
  cases heq
  exact .scalar (Scalar.fits_of_scalar? hv)

theorem readsFits_value? (depth : Nat) : ReadsFits (value? depth) := by
  -- Brackets and braces are what takes a level, so the induction is on the levels left.
  induction depth with
  | zero =>
    intro text item rest h
    exact fits_of_scalarItem? h
  | succ depth ih =>
    intro text item rest h
    unfold value? at h
    split at h
    · next heq =>
      cases heq
      obtain ⟨⟨items, left⟩, hitems, heq⟩ := Option.map_eq_some_iff.mp h
      cases heq
      exact .array (fits_of_items? ih (List.forall_mem_nil _) hitems)
    · next heq =>
      cases heq
      obtain ⟨⟨t, left⟩, ht, heq⟩ := Option.map_eq_some_iff.mp h
      cases heq
      exact (fits_of_inlineTable? ih ht).toItem _
    · exact fits_of_scalarItem? h

/-! ## Documents -/

theorem fits_of_header? {text rest : List Char} {line : Line}
    (h : header? text = some (line, rest)) : line.Fits := by
  unfold header? at h
  split at h
  · split at h
    · cases h
      trivial
    · cases h
  · split at h
    · cases h
      trivial
    · cases h
  · cases h

theorem fits_of_pairLine? {text rest : List Char} {line : Line}
    (h : pairLine? text = some (line, rest)) : line.Fits := by
  obtain ⟨⟨⟨path, key, item⟩, left⟩, hpair, heq⟩ := Option.map_eq_some_iff.mp h
  cases heq
  exact fits_of_assignment? (readsFits_value? maxDepth) hpair

theorem fits_of_line? {text rest : List Char} {line : Line}
    (h : line? text = some (some line, rest)) : line.Fits := by
  unfold line? at h
  split at h
  · cases h
  · split at h
    · cases h
    · next c left hskip =>
      split at h
      · cases h
      · next found left' hfound =>
        obtain ⟨left'', hend, heq⟩ := Option.map_eq_some_iff.mp h
        cases heq
        split at hfound
        · exact fits_of_header? hfound
        · exact fits_of_pairLine? hfound

theorem fits_of_linesFrom? {fuel : Nat} {read lines : List Line} {text : List Char}
    (hread : ∀ line ∈ read, line.Fits) (h : linesFrom? fuel read text = some lines) :
    ∀ line ∈ lines, line.Fits := by
  fun_induction linesFrom? fuel read text with
  | case1 fuel read =>
    cases h
    exact fun line hline => hread line (List.mem_reverse.mp hline)
  | case2 => cases h
  | case3 => cases h
  | case4 read fuel text _ line left hline ih =>
    exact ih (List.forall_mem_cons.mpr ⟨fits_of_line? hline, hread⟩) h
  | case5 read fuel text _ left hline ih => exact ih hread h

theorem fits_of_lines? {text : List Char} {lines : List Line} (h : lines? text = some lines) :
    ∀ line ∈ lines, line.Fits := by
  unfold lines? at h
  split at h
  · exact fits_of_linesFrom? (List.forall_mem_nil _) h
  · exact fits_of_linesFrom? (List.forall_mem_nil _) h

/-- No integer of a document that is read is beyond 64 bits. -/
theorem fits_of_read? {text : List Char} {t : Table} (h : read? text = some t) : t.Fits := by
  simp only [read?, Option.bind_eq_bind, Option.bind_eq_some_iff] at h
  obtain ⟨lines, hlines, htable⟩ := h
  exact Table.fits_of_ofLines? (fits_of_lines? hlines) htable

end SymbolOutline.Toml
