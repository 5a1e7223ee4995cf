import SymbolOutline.Proofs.Settings.Toml
import SymbolOutline.Proofs.Toml.Integers

/-!
# Settings survive a document

Settings that can be written are read back from their document, and from any
lines of it in which each field keeps its header: these fields have their
values, the others their defaults. Whatever document settings are read from,
they can be written, because its integers have 64 bits (`isWritable_of_ofToml`).
-/

namespace SymbolOutline.Settings

open Toml (Item Key Span)

/-! ## What is read can be written -/

theorem count_le {span : Span} {item : Item} {n : Nat} (hitem : item.Fits)
    (h : count span item = .ok n) : n ≤ maxCount := by
  unfold count at h
  split at h
  · next i =>
    cases hitem with
    | scalar hfits =>
      split at h
      · cases h
      · cases h
        have hlt : i < Int.pow 2 63 := of_decide_eq_true (Bool.and_eq_true_iff.mp hfits).2
        have hpow : Int.pow 2 63 = (Nat.pow 2 63 : Nat) := by decide
        have hpos : 0 < Nat.pow 2 63 := by decide
        unfold maxCount
        omega
  · cases h

theorem exists_of_map_ok {α β ε : Type} {x : Except ε α} {f : α → β} {b : β}
    (h : x.map f = .ok b) : ∃ a, x = .ok a ∧ f a = b := by
  cases x with
  | error e => cases h
  | ok a => exact ⟨a, rfl, Except.ok.inj h⟩

theorem IsWritable.set {s s' : Settings} {field : Field} {span : Span} {item : Item}
    (hs : s.IsWritable) (hitem : item.Fits) (h : s.set field span item = .ok s') :
    s'.IsWritable := by
  unfold Settings.set at h
  cases field with
  | sort | showLines | showDetail =>
    obtain ⟨b, -, rfl⟩ := exists_of_map_ok h
    exact hs
  | maxDepth =>
    obtain ⟨n, hn, rfl⟩ := exists_of_map_ok h
    refine ⟨?_, hs.2⟩
    rintro limit ⟨⟩
    exact count_le hitem hn
  | indent =>
    obtain ⟨n, hn, rfl⟩ := exists_of_map_ok h
    exact ⟨hs.1, count_le hitem hn⟩

/-- Steps that leave settings writable do so one after the other. -/
theorem IsWritable.foldlM {α : Type} {P : α → Prop}
    {step : Settings → α → Except TomlError Settings}
    (hstep : ∀ s a s', s.IsWritable → P a → step s a = .ok s' → s'.IsWritable) {l : List α}
    (hl : ∀ a ∈ l, P a) {s s' : Settings} (hs : s.IsWritable) (h : l.foldlM step s = .ok s') :
    s'.IsWritable := by
  induction l generalizing s with
  | nil =>
    cases h
    exact hs
  | cons a l ih =>
    obtain ⟨ha, hl⟩ := List.forall_mem_cons.mp hl
    rw [List.foldlM_cons] at h
    cases hnext : step s a with
    | error e =>
      rw [hnext] at h
      cases h
    | ok next =>
      rw [hnext] at h
      exact ih hl (hstep s a next hs ha hnext) h

/-- Fields taken from values in order. -/
theorem IsWritable.setInOrder {fields : List Field} {items : List Item} {s s' : Settings}
    {span : Span} (hs : s.IsWritable) (hitems : ∀ item ∈ items, item.Fits)
    (h : (fields.zip items).foldlM (fun s p => s.set p.1 (p.2.span?.getD span) p.2) s = .ok s') :
    s'.IsWritable := by
  have hfits : ∀ p ∈ fields.zip items, p.2.Fits := by
    rintro ⟨field, item⟩ hp
    exact hitems item (List.of_mem_zip hp).2
  refine hs.foldlM ?_ hfits h
  rintro s ⟨field, item⟩ s' hs hitem h
  exact hs.set hitem h

theorem IsWritable.readSection {sec : Section} {s s' : Settings} {span : Span} {item : Item}
    (hs : s.IsWritable) (hitem : item.Fits) (h : readSection sec s span item = .ok s') :
    s'.IsWritable := by
  unfold Settings.readSection at h
  split at h
  · cases hitem with
    | table hentries =>
      refine hs.foldlM ?_ hentries h
      rintro s ⟨key, item⟩ s' hs hitem h
      simp only at h
      split at h
      · exact hs.set hitem h
      · cases h
        exact hs
  · cases hitem with
    | array hitems => exact hs.setInOrder hitems h
  · cases hitem with
    | tables hitems => exact hs.setInOrder hitems h
  · cases h
    exact hs
  · cases h

theorem isWritable_of_ofToml {text : List Char} {s : Settings} (h : ofToml text = .ok s) :
    s.IsWritable := by
  unfold ofToml at h
  split at h
  · cases h
  · next t hread =>
    have hdefault : ({} : Settings).IsWritable := by decide
    refine hdefault.foldlM ?_ (Toml.fits_of_read? hread) h
    rintro s ⟨key, item⟩ s' hs hitem h
    simp only at h
    split at h
    · exact hs.readSection hitem h
    · cases h
      exact hs

/-! ## The round trip -/

/-- Both have the same value in a field. -/
def AgreeOn (s s' : Settings) : Field → Prop
  | .sort => s.outline.sort = s'.outline.sort
  | .maxDepth => s.outline.maxDepth = s'.outline.maxDepth
  | .indent => s.render.indent = s'.render.indent
  | .showLines => s.render.showLines = s'.render.showLines
  | .showDetail => s.render.showDetail = s'.render.showDetail

theorem eq_of_agreeOn {s s' : Settings} (h : ∀ field, s.AgreeOn s' field) : s = s' := by
  obtain ⟨⟨sort, maxDepth⟩, ⟨indent, showLines, showDetail⟩⟩ := s
  obtain rfl : sort = _ := h .sort
  obtain rfl : maxDepth = _ := h .maxDepth
  obtain rfl : indent = _ := h .indent
  obtain rfl : showLines = _ := h .showLines
  obtain rfl : showDetail = _ := h .showDetail
  rfl

theorem agreeOn_keeping (s : Settings) (keep : Field → Bool) (field : Field) :
    (s.keeping keep).AgreeOn (if keep field then s else {}) field := by
  cases hkeep : keep field with
  | true => cases field <;> simp [AgreeOn, keeping, hkeep]
  | false => cases field <;> simp [AgreeOn, keeping, hkeep]

theorem toToml?_of_isWritable {s : Settings} (hs : s.IsWritable) :
    s.toToml? = some (s.tomlOf fun _ => true) := if_pos hs

theorem tomlOf_all (s : Settings) :
    s.tomlOf (fun _ => true) = s.docLines.flatMap s.lineText := by
  have hall : ∀ line ∈ s.docLines, DocLine.hasField (fun _ => true) line = true := by
    intro line _
    cases line <;> rfl
  rw [tomlOf_eq, List.filter_eq_self.mpr hall]

/-- Settings that can be written are read back from their document; from lines
of it they are read with the values of the fields that are left, and defaults
for the others. Settings that were read from any document can be written. -/
theorem document_keeps_settings :
    (∀ s : Settings, s.IsWritable → ∃ text, s.toToml? = some text
      ∧ text = s.docLines.flatMap s.lineText ∧ ofToml text = .ok s
      ∧ ∀ kept, s.KeepsHeaders kept →
        ∃ s', ofToml ((s.docLines.filter kept).flatMap s.lineText) = .ok s'
          ∧ ∀ field, s'.AgreeOn (if kept (.field field) then s else {}) field)
    ∧ ∀ text s, ofToml text = .ok s →
      ∃ written, s.toToml? = some written ∧ ofToml written = .ok s := by
  constructor
  · intro s hs
    refine ⟨_, toToml?_of_isWritable hs, tomlOf_all s, ofToml_tomlOf_all hs, ?_⟩
    intro kept hkept
    exact ⟨_, ofToml_filter_docLines hs hkept, agreeOn_keeping s fun field => kept (.field field)⟩
  · intro text s h
    have hs := isWritable_of_ofToml h
    exact ⟨_, toToml?_of_isWritable hs, ofToml_tomlOf_all hs⟩

/-- Settings with the greatest counts, and no field at its default. -/
def greatest : Settings := ⟨⟨false, some maxCount⟩, ⟨maxCount, false, true⟩⟩

/-- The whole document of such settings, and what is left of it with one header
and one field; and settings from a list and from a dotted name. -/
theorem document_keeps_greatest :
    (∃ text, greatest.toToml? = some text ∧ ofToml text = .ok greatest)
    ∧ ofToml "[render]\nindent = 9223372036854775807\n".toList
        = .ok { render := { indent := maxCount } }
    ∧ ofToml "outline = [false, 3]\nrender.indent = 0x10".toList
        = .ok ⟨⟨false, some 3⟩, { indent := 16 }⟩
    ∧ ∃ written, (⟨⟨false, some 3⟩, { indent := 16 }⟩ : Settings).toToml? = some written
      ∧ ofToml written = .ok ⟨⟨false, some 3⟩, { indent := 16 }⟩ := by
  obtain ⟨text, hwritten, -, hback, hlines⟩ := document_keeps_settings.1 greatest (by decide)
  have hheaders : greatest.KeepsHeaders fun line => line ∈ [.header .render, .field .indent] := by
    intro sec f hf hline hkept
    cases sec with
    | outline => cases f <;> first | exact absurd hf (by decide) | exact absurd hkept (by decide)
    | render => rfl
  obtain ⟨s', hread, hagree⟩ := hlines _ hheaders
  have heq : s' = { render := { indent := maxCount } } := by
    apply eq_of_agreeOn
    intro field
    have h := hagree field
    cases field <;> exact h
  have htext : (greatest.docLines.filter fun line =>
      line ∈ [.header .render, .field .indent]).flatMap greatest.lineText
      = "[render]\nindent = 9223372036854775807\n".toList := by decide +kernel
  rw [heq, htext] at hread
  have hother : ofToml "outline = [false, 3]\nrender.indent = 0x10".toList
      = .ok ⟨⟨false, some 3⟩, { indent := 16 }⟩ := by decide +kernel
  exact ⟨⟨text, hwritten, hback⟩, hread, hother, document_keeps_settings.2 _ _ hother⟩

end SymbolOutline.Settings
