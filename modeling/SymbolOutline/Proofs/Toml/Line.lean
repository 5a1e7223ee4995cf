import Mathlib.Data.List.Forall2
import SymbolOutline.Toml.Reader

/-!
# Plain lines of TOML

A `Plain` line is blank, a header with one bare name, or a pair of a bare name
and a scalar. Such lines are read one by one, each up to its newline
(`line?_header`, `line?_pair`), so a text of them is read as what they stand
for, whatever blank lines are in between (`lines?_plain`). Where the lines
stood is left open: only reports of errors show it.
-/

namespace SymbolOutline.Toml

/-! ## Lines and what they stand for -/

/-- A bare name with a value: how the value is written, and what it is. -/
structure PlainPair where
  name : String
  text : List Char
  value : Scalar

inductive Plain where
  | blank
  | header (name : String)
  | pair (p : PlainPair)

/-- A name that is a key without quotes. -/
def IsBareName (name : String) : Prop := name.toList ≠ [] ∧ ∀ c ∈ name.toList, isBare c = true

/-- The text is read as the scalar up to the end of its line, and starts with
nothing that could be left out or that opens an array or a table. -/
structure WritesScalar (text : List Char) (value : Scalar) : Prop where
  start : ∃ c rest, text = c :: rest ∧ isBlank c = false ∧ c ≠ '[' ∧ c ≠ '\x7b'
  scalar : ∀ rest, scalar? (text ++ '\n' :: rest) = some (value, '\n' :: rest)

namespace Plain

def isBlank : Plain → Bool
  | blank => true
  | header _ | pair _ => false

/-- The text of a line, with its newline. -/
def text : Plain → List Char
  | blank => ['\n']
  | header name => '[' :: (name.toList ++ ']' :: ['\n'])
  | pair p => p.name.toList ++ ' ' :: '=' :: ' ' :: (p.text ++ ['\n'])

def WellFormed : Plain → Prop
  | blank => True
  | header name => IsBareName name
  | pair p => IsBareName p.name ∧ WritesScalar p.text p.value

/-- What a line stands for, wherever it stood. -/
inductive Gives : Plain → Line → Prop where
  | header {name : String} (span keySpan : Span) :
      Gives (header name) (.header span [] ⟨name, keySpan⟩ false)
  | pair {p : PlainPair} (keySpan span : Span) :
      Gives (pair p) (.pair [] ⟨p.name, keySpan⟩ (.scalar span p.value))

end Plain

/-! ## Keys -/

theorem skipBlanks_cons {c : Char} (hc : isBlank c = false) (rest : List Char) :
    skipBlanks (c :: rest) = c :: rest := by
  rw [skipBlanks, List.dropWhile_cons_of_neg]
  simp [hc]

theorem isBlank_of_isBare {c : Char} (hc : isBare c = true) : isBlank c = false := by
  unfold isBlank
  by_cases hspace : c = ' '
  · subst hspace
    exact absurd hc (by decide)
  · by_cases htab : c = '\t'
    · subst htab
      exact absurd hc (by decide)
    · simp [hspace, htab]

theorem IsBareName.eq_cons {name : String} (h : IsBareName name) :
    ∃ c rest, name.toList = c :: rest ∧ isBare c = true := by
  obtain ⟨hne, hall⟩ := h
  cases hname : name.toList with
  | nil => exact absurd hname hne
  | cons c rest => exact ⟨c, rest, rfl, hall c (by rw [hname]; exact List.mem_cons_self)⟩

section

variable {name : String} (hname : IsBareName name) {c : Char} (hc : isBare c = false)
  (rest : List Char)

include hname hc

theorem keyPart?_bare :
    keyPart? (name.toList ++ c :: rest)
      = some (⟨name, name.toList ++ c :: rest, c :: rest⟩, c :: rest) := by
  have htake : (name.toList ++ c :: rest).takeWhile isBare = name.toList := by
    rw [List.takeWhile_append_of_pos hname.2, List.takeWhile_cons_of_neg (by simp [hc]),
      List.append_nil]
  have hdrop : (name.toList ++ c :: rest).dropWhile isBare = c :: rest := by
    rw [List.dropWhile_append_of_pos hname.2, List.dropWhile_cons_of_neg (by simp [hc])]
  obtain ⟨d, later, heq, hd⟩ := hname.eq_cons
  have hofList : String.ofList (d :: later) = name := by rw [← heq, String.ofList_toList]
  have hquote : ∀ q left, isBare q = false → name.toList ++ c :: rest ≠ q :: left := by
    intro q left hq h
    rw [heq, List.cons_append] at h
    rw [(List.cons.inj h).1, hq] at hd
    cases hd
  rw [keyPart?]
  · rw [htake, hdrop, heq]
    simp only [hofList, Option.map_some]
  · exact fun left h => hquote '"' left (by decide) h
  · exact fun left h => hquote '\'' left (by decide) h

theorem key?_bare (hdot : ∀ left, skipBlanks (c :: rest) ≠ '.' :: left) :
    ∃ span, key? (name.toList ++ c :: rest)
      = some (([], ⟨name, span⟩), skipBlanks (c :: rest)) := by
  refine ⟨⟨name.toList ++ c :: rest, c :: rest⟩, ?_⟩
  have hstart : skipBlanks (name.toList ++ c :: rest) = name.toList ++ c :: rest := by
    obtain ⟨d, later, heq, hd⟩ := hname.eq_cons
    rw [heq, List.cons_append, skipBlanks_cons (isBlank_of_isBare hd)]
  show keyFrom? (78 + 1) [] (name.toList ++ c :: rest) = _
  rw [keyFrom?, hstart, keyPart?_bare hname hc]
  simp only
  rfl

end

/-! ## Lines -/

theorem lineEnd?_of_ne {c : Char} (hblank : isBlank c = false) (hcomment : c ≠ '#')
    (hnewline : c ≠ '\n') (hreturn : c ≠ '\r') (rest : List Char) :
    lineEnd? (c :: rest) = none := by
  have hskip : skipComment (c :: rest) = c :: rest := by
    rw [skipComment]
    rintro later h
    exact hcomment (List.cons.inj h).1
  rw [lineEnd?, skipBlanks_cons hblank, hskip]
  show newline? (c :: rest) = none
  rw [newline?]
  · rintro later h
    exact hnewline (List.cons.inj h).1
  · rintro later h
    exact hreturn (List.cons.inj h).1

theorem line?_blank (rest : List Char) : line? ('\n' :: rest) = some (none, rest) := rfl

theorem line?_header {name : String} (hname : IsBareName name) (rest : List Char) :
    ∃ line, Plain.Gives (.header name) line
      ∧ line? (Plain.text (.header name) ++ rest) = some (some line, rest) := by
  obtain ⟨span, hkey⟩ := key?_bare hname (c := ']') (by decide) ('\n' :: rest) (by
    rintro left h
    cases h)
  have htext : Plain.text (.header name) ++ rest = '[' :: (name.toList ++ ']' :: '\n' :: rest) := by
    simp [Plain.text]
  have hend := lineEnd?_of_ne (c := '[') (by decide) (by decide) (by decide) (by decide)
    (name.toList ++ ']' :: '\n' :: rest)
  obtain ⟨d, later, heq, hd⟩ := hname.eq_cons
  have hheader : ∃ headerSpan, header? ('[' :: (name.toList ++ ']' :: '\n' :: rest))
      = some (.header headerSpan [] ⟨name, span⟩ false, '\n' :: rest) := by
    refine ⟨⟨'[' :: (name.toList ++ ']' :: '\n' :: rest), '\n' :: rest⟩, ?_⟩
    rw [header?]
    · rw [hkey]
      rfl
    · intro left h
      rw [heq, List.cons_append] at h
      rw [(List.cons.inj h).1] at hd
      exact absurd hd (by decide)
  obtain ⟨headerSpan, hheader⟩ := hheader
  refine ⟨_, .header headerSpan span, ?_⟩
  rw [htext, line?, hend]
  simp only [skipBlanks_cons (c := '[') (by decide), if_true, hheader]
  rfl

theorem assignment?_pair {p : PlainPair} (hname : IsBareName p.name)
    (hvalue : WritesScalar p.text p.value) (rest : List Char) :
    ∃ keySpan span, assignment? (value? maxDepth) (Plain.text (.pair p) ++ rest)
      = some (([], ⟨p.name, keySpan⟩, .scalar span p.value), '\n' :: rest) := by
  obtain ⟨c, later, htext, hblank, hlist, htable⟩ := hvalue.start
  have hscalar := hvalue.scalar rest
  obtain ⟨keySpan, hkey⟩ := key?_bare hname (c := ' ') (by decide)
    ('=' :: ' ' :: (p.text ++ '\n' :: rest)) (by
      rintro left h
      cases h)
  have hskip : skipBlanks (' ' :: (p.text ++ '\n' :: rest)) = p.text ++ '\n' :: rest := by
    show skipBlanks (p.text ++ '\n' :: rest) = _
    rw [htext, List.cons_append, skipBlanks_cons hblank]
  have hread : value? maxDepth (p.text ++ '\n' :: rest)
      = some (.scalar ⟨p.text ++ '\n' :: rest, '\n' :: rest⟩ p.value, '\n' :: rest) := by
    rw [value?, hscalar]
    · rfl
    · rintro depth left - h
      rw [htext] at h
      exact hlist (List.cons.inj h).1
    · rintro depth left - h
      rw [htext] at h
      exact htable (List.cons.inj h).1
  refine ⟨keySpan, ⟨p.text ++ '\n' :: rest, '\n' :: rest⟩, ?_⟩
  have hline : Plain.text (.pair p) ++ rest
      = p.name.toList ++ ' ' :: '=' :: ' ' :: (p.text ++ '\n' :: rest) := by
    simp [Plain.text]
  have hequals : skipBlanks (' ' :: '=' :: ' ' :: (p.text ++ '\n' :: rest))
      = '=' :: ' ' :: (p.text ++ '\n' :: rest) := rfl
  rw [hline, assignment?, hkey, hequals]
  simp only [hskip, hread, Option.map_some]

theorem line?_pair {p : PlainPair} (hname : IsBareName p.name)
    (hvalue : WritesScalar p.text p.value) (rest : List Char) :
    ∃ line, Plain.Gives (.pair p) line
      ∧ line? (Plain.text (.pair p) ++ rest) = some (some line, rest) := by
  obtain ⟨keySpan, span, hassignment⟩ := assignment?_pair hname hvalue rest
  refine ⟨_, .pair keySpan span, ?_⟩
  obtain ⟨d, later, heq, hd⟩ := hname.eq_cons
  have hline : Plain.text (.pair p) ++ rest
      = d :: (later ++ ' ' :: '=' :: ' ' :: (p.text ++ '\n' :: rest)) := by
    simp [Plain.text, heq]
  have hne : ∀ c, isBare c = false → d ≠ c := by
    rintro c hc rfl
    rw [hd] at hc
    cases hc
  have hblank := isBlank_of_isBare hd
  rw [hline] at hassignment ⊢
  rw [line?, lineEnd?_of_ne hblank (hne '#' (by decide)) (hne '\n' (by decide))
    (hne '\r' (by decide)), skipBlanks_cons hblank]
  simp only [if_neg (hne '[' (by decide)), pairLine?, hassignment]
  rfl

/-! ## Texts of plain lines -/

theorem line?_plain {l : Plain} (hl : l.WellFormed) (rest : List Char) :
    ∃ line, line? (l.text ++ rest) = some (line, rest)
      ∧ (l.isBlank = true ∧ line = none
        ∨ l.isBlank = false ∧ ∃ given, line = some given ∧ Plain.Gives l given) := by
  cases l with
  | blank => exact ⟨none, line?_blank rest, .inl ⟨rfl, rfl⟩⟩
  | header name =>
    obtain ⟨line, hgives, hline⟩ := line?_header hl rest
    exact ⟨some line, hline, .inr ⟨rfl, line, rfl, hgives⟩⟩
  | pair p =>
    obtain ⟨line, hgives, hline⟩ := line?_pair hl.1 hl.2 rest
    exact ⟨some line, hline, .inr ⟨rfl, line, rfl, hgives⟩⟩

theorem Plain.text_ne_nil (l : Plain) : l.text ≠ [] := by
  cases l <;> simp [Plain.text]

/-- No plain line starts with a byte order mark. -/
theorem Plain.text_ne_mark {l : Plain} (hl : l.WellFormed) (rest left : List Char) :
    l.text ++ rest ≠ '\ufeff' :: left := by
  cases l with
  | blank =>
    intro h
    exact absurd (List.cons.inj h).1 (by decide)
  | header name =>
    intro h
    exact absurd (List.cons.inj h).1 (by decide)
  | pair p =>
    obtain ⟨d, later, heq, hd⟩ := hl.1.eq_cons
    intro h
    rw [Plain.text, heq] at h
    rw [(List.cons.inj h).1] at hd
    exact absurd hd (by decide)

theorem linesFrom?_plain {plain : List Plain} (hplain : ∀ l ∈ plain, l.WellFormed) (fuel : Nat)
    (hfuel : (plain.flatMap Plain.text).length ≤ fuel) (read : List Line) :
    ∃ lines, linesFrom? fuel read (plain.flatMap Plain.text) = some (read.reverse ++ lines)
      ∧ List.Forall₂ Plain.Gives (plain.filter (! ·.isBlank)) lines := by
  induction plain generalizing fuel read with
  | nil =>
    refine ⟨[], ?_, .nil⟩
    rw [List.flatMap_nil, linesFrom?, List.append_nil]
  | cons l plain ih =>
    obtain ⟨line, hline, hgives⟩ := line?_plain (hplain l List.mem_cons_self)
      (plain.flatMap Plain.text)
    have hrest : ∀ l' ∈ plain, l'.WellFormed := fun l' hl' => hplain l' (List.mem_cons_of_mem l hl')
    have hpos := List.length_pos_iff.mpr l.text_ne_nil
    rw [List.flatMap_cons, List.length_append] at hfuel
    -- A line has at least its newline, so there is fuel for it.
    obtain ⟨fuel, rfl⟩ : ∃ k, fuel = k + 1 := ⟨fuel - 1, by omega⟩
    have hstep : l.text ++ plain.flatMap Plain.text ≠ [] := by
      intro h
      exact l.text_ne_nil (List.append_eq_nil_iff.mp h).1
    rcases hgives with ⟨hblank, rfl⟩ | ⟨hblank, given, rfl, hgiven⟩
    · obtain ⟨lines, hlines, hall⟩ := ih hrest fuel (by omega) read
      refine ⟨lines, ?_, ?_⟩
      · rw [List.flatMap_cons, linesFrom?, hline]
        · exact hlines
        · exact hstep
      · rw [List.filter_cons_of_neg (by simp [hblank])]
        exact hall
    · obtain ⟨lines, hlines, hall⟩ := ih hrest fuel (by omega) (given :: read)
      refine ⟨given :: lines, ?_, ?_⟩
      · rw [List.flatMap_cons, linesFrom?, hline]
        · simp only [hlines, List.reverse_cons, List.append_assoc, List.singleton_append]
        · exact hstep
      · rw [List.filter_cons_of_pos (by simp [hblank])]
        exact .cons hgiven hall

/-- A text of plain lines is read as what those stand for that are not blank. -/
theorem lines?_plain {plain : List Plain} (hplain : ∀ l ∈ plain, l.WellFormed) :
    ∃ lines, lines? (plain.flatMap Plain.text) = some lines
      ∧ List.Forall₂ Plain.Gives (plain.filter (! ·.isBlank)) lines := by
  obtain ⟨lines, hlines, hall⟩ := linesFrom?_plain hplain (plain.flatMap Plain.text).length
    (Nat.le_refl _) []
  refine ⟨lines, ?_, hall⟩
  rw [lines?]
  · exact hlines
  · intro left h
    cases plain with
    | nil => cases h
    | cons l plain => exact Plain.text_ne_mark (hplain l List.mem_cons_self) _ left h

end SymbolOutline.Toml
