import Mathlib.Data.List.Forall2
import SymbolOutline.Proofs.Outline.Lines

/-!
# The text tells the outline

Without details, and with an indent for every level, the text of an outline
can be read in one way only (`Outline.text_tells_outline`), though names may
hold blanks and look like labels and line numbers. A line is read from both
ends: the blanks it starts with give the depth, the word after them is the
label, and the last colon is the one before the line number
(`TextStyle.eq_of_content`). The tree is then given by the depths
(`Entry.lookAlike_of_preorder`).
-/

namespace SymbolOutline

/-! ## Parts of a line -/

/-- What stands before the first of its kind, and what stands after it. -/
theorem eq_of_append_cons {α : Type} {c : α} {a b u v : List α} (ha : c ∉ a) (hb : c ∉ b)
    (h : a ++ c :: u = b ++ c :: v) : a = b ∧ u = v := by
  induction a generalizing b with
  | nil =>
    cases b with
    | nil => exact ⟨rfl, (List.cons.inj h).2⟩
    | cons d b => exact absurd ((List.cons.inj h).1 ▸ List.mem_cons_self) hb
  | cons d a ih =>
    cases b with
    | nil => exact absurd ((List.cons.inj h).1 ▸ List.mem_cons_self) ha
    | cons e b =>
      obtain ⟨rfl, hrest⟩ := List.cons.inj h
      obtain ⟨rfl, huv⟩ := ih (fun hc => ha (List.mem_cons_of_mem d hc))
        (fun hc => hb (List.mem_cons_of_mem d hc)) hrest
      exact ⟨rfl, huv⟩

theorem head?_ne_of_notMem {α : Type} {c : α} {a : List α} (ha : a ≠ []) (hc : c ∉ a)
    (u : List α) : (a ++ u).head? ≠ some c := by
  intro hhead
  cases a with
  | nil => exact ha rfl
  | cons d a =>
    obtain rfl : d = c := Option.some.inj hhead
    exact hc List.mem_cons_self

/-- A text that starts with no blank, and the blanks before it. -/
theorem eq_of_blanks_append {n m : Nat} {u v : List Char} (hu : u.head? ≠ some ' ')
    (hv : v.head? ≠ some ' ') (h : List.replicate n ' ' ++ u = List.replicate m ' ' ++ v) :
    n = m ∧ u = v := by
  induction n generalizing m with
  | zero =>
    cases m with
    | zero => exact ⟨rfl, h⟩
    | succ m =>
      rw [List.replicate_zero, List.nil_append, List.replicate_succ, List.cons_append] at h
      exact absurd (by rw [h]; rfl) hu
  | succ n ih =>
    cases m with
    | zero =>
      rw [List.replicate_zero, List.nil_append, List.replicate_succ, List.cons_append] at h
      exact absurd (by rw [← h]; rfl) hv
    | succ m =>
      rw [List.replicate_succ, List.replicate_succ, List.cons_append, List.cons_append] at h
      obtain ⟨rfl, huv⟩ := ih (List.cons.inj h).2
      exact ⟨rfl, huv⟩

namespace TextStyle

/-- An entry of a built outline with a name that fits on a line. -/
structure OneLine (p : Nat × Entry) : Prop where
  label : p.2.label = p.2.kind.label
  name : '\n' ∉ p.2.name.toList

/-- Two lines that show the same. -/
structure SameLine (style : TextStyle) (p q : Nat × Entry) : Prop where
  depth : p.1 = q.1
  label : p.2.label = q.2.label
  name : p.2.name = q.2.name
  line : style.showLines → p.2.line = q.2.line

variable {style : TextStyle} {p q : Nat × Entry}

theorem eq_of_name_shownLine
    (h : p.2.name.toList ++ style.shownLine p.2 = q.2.name.toList ++ style.shownLine q.2) :
    p.2.name = q.2.name ∧ (style.showLines → p.2.line = q.2.line) := by
  unfold shownLine at h
  split at h
  · -- read from its end, the line is the digits of the number up to the colon before them
    have hcolon : ∀ e : Entry, ':' ∉ (Decimal.digits (e.line.toNat + 1)).reverse := by
      intro e hmem
      have hdigit := Decimal.isDigit_of_mem_digits (List.mem_reverse.mp hmem)
      exact absurd hdigit (by decide)
    have hreverse : (Decimal.digits (p.2.line.toNat + 1)).reverse
          ++ ':' :: ' ' :: ' ' :: p.2.name.toList.reverse
        = (Decimal.digits (q.2.line.toNat + 1)).reverse
          ++ ':' :: ' ' :: ' ' :: q.2.name.toList.reverse := by
      simpa using congrArg List.reverse h
    obtain ⟨hdigits, hrest⟩ := eq_of_append_cons (hcolon p.2) (hcolon q.2) hreverse
    have hname : p.2.name.toList.reverse = q.2.name.toList.reverse := by simpa using hrest
    have hline : p.2.line.toNat + 1 = q.2.line.toNat + 1 := by
      rw [← Decimal.value_digits (p.2.line.toNat + 1), List.reverse_injective hdigits,
        Decimal.value_digits]
    exact ⟨String.toList_inj.mp (List.reverse_injective hname),
      fun _ => UInt32.toNat_inj.mp (by omega)⟩
  · next hlines =>
    rw [List.append_nil, List.append_nil] at h
    exact ⟨String.toList_inj.mp h, fun hshown => absurd hshown hlines⟩

/-- Two lines that are the same show the same. -/
theorem eq_of_content (hindent : 1 ≤ style.indent) (hdetail : style.showDetail = false)
    (hp : OneLine p) (hq : OneLine q) (h : style.content p = style.content q) :
    style.SameLine p q := by
  have hnone : ∀ e : Entry, style.shownDetail e = [] := by
    intro e
    rw [shownDetail, hdetail]
    rfl
  obtain ⟨hword, hblank, -⟩ := p.2.kind.label_word
  obtain ⟨hword', hblank', -⟩ := q.2.kind.label_word
  rw [← hp.label] at hword hblank
  rw [← hq.label] at hword' hblank'
  simp only [content, hnone, List.append_nil, List.append_assoc, List.cons_append] at h
  obtain ⟨hwidth, hrest⟩ := eq_of_blanks_append (head?_ne_of_notMem hword hblank _)
    (head?_ne_of_notMem hword' hblank' _) h
  obtain ⟨hlabel, hrest⟩ := eq_of_append_cons hblank hblank' hrest
  obtain ⟨hname, hline⟩ := eq_of_name_shownLine hrest
  exact ⟨Nat.eq_of_mul_eq_mul_right hindent hwidth, String.toList_inj.mp hlabel, hname, hline⟩

/-- A line ends where the next one starts. -/
theorem newline_notMem_content (hdetail : style.showDetail = false) (hp : OneLine p) :
    '\n' ∉ style.content p := by
  have hgiven : '\n' ∉ style.given p.2 := by
    rw [given, shownDetail, hdetail, if_neg Bool.false_ne_true, List.append_nil, List.mem_append,
      hp.label]
    exact not_or.mpr ⟨p.2.kind.label_word.2.2, hp.name⟩
  rw [← List.count_eq_zero, count_content, List.count_eq_zero]
  exact hgiven

/-- Lines that make up one text show the same, one by one. -/
theorem forall₂_sameLine (hindent : 1 ≤ style.indent) (hdetail : style.showDetail = false)
    {l l' : List (Nat × Entry)} (hl : ∀ p ∈ l, OneLine p) (hl' : ∀ p ∈ l', OneLine p)
    (h : (l.flatMap fun p => style.content p ++ ['\n'])
      = l'.flatMap fun p => style.content p ++ ['\n']) :
    List.Forall₂ style.SameLine l l' := by
  induction l generalizing l' with
  | nil =>
    cases l' with
    | nil => exact .nil
    | cons q l' => simp at h
  | cons p l ih =>
    cases l' with
    | nil => simp at h
    | cons q l' =>
      obtain ⟨hp, hl⟩ := List.forall_mem_cons.mp hl
      obtain ⟨hq, hl'⟩ := List.forall_mem_cons.mp hl'
      rw [List.flatMap_cons, List.flatMap_cons, List.append_assoc, List.append_assoc] at h
      obtain ⟨hcontent, hrest⟩ := eq_of_append_cons (newline_notMem_content hdetail hp)
        (newline_notMem_content hdetail hq) h
      exact .cons (eq_of_content hindent hdetail hp hq hcontent) (ih hl hl' hrest)

end TextStyle

/-! ## The tree from the depths -/

namespace Entry

/-- Two forests of one shape in which entries at the same place show the same. -/
inductive LookAlike (showLines : Bool) : List Entry → List Entry → Prop where
  | nil : LookAlike showLines [] []
  | cons {e e' : Entry} {rest rest' : List Entry} :
      e.label = e'.label → e.name = e'.name → (showLines → e.line = e'.line) →
      LookAlike showLines e.children e'.children → LookAlike showLines rest rest' →
      LookAlike showLines (e :: rest) (e' :: rest')

theorem le_depth_of_mem {p : Nat × Entry} {depth : Nat} {entries : List Entry}
    (h : p ∈ preorderAll depth entries) : depth ≤ p.1 := by
  induction entries using forest_induction generalizing depth with
  | nil => cases h
  | cons e rest ihc ihr =>
    rw [preorderAll_cons] at h
    rcases List.mem_cons.mp h with rfl | h
    · exact Nat.le_refl _
    · rcases List.mem_append.mp h with h | h
      · exact Nat.le_of_succ_le (ihc h)
      · exact ihr h

/-- The first entry of siblings is at their depth. -/
theorem depth_of_head? {p : Nat × Entry} {depth : Nat} {entries : List Entry}
    (h : (preorderAll depth entries).head? = some p) : p.1 = depth := by
  cases entries with
  | nil => cases h
  | cons e rest =>
    rw [preorderAll_cons] at h
    rw [← Option.some.inj h]

/-- What is below an entry ends where the depth is that of the entry again. -/
theorem forall₂_split {R : Nat × Entry → Nat × Entry → Prop} (hR : ∀ p q, R p q → p.1 = q.1)
    {depth : Nat} {below below' after after' : List (Nat × Entry)}
    (hbelow : ∀ p ∈ below, depth < p.1) (hbelow' : ∀ p ∈ below', depth < p.1)
    (hafter : ∀ p ∈ after.head?, p.1 ≤ depth) (hafter' : ∀ p ∈ after'.head?, p.1 ≤ depth)
    (h : List.Forall₂ R (below ++ after) (below' ++ after')) :
    List.Forall₂ R below below' ∧ List.Forall₂ R after after' := by
  induction below generalizing below' with
  | nil =>
    cases below' with
    | nil => exact ⟨.nil, h⟩
    | cons q below' =>
      cases h with
      | @cons p _ later _ hpq _ =>
        have hle := hafter p rfl
        have hlt := hbelow' q List.mem_cons_self
        have heq := hR p q hpq
        omega
  | cons p below ih =>
    obtain ⟨hp, hbelow⟩ := List.forall_mem_cons.mp hbelow
    cases below' with
    | nil =>
      cases h with
      | @cons _ q _ later hpq _ =>
        have hle := hafter' q rfl
        have heq := hR p q hpq
        omega
    | cons q below' =>
      cases h with
      | cons hpq hrest =>
        obtain ⟨hfirst, hlast⟩ := ih hbelow (List.forall_mem_cons.mp hbelow').2 hrest
        exact ⟨.cons hpq hfirst, hlast⟩

theorem lookAlike_of_preorder {style : TextStyle} {depth : Nat} {entries entries' : List Entry}
    (h : List.Forall₂ style.SameLine (preorderAll depth entries) (preorderAll depth entries')) :
    LookAlike style.showLines entries entries' := by
  induction entries using forest_induction generalizing depth entries' with
  | nil =>
    cases entries' with
    | nil => exact .nil
    | cons e' rest' =>
      rw [preorderAll_cons] at h
      cases h
  | cons e rest ihc ihr =>
    cases entries' with
    | nil =>
      rw [preorderAll_cons] at h
      cases h
    | cons e' rest' =>
      rw [preorderAll_cons, preorderAll_cons] at h
      cases h with
      | cons hline hrest =>
        obtain ⟨hchildren, hlater⟩ := forall₂_split (fun _ _ hsame => hsame.depth)
          (fun p hp => le_depth_of_mem hp) (fun p hp => le_depth_of_mem hp)
          (fun p hp => Nat.le_of_eq (depth_of_head? hp))
          (fun p hp => Nat.le_of_eq (depth_of_head? hp)) hrest
        exact .cons hline.label hline.name hline.line (ihc hchildren) (ihr hlater)

end Entry

namespace Outline

variable {style : TextStyle} {options options' : BuildOptions} {log log' : Log}
  {symbols symbols' : List Symbol} {text : String}

theorem oneLine_of_build
    (hnames : ∀ p ∈ (build options log symbols).1.preorder, '\n' ∉ p.2.name.toList) :
    ∀ p ∈ (build options log symbols).1.preorder, TextStyle.OneLine p := by
  intro p hp
  refine ⟨?_, hnames p hp⟩
  rw [build_eq] at hp
  exact Entry.label_of_mem_ofLevel hp

/-- Two outlines with one text have the same shape, and the entries at the same
place have the same label and name, and the same line where lines are shown. -/
theorem text_tells_outline (hindent : 1 ≤ style.indent) (hdetail : style.showDetail = false)
    (hnames : ∀ p ∈ (build options log symbols).1.preorder, '\n' ∉ p.2.name.toList)
    (hnames' : ∀ p ∈ (build options' log' symbols').1.preorder, '\n' ∉ p.2.name.toList)
    (h : (build options log symbols).1.render style = .ok text)
    (h' : (build options' log' symbols').1.render style = .ok text) :
    (build options log symbols).1.count = (build options' log' symbols').1.count
      ∧ Entry.LookAlike style.showLines (build options log symbols).1.entries
          (build options' log' symbols').1.entries := by
  have hlines : List.Forall₂ style.SameLine (build options log symbols).1.preorder
      (build options' log' symbols').1.preorder := by
    refine TextStyle.forall₂_sameLine hindent hdetail (oneLine_of_build hnames)
      (oneLine_of_build hnames') ?_
    rw [← toList_of_render h, ← toList_of_render h']
  refine ⟨?_, Entry.lookAlike_of_preorder hlines⟩
  rw [← length_preorder, ← length_preorder]
  exact hlines.length_eq

/-- A tree of two unnamed kinds. Its names have blanks and end like a line. -/
def unnamed (kind kind' : SymbolKind) : List Symbol :=
  [.plain kind "a  :12" [.plain kind' " Class b " []]]

/-- All unnamed kinds have one label. -/
theorem text_tells_unnamed :
    ∃ text, (build ⟨false, none⟩ #[] (unnamed ⟨99⟩ ⟨27⟩)).1.render ⟨1, true, false⟩ = .ok text
      ∧ (build ⟨false, none⟩ #[] (unnamed ⟨-5⟩ ⟨0⟩)).1.render ⟨1, true, false⟩ = .ok text
      ∧ text = "Unknown a  :12  :1\n Unknown  Class b   :1\n"
      ∧ Entry.LookAlike true (build ⟨false, none⟩ #[] (unnamed ⟨99⟩ ⟨27⟩)).1.entries
          (build ⟨false, none⟩ #[] (unnamed ⟨-5⟩ ⟨0⟩)).1.entries := by
  have h : (build ⟨false, none⟩ #[] (unnamed ⟨99⟩ ⟨27⟩)).1.render ⟨1, true, false⟩
      = .ok "Unknown a  :12  :1\n Unknown  Class b   :1\n" :=
    render_of_toOption (by decide +kernel)
  have h' : (build ⟨false, none⟩ #[] (unnamed ⟨-5⟩ ⟨0⟩)).1.render ⟨1, true, false⟩
      = .ok "Unknown a  :12  :1\n Unknown  Class b   :1\n" :=
    render_of_toOption (by decide +kernel)
  exact ⟨_, h, h', rfl,
    (text_tells_outline (by decide) rfl (by decide +kernel) (by decide +kernel) h h').2⟩

end Outline

end SymbolOutline
