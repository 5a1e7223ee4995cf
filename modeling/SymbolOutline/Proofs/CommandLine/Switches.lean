import SymbolOutline.Proofs.CommandLine.Requests

/-!
# The switches for order and depth

What the switches `--no-sort` and `--max-depth` ask for is kept apart from the
rest of a request: no other argument sets or looks at it (`Draft.add_cases`).
So arguments that ask for an outline without them still do so after them, and
for the same but for the order and the depth (`ofArguments_switches`).
-/

namespace SymbolOutline.CommandLine

/-- The switches for the order and the depth, in front of other arguments. -/
def switches (noSort : Bool) (limit : Option Nat) : List String :=
  (if noSort then ["--no-sort"] else [])
    ++ match limit with
      | none => []
      | some n => ["--max-depth", String.ofList (Decimal.digits n)]

/-! ## Values -/

theorem count?_digits {n : Nat} (h : n < Nat.pow 2 64) :
    count? (String.ofList (Decimal.digits n)) = some n := by
  have hall : (Decimal.digits n).all Decimal.isDigit = true := by
    rw [List.all_eq_true]
    exact fun c hc => Decimal.isDigit_of_mem_digits hc
  have hvalue := Decimal.value_digits n
  obtain ⟨d, ds, hdigits, hd, -⟩ := Decimal.digits_eq_cons n
  rw [hdigits] at hall hvalue ⊢
  have hplus : ∀ rest, d :: ds ≠ '+' :: rest := by
    intro rest h
    rw [(List.cons.inj h).1] at hd
    exact absurd hd (by decide)
  rw [count?, String.toList_ofList]
  split
  · next rest hcons => exact absurd hcons (hplus rest)
  · rw [if_pos ⟨List.cons_ne_nil d ds, hall, by rw [hvalue]; exact h⟩, hvalue]

namespace Draft

/-- The draft with other wishes for order and depth. -/
def changed (d : Draft) (noSort : Bool) (limit : Option Nat) : Draft :=
  { d with noSort := noSort, maxDepth := limit }

/-- A token asks for the order, asks for a depth, or has nothing to do with both. -/
theorem add_cases {d d' : Draft} {token : Token} (h : d.add .outline token = .ok d') :
    d' = { d with noSort := true } ∨ (∃ n, d' = { d with maxDepth := some n })
      ∨ ∀ noSort limit,
        (d.changed noSort limit).add .outline token = .ok (d'.changed noSort limit) := by
  rcases add_ok_iff.mp h with ⟨path, rfl, hne, hnone, rfl⟩ | ⟨-, -, rfl⟩
    | ⟨value, rfl, format, hread, hnone, rfl⟩ | ⟨value, rfl, path, hread, hnone, rfl⟩
    | ⟨-, -, n, -, -, rfl⟩
  · refine .inr (.inr fun _ _ => add_ok_iff.mpr (.inl ?_))
    exact ⟨path, rfl, hne, hnone, rfl⟩
  · exact .inl rfl
  · refine .inr (.inr fun _ _ => add_ok_iff.mpr (.inr (.inr (.inl ?_))))
    exact ⟨value, rfl, format, hread, hnone, rfl⟩
  · refine .inr (.inr fun _ _ => add_ok_iff.mpr (.inr (.inr (.inr (.inl ?_)))))
    exact ⟨value, rfl, path, hread, hnone, rfl⟩
  · exact .inr (.inl ⟨n, rfl⟩)

/-- Tokens that ask for no order and no depth do the same after others that do. -/
theorem foldlM_changed {tokens : List Token} {d d' : Draft}
    (h : tokens.foldlM (add .outline) d = .ok d') (hsort : d'.noSort = false)
    (hdepth : d'.maxDepth = none) (noSort : Bool) (limit : Option Nat) :
    tokens.foldlM (add .outline) (d.changed noSort limit) = .ok (d'.changed noSort limit) := by
  induction tokens generalizing d with
  | nil =>
    obtain rfl : d = d' := Except.ok.inj h
    rfl
  | cons token tokens ih =>
    rw [List.foldlM_cons] at h ⊢
    cases hadd : d.add .outline token with
    | error e =>
      rw [hadd] at h
      cases h
    | ok next =>
      rw [hadd] at h
      have hadds := adds_of_foldlM h
      -- A token that asks for order or depth would still be seen at the end.
      rcases add_cases hadd with rfl | ⟨n, rfl⟩ | hsame
      · rw [hadds.noSort.mpr (.inl rfl)] at hsort
        cases hsort
      · rw [(hadds.maxDepth n).mpr (.inl rfl)] at hdepth
        cases hdepth
      · have hnext : (d.changed noSort limit).add .outline token
            = .ok (next.changed noSort limit) := hsame noSort limit
        rw [hnext]
        exact ih h

end Draft

/-! ## Requests -/

theorem ofArguments_noSort (rest : List String) :
    Token.ofArguments .outline ("--no-sort" :: rest)
      = .switch .noSort :: Token.ofArguments .outline rest := by
  rw [Token.ofArguments]
  rfl

theorem word_digits (n : Nat) : Word.ofArgument (String.ofList (Decimal.digits n)) = .plain := by
  obtain ⟨d, ds, hdigits, hd, -⟩ := Decimal.digits_eq_cons n
  have hhyphen : d ≠ '-' := by
    rintro rfl
    exact absurd hd (by decide)
  rw [Word.ofArgument, String.toList_ofList, hdigits]
  split
  · next h => exact absurd (List.cons.inj h).1 hhyphen
  · next h => exact absurd (List.cons.inj h).1 hhyphen
  · next h => exact absurd (List.cons.inj h).1 hhyphen
  · rfl

theorem ofArguments_maxDepth (n : Nat) (rest : List String) :
    Token.ofArguments .outline ("--max-depth" :: String.ofList (Decimal.digits n) :: rest)
      = .setting .maxDepth (String.ofList (Decimal.digits n))
        :: Token.ofArguments .outline rest := by
  rw [Token.ofArguments]
  show (if Word.ofArgument (String.ofList (Decimal.digits n)) = .plain then _ else _) = _
  rw [if_pos (word_digits n)]

theorem foldlM_maxDepth {n : Nat} (hn : n < Nat.pow 2 64) (noSort : Bool) (rest : List String) :
    (Token.ofArguments .outline
        ("--max-depth" :: String.ofList (Decimal.digits n) :: rest)).foldlM (Draft.add .outline)
        (Draft.changed {} noSort none)
      = (Token.ofArguments .outline rest).foldlM (Draft.add .outline)
          (Draft.changed {} noSort (some n)) := by
  have hset : (Draft.changed {} noSort none).add .outline
        (.setting .maxDepth (String.ofList (Decimal.digits n)))
      = .ok (Draft.changed {} noSort (some n)) := by
    have hvalue : value? .maxDepth none count? (String.ofList (Decimal.digits n))
        = .ok (some n) := by
      unfold value?
      rw [count?_digits hn]
    show (value? .maxDepth none count? (String.ofList (Decimal.digits n)) >>= _) = _
    rw [hvalue]
    rfl
  rw [ofArguments_maxDepth, List.foldlM_cons, hset]
  rfl

/-- The switches put down what they ask for, and the rest goes on from there. -/
theorem foldlM_switches (noSort : Bool) {limit : Option Nat}
    (hlimit : ∀ n ∈ limit, n < Nat.pow 2 64) (rest : List String) :
    (Token.ofArguments .outline (switches noSort limit ++ rest)).foldlM (Draft.add .outline) {}
      = (Token.ofArguments .outline rest).foldlM (Draft.add .outline)
          (Draft.changed {} noSort limit) := by
  have hdepth : ∀ noSort, (Token.ofArguments .outline (switches false limit ++ rest)).foldlM
        (Draft.add .outline) (Draft.changed {} noSort none)
      = (Token.ofArguments .outline rest).foldlM (Draft.add .outline)
          (Draft.changed {} noSort limit) := by
    intro noSort
    cases limit with
    | none => rfl
    | some n => exact foldlM_maxDepth (hlimit n rfl) noSort rest
  cases noSort with
  | false => exact hdepth false
  | true =>
    have hfront : switches true limit ++ rest = "--no-sort" :: (switches false limit ++ rest) := rfl
    rw [hfront, ofArguments_noSort, List.foldlM_cons]
    exact hdepth true

/-- Arguments that ask for an outline in the order and the depth of the settings
ask for it in another order and depth after the switches for them. -/
theorem ofArguments_switches {rest : List String} {request : OutlineRequest}
    (h : Request.ofArguments ("outline" :: rest) = .ok (.outline request))
    (hsort : request.noSort = false) (hdepth : request.maxDepth = none) (noSort : Bool)
    {limit : Option Nat} (hlimit : ∀ n ∈ limit, n < Nat.pow 2 64) :
    Request.ofArguments ("outline" :: (switches noSort limit ++ rest))
      = .ok (.outline { request with noSort := noSort, maxDepth := limit }) := by
  obtain ⟨_, d, hrest, hfold, hrequest⟩ := draft_of_request h
  obtain rfl := (List.cons.inj hrest).2
  obtain ⟨input, format, config, sort, depth⟩ := d
  cases input with
  | none => cases hrequest
  | some input =>
    obtain rfl := Request.outline.inj (Except.ok.inj hrequest)
    have hchanged := Draft.foldlM_changed hfold hsort hdepth noSort limit
    show ((Token.ofArguments .outline (switches noSort limit ++ rest)).foldlM
        (Draft.add .outline) {} >>= fun d => d.request .outline) = _
    rw [foldlM_switches noSort hlimit, hchanged]
    rfl

end SymbolOutline.CommandLine
