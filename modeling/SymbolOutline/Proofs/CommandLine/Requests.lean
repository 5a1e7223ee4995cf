import SymbolOutline.CommandLine.Arguments

/-!
# What a request asks for

The arguments of an outline are read token by token into a draft, and each token
sets one field that was not set before (`Draft.add_ok_iff`). So in the end the draft
says what the tokens say (`Draft.Adds`), and a request asks for what its arguments
say, no more and no less (`saidBy_of_ofArguments`).
-/

namespace SymbolOutline.CommandLine

/-! ## One token -/

theorem value?_ok_iff {α : Type} {s : Switch} {old : Option α} {read? : String → Option α}
    {value : String} {found : Option α} :
    value? s old read? value = .ok found
      ↔ ∃ a, read? value = some a ∧ old = none ∧ found = some a := by
  unfold value?
  split
  · simp
  · next hread => simp [hread]
  · next a hread => simp [hread, eq_comm]

namespace Draft

variable {d d' : Draft} {token : Token} {tokens : List Token}

theorem addInput_ok_iff {path : String} :
    d.addInput .outline path = .ok d'
      ↔ path ≠ "" ∧ d.input = none ∧ d' = { d with input := some path } := by
  unfold addInput
  split
  · next hinput =>
    by_cases h : path = "" <;> simp [path?, h, hinput, eq_comm]
  · next hinput =>
    cases hd : d.input with
    | none => exact absurd hd (hinput rfl)
    | some old => simp

theorem turnOn_ok_iff {s : Switch} :
    d.turnOn s = .ok d' ↔ s = .noSort ∧ d.noSort = false ∧ d' = { d with noSort := true } := by
  cases s with
  | noSort => cases h : d.noSort <;> simp [turnOn, h, eq_comm]
  | format | config | maxDepth | help => simp [turnOn]

/-- A value is put where it belongs, if it can be read and there is none so far. -/
theorem put_ok_iff {α : Type} {s : Switch} {old : Option α} {read? : String → Option α}
    {value : String} {put : Option α → Draft} :
    (do return put (← value? s old read? value)) = Except.ok d'
      ↔ ∃ a, read? value = some a ∧ old = none ∧ d' = put (some a) := by
  cases hvalue : value? s old read? value with
  | error halt =>
    constructor
    · intro h
      cases h
    · rintro ⟨a, hread, hnone, -⟩
      rw [value?_ok_iff.mpr ⟨a, hread, hnone, rfl⟩] at hvalue
      cases hvalue
  | ok found =>
    obtain ⟨a, hread, hnone, rfl⟩ := value?_ok_iff.mp hvalue
    constructor
    · intro h
      exact ⟨a, hread, hnone, (Except.ok.inj h).symm⟩
    · rintro ⟨b, hread', -, rfl⟩
      rw [Option.some.inj (hread.symm.trans hread')]
      rfl

/-- All that a token can do to a draft. -/
theorem add_ok_iff :
    d.add .outline token = .ok d'
      ↔ (∃ path, token = .input path ∧ path ≠ "" ∧ d.input = none
          ∧ d' = { d with input := some path })
        ∨ (token = .switch .noSort ∧ d.noSort = false ∧ d' = { d with noSort := true })
        ∨ (∃ value, token = .setting .format value ∧ ∃ format,
          Format.ofName? value = some format ∧ d.format = none
            ∧ d' = { d with format := some format })
        ∨ (∃ value, token = .setting .config value ∧ ∃ path, path? value = some path
          ∧ d.config = none ∧ d' = { d with config := some path })
        ∨ ∃ value, token = .setting .maxDepth value ∧ ∃ n, count? value = some n
          ∧ d.maxDepth = none ∧ d' = { d with maxDepth := some n } := by
  cases token with
  | input path => simp [add, addInput_ok_iff]
  | switch s => simp [add, turnOn_ok_iff]
  | setting s value =>
    cases s with
    | format | config | maxDepth =>
      rw [add, set, put_ok_iff]
      simp
    | noSort | help => simp [add, set]
  | misuse e => simp [add]

/-! ## All tokens -/

/-- The second draft says what the first one says and what the tokens say. -/
structure Adds (tokens : List Token) (d d' : Draft) : Prop where
  input : ∀ path, d'.input = some path ↔ d.input = some path ∨ .input path ∈ tokens
  format : ∀ format, d'.format = some format ↔ d.format = some format
    ∨ ∃ value, .setting .format value ∈ tokens ∧ Format.ofName? value = some format
  config : ∀ path, d'.config = some path ↔ d.config = some path
    ∨ ∃ value, .setting .config value ∈ tokens ∧ path? value = some path
  noSort : d'.noSort = true ↔ d.noSort = true ∨ .switch .noSort ∈ tokens
  maxDepth : ∀ n, d'.maxDepth = some n ↔ d.maxDepth = some n
    ∨ ∃ value, .setting .maxDepth value ∈ tokens ∧ count? value = some n

theorem Adds.nil (d : Draft) : Adds [] d d := by
  constructor <;> simp

theorem Adds.append {tokens' : List Token} {d'' : Draft} (h : Adds tokens d d')
    (h' : Adds tokens' d' d'') : Adds (tokens ++ tokens') d d'' where
  input path := by rw [h'.input, h.input, List.mem_append, or_assoc]
  format format := by
    rw [h'.format, h.format, or_assoc]
    simp only [List.mem_append, or_and_right, exists_or]
  config path := by
    rw [h'.config, h.config, or_assoc]
    simp only [List.mem_append, or_and_right, exists_or]
  noSort := by rw [h'.noSort, h.noSort, List.mem_append, or_assoc]
  maxDepth n := by
    rw [h'.maxDepth, h.maxDepth, or_assoc]
    simp only [List.mem_append, or_and_right, exists_or]

theorem adds_of_add (h : d.add .outline token = .ok d') : Adds [token] d d' := by
  rcases add_ok_iff.mp h with ⟨path, rfl, -, hnone, rfl⟩ | ⟨rfl, -, rfl⟩
    | ⟨value, rfl, format, hread, hnone, rfl⟩ | ⟨value, rfl, path, hread, hnone, rfl⟩
    | ⟨value, rfl, n, hread, hnone, rfl⟩
  · refine ⟨fun path' => ?_, by simp, by simp, by simp, by simp⟩
    simpa [hnone] using eq_comm
  · constructor <;> simp
  · constructor <;> simp [hnone, hread]
  · constructor <;> simp [hnone, hread]
  · constructor <;> simp [hnone, hread]

theorem adds_of_foldlM (h : tokens.foldlM (add .outline) d = .ok d') : Adds tokens d d' := by
  induction tokens generalizing d with
  | nil =>
    obtain rfl : d = d' := Except.ok.inj h
    exact .nil d
  | cons token tokens ih =>
    rw [List.foldlM_cons] at h
    cases hadd : d.add .outline token with
    | error halt =>
      rw [hadd] at h
      cases h
    | ok next =>
      rw [hadd] at h
      exact (adds_of_add hadd).append (ih h)

end Draft

/-! ## Requests -/

/-- A request asks for what the tokens say, and for nothing else. -/
structure OutlineRequest.SaidBy (request : OutlineRequest) (tokens : List Token) : Prop where
  input : .input request.input ∈ tokens
  format : request.format = .json
    ↔ ∃ value, .setting .format value ∈ tokens ∧ Format.ofName? value = some .json
  config : ∀ path, request.config = some path
    ↔ ∃ value, .setting .config value ∈ tokens ∧ path? value = some path
  noSort : request.noSort = true ↔ .switch .noSort ∈ tokens
  maxDepth : ∀ n, request.maxDepth = some n
    ↔ ∃ value, .setting .maxDepth value ∈ tokens ∧ count? value = some n

theorem ofName?_eq_outline {name : String} (h : Command.ofName? name = some .outline) :
    name = "outline" := by
  unfold Command.ofName? at h
  split at h
  · rfl
  · cases h
  · cases h

theorem draft_of_request {arguments : List String} {request : OutlineRequest}
    (h : Request.ofArguments arguments = .ok (.outline request)) :
    ∃ rest d, arguments = "outline" :: rest
      ∧ (Token.ofArguments .outline rest).foldlM (Draft.add .outline) {} = .ok d
      ∧ d.request .outline = .ok (.outline request) := by
  cases arguments with
  | nil => cases h
  | cons name rest =>
    cases hname : Command.ofName? name with
    | none =>
      simp only [Request.ofArguments, hname] at h
      split at h
      · cases h
      · split at h <;> cases h
    | some command =>
      simp only [Request.ofArguments, hname] at h
      cases hd : (Token.ofArguments command rest).foldlM (Draft.add command) {} with
      | error halt =>
        rw [hd] at h
        cases h
      | ok d =>
        rw [hd] at h
        cases command with
        | kinds => cases h
        | outline => exact ⟨rest, d, by rw [ofName?_eq_outline hname], hd, h⟩

/-- A request asks for what its arguments say. -/
theorem saidBy_of_ofArguments {arguments : List String} {request : OutlineRequest}
    (h : Request.ofArguments arguments = .ok (.outline request)) :
    ∃ rest, arguments = "outline" :: rest
      ∧ request.SaidBy (Token.ofArguments .outline rest) := by
  obtain ⟨rest, d, rfl, hfold, hrequest⟩ := draft_of_request h
  have hadds := Draft.adds_of_foldlM hfold
  obtain ⟨input, format, config, noSort, maxDepth⟩ := d
  cases input with
  | none => cases hrequest
  | some input =>
    obtain rfl := Request.outline.inj (Except.ok.inj hrequest)
    refine ⟨rest, rfl, ?_, ?_, ?_, ?_, ?_⟩
    · simpa using hadds.input input
    · have hformat : format.getD .text = .json ↔ format = some .json := by cases format <;> simp
      exact hformat.trans (by simpa using hadds.format .json)
    · simpa using hadds.config
    · simpa using hadds.noSort
    · simpa using hadds.maxDepth

end SymbolOutline.CommandLine
