import Mathlib.Data.List.Basic
import SymbolOutline.Settings.Load

/-!
# Which settings are loaded

A named file decides by itself (`load_of_settings`, `load_of_rejected`). Of
several paths the first decides where there is a file that is not rejected, or
something that cannot be read (`Candidate.decides`): it gives the settings or
the error, and of those before it only the warnings about rejected files are
left (`loadFirst_append`). So a file that has no settings is only an error if it
was named (`discover_error`), and what comes after the first that decides does
not matter (`first_deciding_candidate`).
-/

namespace SymbolOutline.Settings

variable {files : Files} {path : String}

/-! ## One file -/

theorem load_of_unreadable {stored : Stored} {e : FileError} (h : files path = some stored)
    (htext : stored.text = .error e) (log : Log) :
    load files log path = (.error (.unreadable e), log) := by
  rw [load, h]
  simp only [htext]

theorem load_of_rejected {stored : Stored} {text : List Char} {e : TomlError}
    (h : files path = some stored) (htext : stored.text = .ok text)
    (hrejected : ofToml text = .error e) (log : Log) :
    load files log path = (.error (.rejected path text e), log) := by
  rw [load, h]
  simp only [htext, hrejected]

theorem load_of_settings {stored : Stored} {text : List Char} {settings : Settings}
    (h : files path = some stored) (htext : stored.text = .ok text)
    (hsettings : ofToml text = .ok settings) (log : Log) :
    load files log path = (.ok settings, log.push (.loadedSettings path)) := by
  rw [load, h]
  simp only [htext, hsettings]

/-! ## Candidates -/

/-- What is found at a path where settings may be. -/
inductive Candidate where
  | absent
  | unreadable (e : FileError)
  /-- A text without settings. -/
  | rejected (text : List Char) (e : TomlError)
  | accepted (settings : Settings)

def candidate (files : Files) (path : String) : Candidate :=
  match files path with
  | none => .absent
  | some stored =>
    match stored.text with
    | .error e => .unreadable e
    | .ok text =>
      match ofToml text with
      | .error e => .rejected text e
      | .ok settings => .accepted settings

namespace Candidate

/-- Whether the search for settings ends there. -/
def decides : Candidate → Bool
  | absent | rejected .. => false
  | unreadable _ | accepted _ => true

/-- What is wrong with a rejected text. -/
def rejection? : Candidate → Option String
  | rejected text e => some (e.message text)
  | absent | unreadable _ | accepted _ => none

end Candidate

/-- The warnings about the rejected texts at the paths, in their order. -/
def warnings (files : Files) (paths : List String) : List Event :=
  paths.filterMap fun path =>
    (candidate files path).rejection?.map fun reason => .ignoredSettings path reason

section

variable {settings : Settings} {text : List Char}

theorem candidate_congr {files' : Files} (h : files' path = files path) :
    candidate files' path = candidate files path := by
  rw [candidate, candidate, h]

theorem candidate_of_none (h : files path = none) : candidate files path = .absent := by
  rw [candidate, h]

theorem candidate_of_unreadable {stored : Stored} {e : FileError} (h : files path = some stored)
    (htext : stored.text = .error e) : candidate files path = .unreadable e := by
  rw [candidate, h]
  simp only [htext]

theorem candidate_of_rejected {stored : Stored} {e : TomlError} (h : files path = some stored)
    (htext : stored.text = .ok text) (hrejected : ofToml text = .error e) :
    candidate files path = .rejected text e := by
  rw [candidate, h]
  simp only [htext, hrejected]

theorem candidate_of_settings {stored : Stored} (h : files path = some stored)
    (htext : stored.text = .ok text) (hsettings : ofToml text = .ok settings) :
    candidate files path = .accepted settings := by
  rw [candidate, h]
  simp only [htext, hsettings]

end

/-- Nothing is at the path, or a text without settings. -/
def PassedOver (files : Files) (path : String) : Prop :=
  files path = none
    ∨ ∃ stored text e, files path = some stored ∧ stored.text = .ok text ∧ ofToml text = .error e

theorem not_decides_of_passedOver (h : PassedOver files path) :
    (candidate files path).decides = false := by
  rcases h with hnone | ⟨stored, text, e, hstored, htext, hrejected⟩
  · rw [candidate_of_none hnone]
    rfl
  · rw [candidate_of_rejected hstored htext hrejected]
    rfl

/-! ## The search -/

variable {before : List String}

theorem warnings_cons (files : Files) (path : String) (rest : List String) :
    warnings files (path :: rest) = warnings files [path] ++ warnings files rest :=
  List.filterMap_append (l := [path])

theorem warnings_congr {files' : Files} {paths : List String}
    (h : ∀ p ∈ paths, candidate files' p = candidate files p) :
    warnings files' paths = warnings files paths :=
  List.filterMap_congr fun p hp => by rw [h p hp]

/-- One step of the search, by what is found at the first path. -/
theorem loadFirst_cons (files : Files) (log : Log) (path : String) (rest : List String) :
    ((candidate files path).decides = false
        ∧ loadFirst files log (path :: rest)
          = loadFirst files (log ++ (warnings files [path]).toArray) rest)
      ∨ (∃ e, candidate files path = .unreadable e
        ∧ loadFirst files log (path :: rest) = (.error (.unreadable e), log))
      ∨ ∃ settings, candidate files path = .accepted settings
        ∧ loadFirst files log (path :: rest) = (.ok settings, log.push (.loadedSettings path)) := by
  cases hstored : files path with
  | none =>
    have hcandidate := candidate_of_none hstored
    have hnone : warnings files [path] = [] := by simp [warnings, hcandidate, Candidate.rejection?]
    refine .inl ⟨by rw [hcandidate, Candidate.decides], ?_⟩
    rw [loadFirst, hstored, hnone, Array.append_empty]
  | some stored =>
    cases htext : stored.text with
    | error e =>
      refine .inr (.inl ⟨e, candidate_of_unreadable hstored htext, ?_⟩)
      rw [loadFirst, hstored]
      simp only [load_of_unreadable hstored htext]
    | ok text =>
      cases hsettings : ofToml text with
      | error e =>
        have hcandidate := candidate_of_rejected hstored htext hsettings
        have hone : warnings files [path] = [.ignoredSettings path (e.message text)] := by
          simp [warnings, hcandidate, Candidate.rejection?]
        refine .inl ⟨by rw [hcandidate, Candidate.decides], ?_⟩
        rw [loadFirst, hstored, hone]
        simp only [load_of_rejected hstored htext hsettings]
        rfl
      | ok settings =>
        refine .inr (.inr ⟨settings, candidate_of_settings hstored htext hsettings, ?_⟩)
        rw [loadFirst, hstored]
        simp only [load_of_settings hstored htext hsettings]

theorem loadFirst_of_accepted {settings : Settings} (h : candidate files path = .accepted settings)
    (log : Log) (rest : List String) :
    loadFirst files log (path :: rest) = (.ok settings, log.push (.loadedSettings path)) := by
  rcases loadFirst_cons files log path rest with ⟨hnot, -⟩ | ⟨e, he, -⟩ | ⟨settings', hs, hload⟩
  · rw [h] at hnot
    cases hnot
  · rw [h] at he
    cases he
  · rw [h] at hs
    rw [hload, Candidate.accepted.inj hs]

theorem loadFirst_of_unreadable {e : FileError} (h : candidate files path = .unreadable e)
    (log : Log) (rest : List String) :
    loadFirst files log (path :: rest) = (.error (.unreadable e), log) := by
  rcases loadFirst_cons files log path rest with ⟨hnot, -⟩ | ⟨e', he, hload⟩ | ⟨settings, hs, -⟩
  · rw [h] at hnot
    cases hnot
  · rw [h] at he
    rw [hload, Candidate.unreadable.inj he]
  · rw [h] at hs
    cases hs

theorem loadFirst_of_not_decides (h : (candidate files path).decides = false) (log : Log)
    (rest : List String) :
    loadFirst files log (path :: rest)
      = loadFirst files (log ++ (warnings files [path]).toArray) rest := by
  rcases loadFirst_cons files log path rest with ⟨-, hload⟩ | ⟨e, he, -⟩ | ⟨settings, hs, -⟩
  · exact hload
  · rw [he] at h
    cases h
  · rw [hs] at h
    cases h

/-- Candidates that do not decide leave the search to those after them, and
their warnings. -/
theorem loadFirst_append (h : ∀ p ∈ before, (candidate files p).decides = false) (log : Log)
    (after : List String) :
    loadFirst files log (before ++ after)
      = loadFirst files (log ++ (warnings files before).toArray) after := by
  induction before generalizing log with
  | nil => rw [warnings, List.filterMap_nil, List.nil_append, Array.append_empty]
  | cons path rest ih =>
    obtain ⟨hpath, hrest⟩ := List.forall_mem_cons.mp h
    have hlog : log ++ (warnings files [path]).toArray ++ (warnings files rest).toArray
        = log ++ (warnings files (path :: rest)).toArray := by
      rw [Array.append_assoc, warnings_cons files path rest]
      simp only [List.append_toArray]
    rw [List.cons_append, loadFirst_of_not_decides hpath, ih hrest, hlog]

theorem fst_loadFirst_of_settings {stored : Stored} {text : List Char} {settings : Settings}
    (hbefore : ∀ p ∈ before, PassedOver files p) (h : files path = some stored)
    (htext : stored.text = .ok text) (hsettings : ofToml text = .ok settings)
    (after : List String) (log : Log) :
    (loadFirst files log (before ++ path :: after)).1 = .ok settings := by
  rw [loadFirst_append fun p hp => not_decides_of_passedOver (hbefore p hp),
    loadFirst_of_accepted (candidate_of_settings h htext hsettings)]

theorem loadFirst_error {paths : List String} {log : Log} {e : LoadError}
    (h : (loadFirst files log paths).1 = .error e) : ∃ inner, e = .unreadable inner := by
  induction paths generalizing log with
  | nil => cases h
  | cons path rest ih =>
    rcases loadFirst_cons files log path rest with
      ⟨-, hload⟩ | ⟨inner, -, hload⟩ | ⟨settings, -, hload⟩
    · rw [hload] at h
      exact ih h
    · rw [hload] at h
      exact ⟨inner, (Except.error.inj h).symm⟩
    · rw [hload] at h
      cases h

/-- Without a named file, only one that cannot be read is an error. -/
theorem discover_error {dir : String} {log : Log} {e : LoadError}
    (h : (discover files log dir).1 = .error e) : ∃ inner, e = .unreadable inner :=
  loadFirst_error h

/-- What comes after the first path that decides does not matter. -/
theorem loadFirst_decided (hdecides : (candidate files path).decides = true) (log : Log)
    (after : List String) :
    loadFirst files log (before ++ path :: after) = loadFirst files log (before ++ [path]) := by
  induction before generalizing log with
  | nil =>
    rw [List.nil_append, List.nil_append]
    rcases loadFirst_cons files log path after with
      ⟨hnot, -⟩ | ⟨e, he, hload⟩ | ⟨settings, hs, hload⟩
    · rw [hdecides] at hnot
      cases hnot
    · rw [hload, loadFirst_of_unreadable he]
    · rw [hload, loadFirst_of_accepted hs]
  | cons first rest ih =>
    rw [List.cons_append, List.cons_append]
    rcases loadFirst_cons files log first (rest ++ path :: after) with
      ⟨hnot, hload⟩ | ⟨e, he, hload⟩ | ⟨settings, hs, hload⟩
    · rw [hload, loadFirst_of_not_decides hnot, ih]
    · rw [hload, loadFirst_of_unreadable he]
    · rw [hload, loadFirst_of_accepted hs]

/-- The search sees no more of the files than what is found at its paths. -/
theorem loadFirst_congr {files' : Files} {paths : List String}
    (h : ∀ p ∈ paths, candidate files' p = candidate files p) (log : Log) :
    loadFirst files' log paths = loadFirst files log paths := by
  induction paths generalizing log with
  | nil => rfl
  | cons path rest ih =>
    obtain ⟨hpath, hrest⟩ := List.forall_mem_cons.mp h
    rcases loadFirst_cons files log path rest with
      ⟨hnot, hload⟩ | ⟨e, he, hload⟩ | ⟨settings, hs, hload⟩
    · have hwarnings : warnings files' [path] = warnings files [path] :=
        warnings_congr (List.forall_mem_singleton.mpr hpath)
      rw [hload, loadFirst_of_not_decides (by rw [hpath, hnot]), ih hrest, hwarnings]
    · rw [hload, loadFirst_of_unreadable (hpath.trans he)]
    · rw [hload, loadFirst_of_accepted (hpath.trans hs)]

/-- Of several paths the first decides that is neither empty nor has a rejected
text: its settings are loaded, or it is an error that it cannot be read. Without
such a path the defaults hold. The log gets a warning for each rejected text
before it, in their order, and then an event for the settings if they come
from a file. No other error is possible, and two states of the files that are
alike up to the first path that decides give the same result and log. -/
theorem first_deciding_candidate (files : Files) (log : Log) :
    (∀ dir, discover files log dir
        = loadFirst files log [inDirectory dir "symtidy.toml", inDirectory dir ".symtidy.toml"])
      ∧ (∀ paths, (∀ p ∈ paths, (candidate files p).decides = false) →
          loadFirst files log paths = (.ok {}, log ++ (warnings files paths).toArray))
      ∧ (∀ before path after, (∀ p ∈ before, (candidate files p).decides = false) →
          (∀ settings, candidate files path = .accepted settings →
            loadFirst files log (before ++ path :: after)
              = (.ok settings,
                (log ++ (warnings files before).toArray).push (.loadedSettings path)))
          ∧ ∀ e, candidate files path = .unreadable e →
            loadFirst files log (before ++ path :: after)
              = (.error (.unreadable e), log ++ (warnings files before).toArray))
      ∧ (∀ paths e, (loadFirst files log paths).1 = .error e → ∃ inner, e = .unreadable inner)
      ∧ (∀ before path after after' files', (candidate files path).decides = true →
          (∀ p ∈ before ++ [path], candidate files' p = candidate files p) →
            loadFirst files' log (before ++ path :: after')
              = loadFirst files log (before ++ path :: after))
      ∧ (∀ paths, (warnings files paths).map (fun e => (e.level, e.message))
          = paths.filterMap fun p => (candidate files p).rejection?.map fun reason =>
              (.warn, "Ignoring unparsable config " ++ p ++ ": " ++ reason))
      ∧ ∀ path, ((Event.loadedSettings path).level, (Event.loadedSettings path).message)
          = (.debug, "Loaded settings from " ++ path) := by
  refine ⟨fun _ => rfl, ?_, ?_, fun _ _ => loadFirst_error, ?_, ?_, fun _ => rfl⟩
  · intro paths h
    have hall := loadFirst_append h log []
    rw [List.append_nil] at hall
    exact hall
  · intro before path after hbefore
    constructor
    · intro settings h
      rw [loadFirst_append hbefore, loadFirst_of_accepted h]
    · intro e h
      rw [loadFirst_append hbefore, loadFirst_of_unreadable h]
  · intro before path after after' files' hdecides h
    have hpath : candidate files' path = candidate files path :=
      h path (List.mem_append_right before List.mem_cons_self)
    rw [loadFirst_decided hdecides, loadFirst_decided (by rw [hpath, hdecides]), loadFirst_congr h]
  · intro paths
    rw [warnings, List.map_filterMap]
    simp only [Option.map_map]
    rfl

/-- A directory with a broken file and one with settings after it. -/
def brokenFirst : Files := fun path =>
  if path = "./symtidy.toml" then some (.file "not = [valid".toUTF8)
  else if path = "./.symtidy.toml" then some (.file "[outline]\nsort = false\n".toUTF8)
  else none

theorem discover_brokenFirst :
    discover brokenFirst #[] "."
        = (.ok { outline := { sort := false } },
          #[.ignoredSettings "./symtidy.toml" (TomlError.malformed.message "not = [valid".toList),
            .loadedSettings "./.symtidy.toml"])
      ∧ loadFirst
          (fun path => if path = "./symtidy.json" then some .directory else brokenFirst path)
          #[] ["./symtidy.toml", "./.symtidy.toml", "./symtidy.json"]
        = discover brokenFirst #[] "." := by
  have hrejected : candidate brokenFirst "./symtidy.toml"
      = .rejected "not = [valid".toList .malformed :=
    candidate_of_rejected rfl (Stored.text_toUTF8 _) rfl
  have haccepted : candidate brokenFirst "./.symtidy.toml"
      = .accepted { outline := { sort := false } } :=
    candidate_of_settings rfl (Stored.text_toUTF8 _) rfl
  have hbefore : ∀ p ∈ ["./symtidy.toml"], (candidate brokenFirst p).decides = false := by
    intro p hp
    rw [List.mem_singleton.mp hp, hrejected]
    rfl
  obtain ⟨hdiscover, -, hfirst, -, hcongr, -, -⟩ := first_deciding_candidate brokenFirst #[]
  obtain ⟨hload, -⟩ := hfirst ["./symtidy.toml"] "./.symtidy.toml" [] hbefore
  constructor
  · have hwarnings : warnings brokenFirst ["./symtidy.toml"]
        = [.ignoredSettings "./symtidy.toml"
            (TomlError.malformed.message "not = [valid".toList)] := by
      simp only [warnings, List.filterMap_cons, hrejected]
      rfl
    refine (hdiscover ".").trans ((hload _ haccepted).trans ?_)
    rw [hwarnings]
    rfl
  · refine (hcongr ["./symtidy.toml"] "./.symtidy.toml" [] ["./symtidy.json"] _ ?_ ?_).trans
      (hdiscover ".").symm
    · rw [haccepted]
      rfl
    · intro p hp
      rcases List.mem_pair.mp hp with rfl | rfl <;> rfl

end SymbolOutline.Settings
