/-!
# Settings

What a user may choose: how an outline is built (`BuildOptions`) and how it is
written as text (`TextStyle`). Counts come from 64-bit numbers, on the command
line up to `2^64 - 1` and in a settings file up to `2^63 - 1`. `Settings.text` is
how a log shows them.
-/

namespace SymbolOutline

structure BuildOptions where
  /-- Order siblings by weight; ties keep their order. -/
  sort : Bool := true
  /-- The deepest level shown, 1 being the top; `none` shows all. -/
  maxDepth : Option Nat := none
  deriving DecidableEq, Repr, Inhabited

structure TextStyle where
  /-- Spaces per level. -/
  indent : Nat := 2
  /-- End each line with the line number of its entry. -/
  showLines : Bool := true
  showDetail : Bool := false
  deriving DecidableEq, Repr, Inhabited

structure Settings where
  outline : BuildOptions := {}
  render : TextStyle := {}
  deriving DecidableEq, Repr, Inhabited

/-! ## Settings in the log -/

/-- A record with its name and the names of its fields. -/
def recordText (name : String) (fields : List (String × String)) : String :=
  name ++ " \x7b " ++ ", ".intercalate (fields.map fun (field, value) => field ++ ": " ++ value)
    ++ " \x7d"

def BuildOptions.text (options : BuildOptions) : String :=
  recordText "OutlineSettings"
    [("sort", toString options.sort),
      ("max_depth",
        match options.maxDepth with
        | none => "None"
        | some limit => s!"Some({limit})")]

def TextStyle.text (style : TextStyle) : String :=
  recordText "RenderSettings"
    [("indent", toString style.indent), ("show_lines", toString style.showLines),
      ("show_detail", toString style.showDetail)]

def Settings.text (settings : Settings) : String :=
  recordText "Settings"
    [("outline", settings.outline.text), ("render", settings.render.text)]

example : Settings.text { outline := { maxDepth := some 3 } }
    = "Settings \x7b outline: OutlineSettings \x7b sort: true, max_depth: Some(3) \x7d, "
      ++ "render: RenderSettings \x7b indent: 2, show_lines: true, show_detail: false \x7d \x7d" :=
  by decide +kernel

/-! ## Levels -/

namespace BuildOptions

/-- Whether a level is shown. -/
def Shows (options : BuildOptions) (depth : Nat) : Prop :=
  ∀ limit ∈ options.maxDepth, depth ≤ limit

instance (options : BuildOptions) (depth : Nat) : Decidable (options.Shows depth) :=
  match h : options.maxDepth with
  | none => isTrue (by simp [Shows, h])
  | some limit => decidable_of_iff (depth ≤ limit) (by simp [Shows, h])

/-- With a level, all above it are shown. -/
theorem Shows.mono {options : BuildOptions} {depth depth' : Nat} (h : options.Shows depth)
    (hle : depth' ≤ depth) : options.Shows depth' :=
  fun limit hl => Nat.le_trans hle (h limit hl)

end BuildOptions

end SymbolOutline
