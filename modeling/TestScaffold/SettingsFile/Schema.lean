/-
  TestScaffold.SettingsFile.Schema — the fields of a settings file and what can be wrong with them.

    * `Slot` — what a field takes and where it goes;
    * `filterFields`, `renderFields` — the fields by name, in their order;
    * `Mismatch`, `Trouble` — why a file does not fit, with the text of the remark.

  The readers of both file formats work from these tables.
-/
import TestScaffold.Settings
import TestScaffold.Text.Quoted

namespace TestScaffold.SettingsFile

/-! ## §1. Troubles -/

/-- What was found where something else was expected. -/
inductive Found where
  /-- No value, in the word of the format for it. -/
  | nothing (word : String)
  /-- A truth value. -/
  | flag (value : Bool)
  /-- A number without a point. -/
  | integer (value : Int)
  /-- A number without a point that needs the named kind of word. -/
  | wideInteger (value : Int) (word : String)
  /-- A number with a point, as written. -/
  | float (text : String)
  /-- A text. -/
  | text (value : String)
  /-- A list. -/
  | sequence
  /-- A list of members. -/
  | map
  /-- A choice without content. -/
  | unitVariant
  deriving DecidableEq, Repr, Inhabited

/-- A text between backticks. -/
def ticked (s : String) : String := "`" ++ s ++ "`"

/-- What was found, in words. -/
def Found.describe : Found → String
  | nothing word => word
  | flag b => "boolean " ++ ticked (if b then "true" else "false")
  | integer n => "integer " ++ ticked (toString n)
  | wideInteger n word => "integer " ++ ticked (toString n) ++ " as " ++ word
  | float t => "floating point " ++ ticked t
  | text s => "string " ++ Text.quote s
  | sequence => "sequence"
  | map => "map"
  | unitVariant => "unit variant"

/-- Data of the wrong form. -/
inductive Mismatch where
  /-- A value of another kind. -/
  | invalidType (found : Found) (expected : String)
  /-- A value of the right kind that is not taken. -/
  | invalidValue (found : Found) (expected : String)
  /-- A field that is not known. -/
  | unknownField (name : String) (known : List String)
  /-- A choice that is not known. -/
  | unknownVariant (name : String) (known : List String)
  /-- A field given twice. -/
  | duplicateField (name : String)
  deriving DecidableEq, Repr, Inhabited

/-- A list of names to choose from. -/
def oneOf : List String → String
  | [a] => ticked a
  | [a, b] => ticked a ++ " or " ++ ticked b
  | names => "one of " ++ String.intercalate ", " (names.map ticked)

/-- The remark on data of the wrong form. -/
def Mismatch.message : Mismatch → String
  | invalidType found expected => "invalid type: " ++ found.describe ++ ", expected " ++ expected
  | invalidValue found expected => "invalid value: " ++ found.describe ++ ", expected " ++ expected
  | unknownField name known => "unknown field " ++ ticked name ++ ", expected " ++ oneOf known
  | unknownVariant name known => "unknown variant " ++ ticked name ++ ", expected " ++ oneOf known
  | duplicateField name => "duplicate field " ++ ticked name

/-- Why a file gives no settings. -/
inductive Trouble where
  /-- The text is not of its format. -/
  | malformed
  /-- The data does not fit; the place is the way to it through the fields. -/
  | mismatch (place? : Option String) (what : Mismatch)
  deriving DecidableEq, Repr, Inhabited

/-- The remark on a trouble; a malformed text has none. -/
def Trouble.detail? : Trouble → Option String
  | malformed => none
  | mismatch none what => some what.message
  | mismatch (some "") what => some what.message
  | mismatch (some place) what => some (place ++ ": " ++ what.message)

/-! ## §2. Fields -/

/-- One of several choices for a part of `σ`. -/
inductive Variant (σ : Type) where
  /-- A choice without content. -/
  | unit (choose : σ → σ)
  /-- A choice with a text. -/
  | text (choose : String → σ → σ)

/-- What a field of `σ` takes. -/
inductive Slot (σ : Type) where
  /-- A text. -/
  | text (put : String → σ → σ)
  /-- A truth value. -/
  | flag (put : Bool → σ → σ)
  /-- A number from zero. -/
  | size (put : Nat → σ → σ)
  /-- A list of texts. -/
  | texts (put : List String → σ → σ)
  /-- One of several choices. -/
  | choice (variants : List (String × Variant σ))

/-- The fields of a group, in order. -/
abbrev Fields (σ : Type) := List (String × Slot σ)

/-- The names of fields, or of choices. -/
def names (table : List (String × α)) : List String := table.map Prod.fst

/-- The bound of sizes. -/
def sizeBound : Nat := Nat.pow 2 64

/-- The fields that say what is left out. -/
def filterFields : Fields FilterSettings :=
  [ ("folders_to_ignore", .texts fun v f => { f with foldersToIgnore := v }),
    ("module_patterns_to_ignore", .texts fun v f => { f with patternsToIgnore := v }) ]

/-- The frameworks by name. -/
def frameworkVariants : List (String × Variant RenderSettings) :=
  [ ("unittest", .unit fun r => { r with framework := .unittest }),
    ("pytest", .unit fun r => { r with framework := .pytest }) ]

/-- The outcomes by name. -/
def outcomeVariants : List (String × Variant RenderSettings) :=
  [ ("pass", .unit fun r => { r with outcome := .pass }),
    ("fail", .unit fun r => { r with outcome := .fail }),
    ("statement", .text fun v r => { r with outcome := .statement v }) ]

/-- The docstring modes by name. -/
def docstringVariants : List (String × Variant RenderSettings) :=
  [ ("source", .unit fun r => { r with docstring := .source }),
    ("empty", .unit fun r => { r with docstring := .empty }),
    ("none", .unit fun r => { r with docstring := .none }) ]

/-- The fields that say what is written. -/
def renderFields : Fields RenderSettings :=
  [ ("output_dir", .text fun v r => { r with outputDir := v }),
    ("framework", .choice frameworkVariants),
    ("import_packages", .texts fun v r => { r with importPackages := v }),
    ("indent_size", .size fun v r => { r with indentSize := v }),
    ("outcome", .choice outcomeVariants),
    ("module_prefix", .text fun v r => { r with modulePrefix := v }),
    ("function_prefix", .text fun v r => { r with functionPrefix := v }),
    ("docstring", .choice docstringVariants),
    ("wrap_in_class", .flag fun v r => { r with wrapInClass := v }),
    ("class_name", .text fun v r => { r with className := v }),
    ("set_up", .flag fun v r => { r with setUp := v }),
    ("tear_down", .flag fun v r => { r with tearDown := v }) ]

/-- The two groups of fields. -/
def groupNames : List String := ["filter", "render"]

/-- How the settings and their groups are called in remarks. -/
def settingsTitle : String := "struct Config"

/-- The title of the first group. -/
def filterTitle : String := "struct FilterConfig"

/-- The title of the second group. -/
def renderTitle : String := "struct RenderConfig"

end TestScaffold.SettingsFile
