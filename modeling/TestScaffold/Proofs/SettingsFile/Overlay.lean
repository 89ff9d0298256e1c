/-
  TestScaffold.Proofs.SettingsFile.Overlay — settings files replace some of the built-in settings.

  An overlay says which fields a file gives.  A file for it is any text of an object with
  these fields, in any order, in any spelling and with any white space: it is the built-in
  settings with just these fields replaced.  One member too many, and nothing is.

    * `Overlay`, `Overlay.apply` — some of the fields, and what they replace;
    * `Overlay.Lists`, `Overlay.Spoiled` — the objects for it, and those with a member too many;
    * `settings?_of_lists`, `settings?_of_spoiled` — what these objects decode to;
    * `load_overlay` — what their texts load as.
-/
import TestScaffold.Proofs.SettingsFile.Reading
import TestScaffold.Proofs.Text.ByteString
import TestScaffold.SettingsFile.Load

namespace TestScaffold

open SettingsFile.Json (Value Numeral Element Written)

/-! ## §1. Fields as values -/

/-- The value of a framework. -/
def Framework.value : Framework → Value
  | unittest => .text "unittest"
  | pytest => .text "pytest"

/-- The value of an outcome. -/
def Outcome.value : Outcome → Value
  | pass => .text "pass"
  | fail => .text "fail"
  | statement text => .object [("statement", .text text)]

/-- The value of a docstring mode. -/
def DocstringMode.value : DocstringMode → Value
  | source => .text "source"
  | empty => .text "empty"
  | none => .text "none"

namespace SettingsFile

/-- The value of a list of texts. -/
def Json.Value.ofTexts (texts : List String) : Value := .array (texts.map .text)

/-- The value of a size. -/
def Json.Value.ofSize (size : UInt64) : Value := .number (.ofNat size.toNat)

theorem texts?_ofTexts (texts : List String) : (Value.ofTexts texts).texts? = some texts := by
  show (texts.map Value.text).mapM Value.text? = some texts
  induction texts with
  | nil => rfl
  | cons t ts ih =>
      rw [List.map_cons, List.mapM_cons, ih]
      rfl

theorem size?_ofSize (size : UInt64) : (Value.ofSize size).size? = some size.toNat := by
  have hfits : size.toNat < sizeBound := size.toNat_lt
  simp [Value.ofSize, Value.size?, hfits]

/-! ## §2. Overlays -/

/-- Members that may be there. -/
def present (rows : List (String × Option Value)) : List (String × Value) :=
  rows.filterMap fun row => row.2.map (row.1, ·)

/-- Some of what says what is left out. -/
structure FilterOverlay where
  /-- Parts of folder names. -/
  foldersToIgnore? : Option (List String) := none
  /-- Parts of module paths. -/
  patternsToIgnore? : Option (List String) := none

namespace FilterOverlay

/-- Each field under its name. -/
def rows (o : FilterOverlay) : List (String × Option Value) :=
  [ ("folders_to_ignore", o.foldersToIgnore?.map .ofTexts),
    ("module_patterns_to_ignore", o.patternsToIgnore?.map .ofTexts) ]

/-- Its members. -/
def members (o : FilterOverlay) : List (String × Value) := present o.rows

/-- The settings with just these fields replaced. -/
def apply (o : FilterOverlay) (f : FilterSettings) : FilterSettings where
  foldersToIgnore := o.foldersToIgnore?.getD f.foldersToIgnore
  patternsToIgnore := o.patternsToIgnore?.getD f.patternsToIgnore

end FilterOverlay

/-- Some of what says what is written. -/
structure RenderOverlay where
  /-- Directory of the tests. -/
  outputDir? : Option String := none
  /-- The framework. -/
  framework? : Option Framework := none
  /-- Packages that are imported. -/
  importPackages? : Option (List String) := none
  /-- Spaces per indentation step, in one word. -/
  indentSize? : Option UInt64 := none
  /-- The body of each test. -/
  outcome? : Option Outcome := none
  /-- Put before a module's file name. -/
  modulePrefix? : Option String := none
  /-- Put before a function's name. -/
  functionPrefix? : Option String := none
  /-- Docstring of each test. -/
  docstring? : Option DocstringMode := none
  /-- Whether the tests stand inside a class. -/
  wrapInClass? : Option Bool := none
  /-- Name of that class. -/
  className? : Option String := none
  /-- Whether a `setUp` hook is wanted. -/
  setUp? : Option Bool := none
  /-- Whether a `tearDown` hook is wanted. -/
  tearDown? : Option Bool := none

namespace RenderOverlay

/-- Each field under its name. -/
def rows (o : RenderOverlay) : List (String × Option Value) :=
  [ ("output_dir", o.outputDir?.map .text),
    ("framework", o.framework?.map Framework.value),
    ("import_packages", o.importPackages?.map .ofTexts),
    ("indent_size", o.indentSize?.map .ofSize),
    ("outcome", o.outcome?.map Outcome.value),
    ("module_prefix", o.modulePrefix?.map .text),
    ("function_prefix", o.functionPrefix?.map .text),
    ("docstring", o.docstring?.map DocstringMode.value),
    ("wrap_in_class", o.wrapInClass?.map .flag),
    ("class_name", o.className?.map .text),
    ("set_up", o.setUp?.map .flag),
    ("tear_down", o.tearDown?.map .flag) ]

/-- Its members. -/
def members (o : RenderOverlay) : List (String × Value) := present o.rows

/-- The settings with just these fields replaced. -/
def apply (o : RenderOverlay) (r : RenderSettings) : RenderSettings where
  outputDir := o.outputDir?.getD r.outputDir
  framework := o.framework?.getD r.framework
  importPackages := o.importPackages?.getD r.importPackages
  indentSize := (o.indentSize?.map UInt64.toNat).getD r.indentSize
  outcome := o.outcome?.getD r.outcome
  modulePrefix := o.modulePrefix?.getD r.modulePrefix
  functionPrefix := o.functionPrefix?.getD r.functionPrefix
  docstring := o.docstring?.getD r.docstring
  wrapInClass := o.wrapInClass?.getD r.wrapInClass
  className := o.className?.getD r.className
  setUp := o.setUp?.getD r.setUp
  tearDown := o.tearDown?.getD r.tearDown

end RenderOverlay

/-- Some of the settings; a group may be there without any fields. -/
structure Overlay where
  /-- What is said of what is left out. -/
  filter? : Option FilterOverlay := none
  /-- What is said of what is written. -/
  render? : Option RenderOverlay := none

namespace Overlay

/-- The settings with just these fields replaced. -/
def apply (o : Overlay) (s : Settings) : Settings where
  filter := (o.filter?.getD {}).apply s.filter
  render := (o.render?.getD {}).apply s.render

/-- These are the members of an object for the overlay: its groups in some order, each an object
    with the fields of the group in some order. -/
def Lists (o : Overlay) (ms : List (String × Value)) : Prop :=
  ∃ filter? render? : Option (List (String × Value)),
    Option.Rel List.Perm filter? (o.filter?.map (·.members))
      ∧ Option.Rel List.Perm render? (o.render?.map (·.members))
      ∧ ms.Perm (present [("filter", filter?.map .object), ("render", render?.map .object)])

end Overlay

/-- The members of an object, in some order, and one more: of a name that is not known, or of one
    that is there already, with any value. -/
def Spoils (known : List String) (ms ms' : List (String × Value)) : Prop :=
  ∃ name v, (name ∉ known ∨ name ∈ names ms) ∧ ms'.Perm ((name, v) :: ms)

/-- The names of the fields of a group. -/
def fieldNames (group : String) : List String :=
  if group = "filter" then names filterFields else names renderFields

/-- These are the members of an object for the overlay, but for one member too many. -/
inductive Overlay.Spoiled (o : Overlay) : List (String × Value) → Prop where
  /-- Among the groups. -/
  | top {ms ms' : List (String × Value)} : o.Lists ms → Spoils groupNames ms ms' → o.Spoiled ms'
  /-- Among the fields of a group. -/
  | inner {before after inner inner' : List (String × Value)} {group : String} :
      o.Lists (before ++ (group, .object inner) :: after) →
      Spoils (fieldNames group) inner inner' →
      o.Spoiled (before ++ (group, .object inner') :: after)

/-! ## §3. Members that may be there -/

section Rows

variable {σ : Type} {known : List String} {field : String → Value → Option (σ → σ)}

/-- What a member changes that may be there: without it, nothing. -/
def Takes (field : String → Value → Option (σ → σ)) (row : String × Option Value) (f : σ → σ) :
    Prop :=
  row.2.elim (some id) (field row.1) = some f

theorem changes?_present {rows : List (String × Option Value)} {fs : List (σ → σ)}
    (h : List.Forall₂ (Takes field) rows fs) :
    changes? field (present rows) = some fun s => fs.foldl (fun s f => f s) s := by
  induction h with
  | nil => rfl
  | @cons row f rows fs hrow _ ih =>
      obtain ⟨name, v?⟩ := row
      cases v? with
      | none =>
          cases hrow
          exact ih
      | some v =>
          have hv : field name v = some f := hrow
          show changes? field ((name, v) :: present rows) = _
          rw [changes?, hv, Option.bind_some, ih]
          rfl

theorem names_present_sublist (rows : List (String × Option Value)) :
    (names (present rows)).Sublist (rows.map Prod.fst) := by
  induction rows with
  | nil => exact .slnil
  | cons row rows ih =>
      obtain ⟨name, v?⟩ := row
      cases v? with
      | none => exact ih.cons name
      | some v => exact ih.cons_cons name

/-- Rows for the known names are admitted, whichever of them are there. -/
theorem membersChange?_present {rows : List (String × Option Value)} {fs : List (σ → σ)}
    (hnames : rows.map Prod.fst = known) (hnodup : known.Nodup)
    (h : List.Forall₂ (Takes field) rows fs) :
    membersChange? known field [] (present rows) = some fun s => fs.foldl (fun s f => f s) s := by
  have hsub := hnames ▸ names_present_sublist rows
  rw [membersChange?, if_pos ⟨hnodup.sublist hsub, fun n hn => ⟨hsub.subset hn, by simp⟩⟩,
    changes?_present h]

end Rows

theorem takes_filter (o : FilterOverlay) :
    List.Forall₂ (Takes (fieldChange? filterFields)) o.rows
      [ fun f => { f with foldersToIgnore := o.foldersToIgnore?.getD f.foldersToIgnore },
        fun f => { f with patternsToIgnore := o.patternsToIgnore?.getD f.patternsToIgnore } ] := by
  refine .cons ?foldersToIgnore (.cons ?patternsToIgnore .nil)
  case foldersToIgnore =>
    cases o.foldersToIgnore? with
    | none => rfl
    | some ts => exact congrArg (Option.map _) (texts?_ofTexts ts)
  case patternsToIgnore =>
    cases o.patternsToIgnore? with
    | none => rfl
    | some ts => exact congrArg (Option.map _) (texts?_ofTexts ts)

theorem takes_render (o : RenderOverlay) :
    List.Forall₂ (Takes (fieldChange? renderFields)) o.rows
      [ fun r => { r with outputDir := o.outputDir?.getD r.outputDir },
        fun r => { r with framework := o.framework?.getD r.framework },
        fun r => { r with importPackages := o.importPackages?.getD r.importPackages },
        fun r => { r with indentSize := (o.indentSize?.map UInt64.toNat).getD r.indentSize },
        fun r => { r with outcome := o.outcome?.getD r.outcome },
        fun r => { r with modulePrefix := o.modulePrefix?.getD r.modulePrefix },
        fun r => { r with functionPrefix := o.functionPrefix?.getD r.functionPrefix },
        fun r => { r with docstring := o.docstring?.getD r.docstring },
        fun r => { r with wrapInClass := o.wrapInClass?.getD r.wrapInClass },
        fun r => { r with className := o.className?.getD r.className },
        fun r => { r with setUp := o.setUp?.getD r.setUp },
        fun r => { r with tearDown := o.tearDown?.getD r.tearDown } ] := by
  refine .cons ?outputDir (.cons ?framework (.cons ?importPackages (.cons ?indentSize
    (.cons ?outcome (.cons ?modulePrefix (.cons ?functionPrefix (.cons ?docstring
    (.cons ?wrapInClass (.cons ?className (.cons ?setUp (.cons ?tearDown .nil)))))))))))
  case outputDir => cases o.outputDir? <;> rfl
  case framework =>
    cases o.framework? with
    | none => rfl
    | some framework => cases framework <;> rfl
  case importPackages =>
    cases o.importPackages? with
    | none => rfl
    | some ts => exact congrArg (Option.map _) (texts?_ofTexts ts)
  case indentSize =>
    cases o.indentSize? with
    | none => rfl
    | some size => exact congrArg (Option.map _) (size?_ofSize size)
  case outcome =>
    cases o.outcome? with
    | none => rfl
    | some outcome => cases outcome <;> rfl
  case modulePrefix => cases o.modulePrefix? <;> rfl
  case functionPrefix => cases o.functionPrefix? <;> rfl
  case docstring =>
    cases o.docstring? with
    | none => rfl
    | some mode => cases mode <;> rfl
  case wrapInClass => cases o.wrapInClass? <;> rfl
  case className => cases o.className? <;> rfl
  case setUp => cases o.setUp? <;> rfl
  case tearDown => cases o.tearDown? <;> rfl

theorem membersChange?_filter (o : FilterOverlay) :
    membersChange? (names filterFields) (fieldChange? filterFields) [] o.members = some o.apply :=
  have hnames : o.rows.map Prod.fst = names filterFields := rfl
  membersChange?_present hnames (by decide) (takes_filter o)

theorem membersChange?_render (o : RenderOverlay) :
    membersChange? (names renderFields) (fieldChange? renderFields) [] o.members = some o.apply :=
  have hnames : o.rows.map Prod.fst = names renderFields := rfl
  membersChange?_present hnames (by decide) (takes_render o)

/-! ## §4. Objects -/

theorem partChange?_filter {o : FilterOverlay} {ms : List (String × Value)}
    (hperm : ms.Perm o.members) :
    partChange? "filter" (.object ms) = some fun s => { s with filter := o.apply {} } := by
  have hchange : groupChange? (names filterFields) (fieldChange? filterFields) (.object ms)
      = some o.apply :=
    (membersChange?_perm (orderFree_of_pairwise filterFields_pairwise) hperm).trans
      (membersChange?_filter o)
  rw [partChange?, if_pos rfl, hchange, Option.map_some]

theorem partChange?_render {o : RenderOverlay} {ms : List (String × Value)}
    (hperm : ms.Perm o.members) :
    partChange? "render" (.object ms) = some fun s => { s with render := o.apply {} } := by
  have hchange : groupChange? (names renderFields) (fieldChange? renderFields) (.object ms)
      = some o.apply :=
    (membersChange?_perm (orderFree_of_pairwise renderFields_pairwise) hperm).trans
      (membersChange?_render o)
  rw [partChange?, if_neg (by decide), hchange, Option.map_some]

/-- **An object for an overlay** replaces its fields in the built-in settings. -/
theorem settings?_of_lists {o : Overlay} {ms : List (String × Value)} (h : o.Lists ms) :
    settings? (.object ms) = some (o.apply {}) := by
  obtain ⟨filter?, render?, hfilter, hrender, hperm⟩ := h
  obtain ⟨filterOverlay?, renderOverlay?⟩ := o
  have htakes : List.Forall₂ (Takes partChange?)
      [("filter", filter?.map .object), ("render", render?.map .object)]
      [ fun s => { s with filter := (filterOverlay?.map (·.apply {})).getD s.filter },
        fun s => { s with render := (renderOverlay?.map (·.apply {})).getD s.render } ] := by
    refine .cons ?_ (.cons ?_ .nil)
    · cases filterOverlay? with
      | none => cases hfilter; rfl
      | some f => cases hfilter with | some hinner => exact partChange?_filter hinner
    · cases renderOverlay? with
      | none => cases hrender; rfl
      | some r => cases hrender with | some hinner => exact partChange?_render hinner
  -- in the order of the table
  have hchange := (membersChange?_perm orderFree_part hperm).trans
    (membersChange?_present rfl (by decide) htakes)
  show (membersChange? groupNames partChange? [] ms).map (· {}) = _
  rw [hchange]
  cases filterOverlay? <;> cases renderOverlay? <;> rfl

theorem not_admitted_of_spoils {known : List String} {ms ms' : List (String × Value)}
    (h : Spoils known ms ms') : ¬Admitted known [] ms' := by
  rintro ⟨hnodup, hknown⟩
  obtain ⟨name, v, hname, hperm⟩ := h
  have hnames : (names ms').Perm (name :: names ms) := hperm.map Prod.fst
  rcases hname with hunknown | htwice
  · exact hunknown (hknown name (hnames.mem_iff.mpr List.mem_cons_self)).1
  · exact (List.nodup_cons.mp (hnames.nodup_iff.mp hnodup)).1 htwice

theorem groupChange?_spoiled {σ : Type} {known : List String}
    {field : String → Value → Option (σ → σ)} {ms ms' : List (String × Value)}
    (h : Spoils known ms ms') : groupChange? known field (.object ms') = none :=
  if_neg (not_admitted_of_spoils h)

theorem partChange?_spoiled {group : String} {ms ms' : List (String × Value)}
    (h : Spoils (fieldNames group) ms ms') : partChange? group (.object ms') = none := by
  unfold fieldNames at h
  unfold partChange?
  split at h
  · rename_i hgroup
    rw [if_pos hgroup, groupChange?_spoiled h, Option.map_none]
  · rename_i hgroup
    rw [if_neg hgroup, groupChange?_spoiled h, Option.map_none]

/-- **A member too many** and there are no settings. -/
theorem settings?_of_spoiled {o : Overlay} {ms : List (String × Value)} (h : o.Spoiled ms) :
    settings? (.object ms) = none := by
  suffices hnone : groupChange? groupNames partChange? (.object ms) = none by
    rw [settings?, hnone, Option.map_none]
  cases h with
  | top _ hspoils => exact groupChange?_spoiled hspoils
  | @inner before after inner inner' group _ hspoils =>
      -- members only change anything all together, and this one changes nothing
      refine Option.eq_none_iff_forall_ne_some.mpr fun f hf => ?_
      change membersChange? groupNames partChange? [] _ = some f at hf
      rw [membersChange?, if_pos (admitted_of_membersChange? hf)] at hf
      have hgroup := isSome_of_changes? hf (group, .object inner') (by simp)
      rw [partChange?_spoiled hspoils] at hgroup
      cases hgroup

/-! ## §5. Files -/

/-- The text of an object is not blank. -/
theorem isBlankText_object {ms : List (String × Value)} {text : String}
    (h : Element (.object ms) text.toList) : Text.isBlankText text = false := by
  obtain ⟨before, c, tail, after, -, hopens, -, -, htext⟩ := h.parts
  obtain rfl : c = '\x7b' := eq_of_beq hopens
  refine List.all_eq_false.mpr ⟨'\x7b', ?_, by decide⟩
  rw [htext]
  simp

/-- An extension that is a text is read as that text. -/
theorem extensionText_eq {path : ByteString} {extension : String}
    (h : Path.extension? path = some (.ofText extension)) : extensionText path = extension := by
  unfold extensionText
  simp only [h, ByteString.isText_ofText, if_true, ByteString.text_ofText]

/-- The text of an object in a file is read as its value. -/
theorem load_object {fs : FileSystem} {path : ByteString} {text : String}
    (hextension : Path.extension? path = some (.ofText "json")) (htext : fs.readText path = .ok text)
    {ms : List (String × Value)} (h : Element (.object ms) text.toList) :
    match settings? (.object ms) with
    | some s => load fs path = .ok s.normalized
    | none => ∃ detail?, load fs path = .error (.settingsParse path detail?) := by
  have hformat : Format.ofExtension? (extensionText path) = some .json := by
    rw [extensionText_eq hextension]
    rfl
  have hread : Format.json.read text = Json.readSettings text := by
    rw [Format.read, isBlankText_object h]
    rfl
  have hsettings := Json.toOption_readSettings h
  unfold load readFile
  simp only [htext, hformat, hread]
  cases hresult : Json.readSettings text with
  | error trouble =>
      rw [hresult] at hsettings
      rw [← hsettings]
      exact ⟨trouble.detail?, rfl⟩
  | ok s =>
      rw [hresult] at hsettings
      rw [← hsettings]
      rfl

/-- **Settings files are overlays.** A text of an object with some of the fields, in any order and
    any spelling, gives the built-in settings with just these fields replaced, in normal form.
    With a member too many it gives none. -/
theorem load_overlay {fs : FileSystem} {path : ByteString} {text : String}
    (hextension : Path.extension? path = some (.ofText "json")) (htext : fs.readText path = .ok text)
    (o : Overlay) :
    (∀ ms, o.Lists ms → Element (.object ms) text.toList →
        load fs path = .ok (o.apply {}).normalized)
      ∧ ∀ ms, o.Spoiled ms → Element (.object ms) text.toList →
        ∃ detail?, load fs path = .error (.settingsParse path detail?) := by
  constructor
  · intro ms hlists hobject
    have hload := load_object hextension htext hobject
    rw [settings?_of_lists hlists] at hload
    exact hload
  · intro ms hspoiled hobject
    have hload := load_object hextension htext hobject
    rw [settings?_of_spoiled hspoiled] at hload
    exact hload

/-- One outcome and one size, out of order, and a group without fields. -/
def shuffled : String :=
  "\x7b\"render\": \x7b\"outcome\":\x7b\"statement\":\"\\u00e9()\"\x7d,\"indent_size\":0\x7d," ++
    "\"filter\":\x7b\x7d\x7d"

/-- The same hook twice. -/
def doubled : String := "\x7b\"render\":\x7b\"set_up\":false,\"set_up\":true\x7d\x7d"

/-- A folder with two settings files. -/
def drawer : FileSystem :=
  { top := [("s.json", .file shuffled.toUTF8), ("t.json", .file doubled.toUTF8)] }

theorem element_shuffled :
    Element
      (.object
        [ ("render",
            .object
              [ ("outcome", (Outcome.statement "é()").value),
                ("indent_size", .ofSize 0) ]),
          ("filter", .object []) ])
      shuffled.toList := by
  have hcall : Json.Quoted "é()" _ :=
    ⟨_, .unit false false false false (by decide) (.plain (by decide) (by decide) (by decide)
      (.plain (by decide) (by decide) (by decide) .nil)), rfl⟩
  have hstatement : Json.Member ("statement", .text "é()") _ :=
    Json.member_plain (by decide) (.text hcall)
  have houtcome : Json.Member ("outcome", .object [_]) _ :=
    Json.member_plain (by decide)
      (@Written.object [(_, _)] (by simp) (List.forall_mem_singleton.mpr hstatement))
  have hsize : Json.Member ("indent_size", .ofSize 0) _ :=
    Json.member_plain (by decide) (.number _)
  have hfields : Written (.object [_, _]) _ :=
    @Written.object [(_, _), (_, _)] (by simp)
      (List.forall_mem_cons.mpr ⟨houtcome, List.forall_mem_singleton.mpr hsize⟩)
  have hspace : Json.White [' '] := List.forall_mem_singleton.mpr rfl
  have hrender : Json.Member ("render", .object [_, _]) _ :=
    .mk Json.white_nil (Json.quoted_plain (by decide)) Json.white_nil
      (.mk hspace hfields Json.white_nil)
  have hfilter : Json.Member ("filter", .object []) _ :=
    Json.member_plain (by decide) (.emptyObject Json.white_nil)
  have hobject : Written (.object [_, _]) _ :=
    @Written.object [(_, _), (_, _)] (by simp)
      (List.forall_mem_cons.mpr ⟨hrender, List.forall_mem_singleton.mpr hfilter⟩)
  exact .mk Json.white_nil hobject Json.white_nil

theorem element_doubled :
    Element (.object [("render", .object [("set_up", .flag false), ("set_up", .flag true)])])
      doubled.toList := by
  have hfirst : Json.Member ("set_up", .flag false) _ := Json.member_plain (by decide) (.flag false)
  have hsecond : Json.Member ("set_up", .flag true) _ := Json.member_plain (by decide) (.flag true)
  have hfields : Written (.object [_, _]) _ :=
    @Written.object [(_, _), (_, _)] (by simp)
      (List.forall_mem_cons.mpr ⟨hfirst, List.forall_mem_singleton.mpr hsecond⟩)
  have hrender : Json.Member ("render", .object [_, _]) _ := Json.member_plain (by decide) hfields
  have hobject : Written (.object [_]) _ :=
    @Written.object [(_, _)] (by simp) (List.forall_mem_singleton.mpr hrender)
  exact .mk Json.white_nil hobject Json.white_nil

theorem load_overlay_drawer :
    load drawer "s.json"
        = .ok ({ render := { outcome := .statement "é()", indentSize := 2 } }, [.zeroIndent 2])
      ∧ ∃ detail?, load drawer "t.json" = .error (.settingsParse "t.json" detail?) := by
  have hshuffled : drawer.readText "s.json" = .ok shuffled := by decide +kernel
  have hdoubled : drawer.readText "t.json" = .ok doubled := by decide +kernel
  constructor
  · have hload := load_overlay rfl hshuffled
      { filter? := some {}
        render? := some { outcome? := some (.statement "é()"), indentSize? := some 0 } }
    exact hload.1 _ ⟨some [], some _, .some .nil, .some (.swap _ _ _), .swap _ _ _⟩ element_shuffled
  · have hload := load_overlay rfl hdoubled { render? := some { setUp? := some false } }
    have hlists : Overlay.Lists { render? := some { setUp? := some false } }
        ([] ++ ("render", .object [("set_up", .flag false)]) :: []) :=
      ⟨none, some _, .none, .some (.refl _), .refl _⟩
    have hspoils : Spoils (fieldNames "render") [("set_up", .flag false)]
        [("set_up", .flag false), ("set_up", .flag true)] :=
      ⟨"set_up", .flag true, .inr (by decide), .swap _ _ _⟩
    exact hload.2 _ (.inner hlists hspoils) element_doubled

end SettingsFile

end TestScaffold
