/-
  TestScaffold.Proofs.TestModule.Definitions — the names that a test module defines.

  All tests of a module stand in one class, or at one margin, whatever the classes of the
  functions are; beside them stand the hooks.  So each name of a source gets a test of its
  own unless the source has it twice, or the prefix makes the name of a hook of it:

    * `Defines` — a text defines a name: its first line says so, and no other name fits;
    * `definedNames` — hooks and tests by name, in order;
    * `nodup_definedNames_iff` — when no definition replaces an earlier one;
    * `defined_once_iff` — the same of a test module of a source.
-/
import Mathlib.Data.List.Forall2
import Mathlib.Data.List.Nodup
import TestScaffold.Proofs.Catalogue.Identifiers
import TestScaffold.Proofs.TestModule.Layout

namespace TestScaffold.SourceModule

/-! ## §1. Definitions -/

/-- The line that defines a name at the depth of the tests. -/
def openingLine (r : RenderSettings) (name : String) : IndentedLine :=
  ⟨testDepth r, "def " ++ name ++ testParameters r ++ ":"⟩

/-- The text defines the name: its first line opens a definition of it. -/
def Defines (r : RenderSettings) (name : String) (text : List Char) : Prop :=
  '\n' ∉ name.toList
    ∧ ∃ below, text = (openingLine r name).chars r.indentSize ++ '\n' :: below

section Defines

variable {r : RenderSettings} {name name' : String} {text : List Char}

theorem newline_not_mem_openingLine (h : '\n' ∉ name.toList) :
    '\n' ∉ (openingLine r name).chars r.indentSize := by
  refine IndentedLine.newline_not_mem_chars ?_ r.indentSize
  unfold openingLine testParameters
  cases r.wrapInClass <;> simp [h]

theorem openingLine_chars_inj :
    (openingLine r name).chars r.indentSize = (openingLine r name').chars r.indentSize
      ↔ name = name' := by
  simp [openingLine, IndentedLine.chars, String.toList_inj]

/-- A text defines at most one name. -/
theorem Defines.unique (h : Defines r name text) (h' : Defines r name' text) : name = name' := by
  obtain ⟨hname, below, rfl⟩ := h
  obtain ⟨hname', below', htext⟩ := h'
  have hline := Text.eq_of_append_sep (newline_not_mem_openingLine hname)
    (newline_not_mem_openingLine hname') htext
  exact openingLine_chars_inj.mp hline.1

theorem Defines.iff (h : Defines r name text) : Defines r name' text ↔ name' = name :=
  ⟨fun h' => h'.unique h, fun heq => heq ▸ h⟩

theorem defines_renderTest {f : Function} (hstart : '\n' ∉ r.functionPrefix.toList)
    (hname : '\n' ∉ f.name.toList) :
    Defines r (r.functionPrefix ++ f.name) (renderTest r f).toList := by
  have hopening : openingLine r (r.functionPrefix ++ f.name) = ⟨testDepth r, signature r f.name⟩ := by
    simp [openingLine, signature, String.append_assoc]
  refine ⟨by simp [hstart, hname], written r.indentSize ((testBody r f).map (⟨testDepth r + 1, ·⟩)), ?_⟩
  rw [toList_renderTest, testLayout, written_cons, hopening]

/-- A hook stands in a class, as deep as the tests there. -/
theorem defines_renderHook (hwrap : r.wrapInClass = true) (hname : '\n' ∉ name.toList) :
    Defines r name (renderHook r name).toList := by
  refine ⟨hname, written r.indentSize [⟨2, "return"⟩], ?_⟩
  have hopening : openingLine r name = ⟨1, "def " ++ name ++ "(self):"⟩ := by
    simp [openingLine, testDepth, testParameters, hwrap, String.append_assoc]
  rw [toList_renderHook, hookLayout, written_cons, hopening]

end Defines

/-! ## §2. All names -/

/-- What a test module defines, in order: perhaps a hook, the tests, perhaps a hook. -/
def definedNames (m : SourceModule) (r : RenderSettings) : List String :=
  (if r.emitsSetUp then ["setUp"] else [])
    ++ m.functions.map (r.functionPrefix ++ ·.name)
    ++ (if r.emitsTearDown then ["tearDown"] else [])

section Names

variable {m : SourceModule} {r : RenderSettings}

/-- The text defines the name and no other. -/
def DefinesOnly (r : RenderSettings) (name : String) (text : List Char) : Prop :=
  ∀ name', Defines r name' text ↔ name' = name

/-- Each hook that is emitted defines its name. -/
theorem definesOnly_hook {emits : Bool} (hwrap : emits = true → r.wrapInClass = true) {name : String}
    (hname : '\n' ∉ name.toList) :
    List.Forall₂ (DefinesOnly r) (if emits then [name] else [])
      (if emits then [(renderHook r name).toList] else []) := by
  cases emits with
  | false => exact .nil
  | true => exact .cons (fun _ => (defines_renderHook (hwrap rfl) hname).iff) .nil

/-- Each test defines the name of its function behind the prefix. -/
theorem definesOnly_tests (hstart : '\n' ∉ r.functionPrefix.toList)
    (hnames : ∀ f ∈ m.functions, '\n' ∉ f.name.toList) :
    List.Forall₂ (DefinesOnly r) (m.functions.map (r.functionPrefix ++ ·.name))
      (m.functions.map fun f => (renderTest r f).toList) := by
  rw [List.forall₂_map_left_iff, List.forall₂_map_right_iff, List.forall₂_same]
  exact fun f hf _ => (defines_renderTest hstart (hnames f hf)).iff

/-- The tests have different names exactly if the functions have. -/
theorem nodup_prefixed_iff :
    (m.functions.map (r.functionPrefix ++ ·.name)).Nodup ↔ (m.functions.map (·.name)).Nodup := by
  have hinjective : Function.Injective fun name : String => r.functionPrefix ++ name :=
    fun name name' h => by simpa using h
  rw [show m.functions.map (r.functionPrefix ++ ·.name)
      = (m.functions.map (·.name)).map (r.functionPrefix ++ ·) by simp]
  exact List.nodup_map_iff hinjective

/-- **No definition replaces another** exactly if no two functions have the same name and the prefix
    makes no name of a hook. -/
theorem nodup_definedNames_iff :
    (m.definedNames r).Nodup
      ↔ (m.functions.map (·.name)).Nodup
        ∧ (r.emitsSetUp = true → ∀ f ∈ m.functions, r.functionPrefix ++ f.name ≠ "setUp")
        ∧ (r.emitsTearDown = true → ∀ f ∈ m.functions, r.functionPrefix ++ f.name ≠ "tearDown") := by
  rw [← nodup_prefixed_iff (r := r)]
  unfold definedNames
  cases r.emitsSetUp <;> cases r.emitsTearDown <;> simp [List.nodup_append]
  · exact and_comm
  · exact and_left_comm

/-- Two classes with a method of the same name: the second test replaces the first. -/
theorem definedNames_two_classes :
    let m : SourceModule :=
      { SourceModule.ofPath "shapes.py" with
        functions := [⟨.ofClass "Disc", "area", placeholderDocstring⟩,
          ⟨.ofClass "Cube", "area", placeholderDocstring⟩] }
    scan "class Disc:\n  def area(self):\n    pass\nclass Cube:\n  def area(self):\n    pass\n"
        = .ok m.functions
      ∧ m.render {} = "import unittest\n\nclass TestCase(unittest.TestCase):\n\n"
          ++ "  def setUp(self):\n    return\n\n"
          ++ "  def test_area(self):\n    assert True\n    return\n\n"
          ++ "  def test_area(self):\n    assert True\n    return\n\n"
          ++ "  def tearDown(self):\n    return\n"
      ∧ ¬(m.definedNames {}).Nodup :=
  ⟨eq_ok_of_toOption (by decide +kernel), by decide +kernel, by decide⟩

/-- **The names of a test module of a source.**  After the imports and the line of the class the text
    is one definition per hook and per function that was found, in order, each behind a blank line;
    where no function was found, a blank line stands for the tests.  The test of a function has its
    name behind the prefix, whatever its class.  The names are all different exactly if the source
    has no name twice and the prefix makes no name of a hook. -/
theorem defined_once_iff {source : String} (hscan : scan source = .ok m.functions)
    (hstart : '\n' ∉ r.functionPrefix.toList) :
    let before := if r.emitsSetUp then ["setUp"] else []
    let tested := m.functions.map (r.functionPrefix ++ ·.name)
    let behind := if r.emitsTearDown then ["tearDown"] else []
    (∃ opening tests closing : List (List Char),
        (m.render r).toList
          = heading r ++ (opening.flatMap ('\n' :: ·)
            ++ ((if tests = [] then ['\n'] else tests.flatMap ('\n' :: ·))
              ++ closing.flatMap ('\n' :: ·)))
        ∧ List.Forall₂ (DefinesOnly r) before opening ∧ List.Forall₂ (DefinesOnly r) tested tests
        ∧ List.Forall₂ (DefinesOnly r) behind closing)
      ∧ ((before ++ tested ++ behind).Nodup
        ↔ (m.functions.map (·.name)).Nodup
          ∧ (r.emitsSetUp = true → ∀ f ∈ m.functions, r.functionPrefix ++ f.name ≠ "setUp")
          ∧ (r.emitsTearDown = true → ∀ f ∈ m.functions, r.functionPrefix ++ f.name ≠ "tearDown")) := by
  intro before tested behind
  have hnames : ∀ f ∈ m.functions, '\n' ∉ f.name.toList :=
    fun f hf => newline_not_mem_of_mem_scan hscan hf
  have hhooks : (r.emitsSetUp = true → r.wrapInClass = true)
      ∧ (r.emitsTearDown = true → r.wrapInClass = true) := by
    simp only [RenderSettings.emitsSetUp, RenderSettings.emitsTearDown, Bool.and_eq_true]
    exact ⟨fun h => h.1.1, fun h => h.1.1⟩
  refine ⟨⟨_, _, _, ?_, definesOnly_hook hhooks.1 (by decide), definesOnly_tests hstart hnames,
    definesOnly_hook hhooks.2 (by decide)⟩, nodup_definedNames_iff⟩
  rw [render_parts]
  cases r.emitsSetUp <;> cases r.emitsTearDown <;> simp [List.flatMap_map]

end Names

/-- With this prefix the test of `Up` replaces the hook before it; behind another one it does not. -/
theorem defined_once_iff_up :
    let m : SourceModule :=
      { SourceModule.ofPath "dial.py" with
        functions := [⟨.module, "Up", placeholderDocstring⟩,
          ⟨.ofClass "Dial", "turn", placeholderDocstring⟩] }
    scan "def Up():\n  pass\nclass Dial:\n  def turn(self):\n    pass\n" = .ok m.functions
      ∧ ¬["setUp", "setUp", "setturn", "tearDown"].Nodup
      ∧ ["setUp", "test_Up", "test_turn", "tearDown"].Nodup := by
  intro m
  have hscan : scan "def Up():\n  pass\nclass Dial:\n  def turn(self):\n    pass\n"
      = .ok m.functions := eq_ok_of_toOption (by decide +kernel)
  have hset := (defined_once_iff (r := { functionPrefix := "set" }) hscan (by decide)).2
  have htest := (defined_once_iff (r := {}) hscan (by decide)).2
  exact ⟨hscan, fun h => absurd (hset.mp h) (by decide), htest.mpr (by decide)⟩

end TestScaffold.SourceModule
