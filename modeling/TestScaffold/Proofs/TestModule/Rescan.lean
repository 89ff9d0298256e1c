/-
  TestScaffold.Proofs.TestModule.Rescan — test modules are read back as what was written.

  A test module is put together out of texts of whole statements.  `Writes` says of such a
  text which functions are found in it, and follows how texts are put together:

    * `Writes.append`, `Writes.flatMap` — texts in the same column;
    * `writes_simple`, `writes_block` — one line, and a block below a header;
    * `scan_of_writes` — what is found in a text that stands at the left margin;
    * `render_chars` — a test module as imports, perhaps the line of a class, and members;
    * `scan_render` — the functions of a test module.
-/
import TestScaffold.Proofs.Catalogue.Classification
import TestScaffold.Proofs.Text.Split

namespace TestScaffold

open Python Python.Outline

/-! ## §1. Texts of whole statements -/

/-- The text is that of statements in a column, nested no deeper than `depth`; `found` are the
    functions that are found in it, given the scope around. -/
def Writes (width column depth : Nat) (text : List Char) (found : Option Scope → List Function) :
    Prop :=
  ∃ items : List Item, text = items.flatMap (fun item => item.chars width column ++ ['\n'])
    ∧ (∀ item ∈ items, item.depth ≤ depth)
    ∧ ∀ around, items.flatMap (·.functions around) = found around

section Writes

variable {width column depth : Nat}

theorem Writes.nil : Writes width column depth [] (fun _ => []) :=
  ⟨[], rfl, by simp, fun _ => rfl⟩

theorem Writes.append {first later : List Char} {found found' : Option Scope → List Function}
    (h : Writes width column depth first found) (h' : Writes width column depth later found') :
    Writes width column depth (first ++ later) (fun around => found around ++ found' around) := by
  obtain ⟨items, rfl, hdepth, hfound⟩ := h
  obtain ⟨items', rfl, hdepth', hfound'⟩ := h'
  refine ⟨items ++ items', by simp, ?_, ?_⟩
  · intro item hitem
    rcases List.mem_append.mp hitem with hitem | hitem
    · exact hdepth item hitem
    · exact hdepth' item hitem
  · intro around
    rw [List.flatMap_append, hfound, hfound']

theorem Writes.flatMap {α : Type} {parts : List α} {text : α → List Char}
    {found : α → Option Scope → List Function}
    (h : ∀ a ∈ parts, Writes width column depth (text a) (found a)) :
    Writes width column depth (parts.flatMap text) (fun around => parts.flatMap (found · around)) := by
  induction parts with
  | nil => exact .nil
  | cons a parts ih =>
      exact (h a List.mem_cons_self).append (ih fun b hb => h b (List.mem_cons_of_mem a hb))

theorem Writes.flatMap_none {α : Type} {parts : List α} {text : α → List Char}
    (h : ∀ a ∈ parts, Writes width column depth (text a) (fun _ => [])) :
    Writes width column depth (parts.flatMap text) (fun _ => []) := by
  have hnone : (parts.flatMap fun _ => ([] : List Function)) = [] := by simp
  have hall := Writes.flatMap h
  rw [hnone] at hall
  exact hall

theorem Writes.mono {depth' : Nat} {text : List Char} {found : Option Scope → List Function}
    (h : Writes width column depth text found) (hle : depth ≤ depth') :
    Writes width column depth' text found := by
  obtain ⟨items, htext, hdepth, hfound⟩ := h
  exact ⟨items, htext, fun item hitem => Nat.le_trans (hdepth item hitem) hle, hfound⟩

/-- One line, in which no function is found. -/
theorem writes_simple (line : Simple) :
    Writes width column depth (List.replicate column ' ' ++ line.line.chars ++ ['\n']) (fun _ => []) := by
  refine ⟨[.simple 0 line], by simp [Item.chars, gapTo], ?_, fun _ => rfl⟩
  intro item hitem
  rw [List.mem_singleton.mp hitem]
  exact Nat.zero_le _

theorem chars_ofList_ended (items : List Item) (h : items ≠ []) :
    (Items.ofList items h).chars width column ++ ['\n']
      = items.flatMap (fun item => item.chars width column ++ ['\n']) := by
  rw [Items.chars_ofList, Text.intercalate_append_self ['\n'] (by simpa using h), List.flatMap_map]

/-- **A block below its header**: the header finds its own function, and the block is within it. -/
theorem writes_block (blanks : Nat) (head : Head) {text : List Char}
    {found : Option Scope → List Function}
    (h : Writes width (column + width) depth text found) (hne : text ≠ []) :
    Writes width column (depth + 1)
      (gapTo blanks column ++ (head.chars column ++ '\n' :: text))
      (fun around => (head.function? around).toList ++ found (head.within around)) := by
  obtain ⟨items, rfl, hdepth, hfound⟩ := h
  have hitems : items ≠ [] := by
    rintro rfl
    exact hne rfl
  refine ⟨[.compound blanks head (Items.ofList items hitems)], ?_, ?_, ?_⟩
  · simp [Item.chars, ← chars_ofList_ended items hitems]
  · intro item hitem
    obtain ⟨deepest, hmem, hdeepest⟩ := Items.depth_ofList items hitems
    rw [List.mem_singleton.mp hitem, Item.depth, hdeepest]
    exact Nat.succ_le_succ (hdepth deepest hmem)
  · intro around
    simp [Item.functions, Items.functions_ofList, hfound]

/-- **A text at the left margin** is read without a fault. -/
theorem scan_of_writes (hwidth : 0 < width) (hdeep : width * depth < columnModulus)
    {source : String} {found : Option Scope → List Function}
    (h : Writes width 0 depth source.toList found) (hne : source.toList ≠ []) :
    scan source = .ok (found (some .module)) := by
  obtain ⟨items, htext, hdepth, hfound⟩ := h
  have hitems : items ≠ [] := by
    rintro rfl
    exact hne htext
  obtain ⟨deepest, hmem, hdeepest⟩ := Items.depth_ofList items hitems
  have hbound : width * (Items.ofList items hitems).depth ≤ width * depth := by
    rw [hdeepest]
    exact Nat.mul_le_mul_left width (hdepth deepest hmem)
  have hscan := scan_items hwidth (Items.ofList items hitems) (Nat.lt_of_le_of_lt hbound hdeep) 1
  have hsource : (Items.ofList items hitems).chars width 0 ++ List.replicate 1 '\n' = source.toList := by
    rw [htext]
    exact chars_ofList_ended items hitems
  rw [hsource, String.ofList_toList, Items.functions_ofList, hfound] at hscan
  exact hscan

end Writes

/-! ## §2. Statements of a test module -/

section Statements

variable {width column : Nat}

/-- The header of a function without a decorator. -/
theorem chars_function (name : Identifier) (isMethod : Bool) :
    (Head.function none false name isMethod).chars column
      = ("def " ++ name.text ++ (if isMethod then "(self):" else "():")).toList := by
  cases isMethod with
  | false =>
      show "def".toList ++ ([' '] ++ name.text.toList ++ ['(', ')', ':']) = _
      simp
  | true =>
      show "def".toList ++ ([' '] ++ name.text.toList ++ ("(self):".toList)) = _
      simp

/-- The function that a definition of that name is found as. -/
def foundAs (name : String) (around : Option Scope) : List Function :=
  if Text.isDunder name then []
  else (around.map fun scope => { scope, name, docstring := placeholderDocstring }).toList

/-- A definition after a blank line, with simple lines below it. -/
theorem writes_definition (width column : Nat) {name : String} (hname : isIdentifier name = true) (isMethod : Bool)
    {lines : List Simple} (hlines : lines ≠ []) :
    Writes width column 1
      ('\n' :: (List.replicate column ' '
        ++ (("def " ++ name ++ (if isMethod then "(self):" else "():")).toList
          ++ '\n' :: lines.flatMap fun line =>
            List.replicate (column + width) ' ' ++ line.line.chars ++ ['\n'])))
      (foundAs name) := by
  obtain ⟨line, rest, rfl⟩ := List.exists_cons_of_ne_nil hlines
  have hbody : Writes width (column + width) 0 ((line :: rest).flatMap fun line =>
      List.replicate (column + width) ' ' ++ line.line.chars ++ ['\n']) (fun _ => []) :=
    Writes.flatMap_none fun line _ => writes_simple line
  have hblock := writes_block 1 (.function none false (Identifier.ofText name hname) isMethod) hbody
    (by simp)
  have hfound : (fun around => ((Head.function none false (Identifier.ofText name hname)
      isMethod).function? around).toList ++ []) = foundAs name := by
    funext around
    rw [List.append_nil]
    show (if Text.isDunder name then none else around.map _).toList = _
    unfold foundAs
    split <;> rfl
  rw [hfound, chars_function] at hblock
  exact hblock

/-- Whether a text is a sequence of identifiers with dots between them. -/
def isDotted (text : String) : Bool :=
  (Text.splitSep '.' text.toList).all fun part => isIdentifier (String.ofList part)

theorem identifiers_of_all {parts : List (List Char)}
    (h : parts.all (fun part => isIdentifier (String.ofList part)) = true) :
    ∃ names : List Identifier, names.map (·.text.toList) = parts := by
  induction parts with
  | nil => exact ⟨[], rfl⟩
  | cons part parts ih =>
      obtain ⟨hpart, hparts⟩ := Bool.and_eq_true_iff.mp (List.all_cons ▸ h)
      obtain ⟨names, hnames⟩ := ih hparts
      refine ⟨Identifier.ofText _ hpart :: names, ?_⟩
      rw [List.map_cons, hnames]
      exact congrArg (· :: parts) String.toList_ofList

/-- A line that imports a package. -/
theorem writes_import {package : String} (h : isDotted package = true) :
    Writes width 0 0 ("import " ++ package ++ "\n").toList (fun _ => []) := by
  obtain ⟨names, hnames⟩ := identifiers_of_all h
  obtain ⟨first, rest, rfl⟩ : ∃ first rest, names = first :: rest := by
    refine List.exists_cons_of_ne_nil ?_
    rintro rfl
    exact Text.splitSep_ne_nil '.' package.toList hnames.symm
  have hpackage : package.toList = first.text.toList ++ rest.flatMap ('.' :: ·.text.toList) := by
    have hjoin := Text.append_intercalate_self ['.'] (Text.splitSep_ne_nil '.' package.toList)
    rw [Text.intercalate_splitSep, ← hnames] at hjoin
    simpa [List.flatMap_map] using hjoin
  have hline : Writes width 0 0 _ _ := writes_simple (.importing first rest)
  have hdots : Line.charsAfter (dotted rest) = rest.flatMap ('.' :: ·.text.toList) := by
    simp [Line.charsAfter, dotted, List.flatMap_assoc, spacing, Word.chars, Identifier.word, Mark.char]
  have htext : List.replicate 0 ' ' ++ (Simple.importing first rest).line.chars ++ ['\n']
      = ("import " ++ package ++ "\n").toList := by
    show [] ++ ("import".toList ++ ([' '] ++ first.text.toList ++ Line.charsAfter (dotted rest)))
      ++ ['\n'] = _
    rw [hdots]
    simp [hpackage]
  rw [htext] at hline
  exact hline

end Statements

/-! ## §3. Parts of a test module -/

namespace SourceModule

/-- What stands inside the class, or at the left margin if there is none: names and texts. -/
def members (m : SourceModule) (r : RenderSettings) : List (String × String) :=
  (if r.emitsSetUp then [("setUp", renderHook r "setUp")] else [])
    ++ m.functions.map (fun f => (r.functionPrefix ++ f.name, renderTest r f))
    ++ (if r.emitsTearDown then [("tearDown", renderHook r "tearDown")] else [])

/-- The packages that are imported. -/
def imported (r : RenderSettings) : List String :=
  r.importPackages ++ (if r.importsFramework then [] else [r.framework.moduleName])

/-- The line that opens the class. -/
def classLine (r : RenderSettings) : String :=
  match r.framework.baseClass? with
  | some base => "class " ++ r.className ++ "(" ++ base ++ "):\n"
  | none => "class " ++ r.className ++ ":\n"

/-- The tests with a line feed between them, and one before the first. -/
theorem intercalate_tests {r : RenderSettings} {fs : List Function} (hne : fs ≠ []) :
    '\n' :: (String.intercalate "\n" (fs.map (renderTest r))).toList
      = fs.flatMap (fun f => '\n' :: (renderTest r f).toList) := by
  have hsome : (fs.map (renderTest r)).map String.toList ≠ [] := by simpa using hne
  have hjoin := Text.append_intercalate_self ['\n'] hsome
  rw [List.flatMap_map, List.flatMap_map] at hjoin
  rw [String.toList_intercalate]
  exact hjoin

/-- What stands before the definitions: the imports, and the line of the class behind a blank line. -/
def heading (r : RenderSettings) : List Char :=
  (imported r).flatMap (fun package => ("import " ++ package ++ "\n").toList)
    ++ (if r.wrapInClass then '\n' :: (classLine r).toList else [])

/-- **A test module by its parts**: the heading, perhaps a hook, the tests, perhaps a hook; a blank line
    stands before each, and one in place of the tests if there are none. -/
theorem render_parts (m : SourceModule) (r : RenderSettings) :
    (m.render r).toList
      = heading r ++ ((if r.emitsSetUp then '\n' :: (renderHook r "setUp").toList else [])
        ++ ((if m.functions = [] then ['\n']
            else m.functions.flatMap (fun f => '\n' :: (renderTest r f).toList))
          ++ (if r.emitsTearDown then '\n' :: (renderHook r "tearDown").toList else []))) := by
  have himports : (renderImports r).toList
      = (imported r).flatMap (fun package => ("import " ++ package ++ "\n").toList) ++ ['\n'] := by
    unfold renderImports imported
    cases r.importsFramework <;> simp [List.flatMap_map]
  have hheader : renderClassHeader r = classLine r ++ "\n" := by
    unfold renderClassHeader classLine
    cases r.framework.baseClass? <;> simp [String.append_assoc]
  have htests : '\n' :: (String.intercalate "\n" (m.functions.map (renderTest r))).toList
      = if m.functions = [] then ['\n']
        else m.functions.flatMap (fun f => '\n' :: (renderTest r f).toList) := by
    split
    · rename_i hnil
      rw [hnil]
      rfl
    · rename_i hne
      exact intercalate_tests hne
  unfold render heading
  rw [← htests, hheader]
  simp only [String.toList_append, himports]
  cases r.wrapInClass <;> cases r.emitsSetUp <;> cases r.emitsTearDown <;> simp

/-- With functions, a test module is its heading and its members, each behind a blank line. -/
theorem render_chars (m : SourceModule) (r : RenderSettings) (hne : m.functions ≠ []) :
    (m.render r).toList
      = (imported r).flatMap (fun package => ("import " ++ package ++ "\n").toList)
        ++ ((if r.wrapInClass then '\n' :: (classLine r).toList else [])
          ++ (m.members r).flatMap (fun member => '\n' :: member.2.toList)) := by
  rw [render_parts, if_neg hne]
  unfold heading members
  cases r.emitsSetUp <;> cases r.emitsTearDown <;> simp [List.flatMap_map]

/-- The column of the members. -/
def memberColumn (r : RenderSettings) : Nat :=
  if r.wrapInClass then r.indentSize else 0

theorem isPlain_placeholderDocstring : placeholderDocstring.toList.all isPlain = true := by
  decide +kernel

/-- The line of a docstring. -/
def docstringLine? : DocstringMode → Option Simple
  | .source => some (.quoting placeholderDocstring.toList isPlain_placeholderDocstring)
  | .empty => some (.quoting [] rfl)
  | .none => none

/-- The lines of a test. -/
def testLines (r : RenderSettings) : List Simple :=
  (docstringLine? r.docstring).toList ++ [.asserting (r.outcome == .pass), .returning]

theorem renderDocstring?_eq {f : Function} (hdoc : f.docstring = placeholderDocstring)
    (r : RenderSettings) :
    (renderDocstring? r f).map String.toList = (docstringLine? r.docstring).map (·.line.chars) := by
  unfold renderDocstring?
  rw [hdoc]
  cases r.docstring <;> decide +kernel

/-- The body of a test, line by line. -/
theorem testBody_eq {r : RenderSettings} {f : Function} (hdoc : f.docstring = placeholderDocstring)
    (houtcome : r.outcome = .pass ∨ r.outcome = .fail) :
    ((renderDocstring? r f).toList ++ Text.lines r.outcome.statementText ++ ["return"]).map
        String.toList
      = (testLines r).map (·.line.chars) := by
  have hreturn : "return".toList = Simple.returning.line.chars := by decide +kernel
  have hassert : (Text.lines r.outcome.statementText).map String.toList
      = [(Simple.asserting (r.outcome == .pass)).line.chars] := by
    rcases houtcome with h | h
    all_goals
      rw [h]
      decide +kernel
  unfold testLines
  rw [List.map_append, List.map_append, hassert, List.map_append, ← Option.toList_map,
    renderDocstring?_eq hdoc, Option.toList_map]
  simp [hreturn]

theorem toList_join_lines (indent : String) (lines : List String) :
    (String.join (lines.map fun line => indent ++ line ++ "\n")).toList
      = (lines.map String.toList).flatMap fun line => indent.toList ++ line ++ ['\n'] := by
  rw [String.toList_join, List.flatMap_map, List.flatMap_map]
  simp

/-- **A test** is found under its own name. -/
theorem writes_test {r : RenderSettings} {f : Function} (hdoc : f.docstring = placeholderDocstring)
    (houtcome : r.outcome = .pass ∨ r.outcome = .fail)
    (hname : isIdentifier (r.functionPrefix ++ f.name) = true) :
    Writes r.indentSize (memberColumn r) 1 ('\n' :: (renderTest r f).toList)
      (foundAs (r.functionPrefix ++ f.name)) := by
  have hlines : testLines r ≠ [] := by simp [testLines]
  have hdefinition := writes_definition r.indentSize (memberColumn r) hname r.wrapInClass hlines
  have houter : (if r.wrapInClass then r.indentUnit else "").toList
      = List.replicate (memberColumn r) ' ' := by
    unfold memberColumn RenderSettings.indentUnit
    cases r.wrapInClass <;> simp
  have hinner : ((if r.wrapInClass then r.indentUnit else "") ++ r.indentUnit).toList
      = List.replicate (memberColumn r + r.indentSize) ' ' := by
    rw [String.toList_append, houter, RenderSettings.indentUnit, String.toList_ofList,
      List.replicate_append_replicate]
  have htext : '\n' :: (renderTest r f).toList
      = '\n' :: (List.replicate (memberColumn r) ' '
        ++ (("def " ++ (r.functionPrefix ++ f.name)
            ++ (if r.wrapInClass then "(self):" else "():")).toList
          ++ '\n' :: (testLines r).flatMap fun line =>
            List.replicate (memberColumn r + r.indentSize) ' ' ++ line.line.chars ++ ['\n'])) := by
    unfold renderTest
    simp only [String.toList_append (t := String.join _), toList_join_lines,
      testBody_eq hdoc houtcome, hinner, List.flatMap_map]
    simp only [String.toList_append, houter]
    cases r.wrapInClass <;> simp
  rw [htext]
  exact hdefinition

/-- A hook is found under its own name. -/
theorem writes_hook {r : RenderSettings} (hwrap : r.wrapInClass = true) {name : String}
    (hname : isIdentifier name = true) :
    Writes r.indentSize (memberColumn r) 1 ('\n' :: (renderHook r name).toList) (foundAs name) := by
  have hdefinition := writes_definition r.indentSize (memberColumn r) hname true
    (List.cons_ne_nil Simple.returning [])
  have hcolumn : memberColumn r = r.indentSize := by
    rw [memberColumn, hwrap]
    rfl
  have hreturn : Simple.returning.line.chars = "return".toList := by decide +kernel
  have htext : '\n' :: (renderHook r name).toList
      = '\n' :: (List.replicate (memberColumn r) ' ' ++ (("def " ++ name ++ "(self):").toList
          ++ '\n' :: [Simple.returning].flatMap fun line =>
            List.replicate (memberColumn r + r.indentSize) ' ' ++ line.line.chars ++ ['\n'])) := by
    unfold renderHook RenderSettings.indentUnit
    rw [List.flatMap_singleton, hreturn, hcolumn, ← List.replicate_append_replicate]
    simp
  rw [htext]
  exact hdefinition

/-- The header of the class. -/
def classHead (r : RenderSettings) (hname : isIdentifier r.className = true) : Head :=
  .klass none (Identifier.ofText r.className hname)
    (match r.framework with
      | .unittest => some (⟨"unittest", rfl, rfl⟩, ⟨"TestCase", rfl, rfl⟩)
      | .pytest => none)

theorem classLine_chars (r : RenderSettings) (hname : isIdentifier r.className = true) :
    (classLine r).toList = (classHead r hname).chars 0 ++ ['\n'] := by
  unfold classLine classHead
  cases r.framework with
  | unittest =>
      show _ = "class".toList ++ ([' '] ++ r.className.toList ++ "(unittest.TestCase):".toList) ++ ['\n']
      simp [Framework.baseClass?]
  | pytest =>
      show _ = "class".toList ++ ([' '] ++ r.className.toList ++ [':']) ++ ['\n']
      simp [Framework.baseClass?]

/-! ## §4. Test modules -/

/-- Settings under which the test module is Python: names are names, tests only assert, and lines are
    indented but not too far. -/
structure Renderable (m : SourceModule) (r : RenderSettings) : Prop where
  /-- Blocks are indented. -/
  indented : 0 < r.indentSize
  /-- The columns of a test in a class can be told apart. -/
  narrow : 2 * r.indentSize < columnModulus
  /-- The tests run no statement of the user's own. -/
  asserts : r.outcome = .pass ∨ r.outcome = .fail
  /-- Packages can be imported. -/
  packages : ∀ package ∈ r.importPackages, isDotted package = true
  /-- The class has a name. -/
  className : isIdentifier r.className = true
  /-- The tests have names. -/
  tests : ∀ f ∈ m.functions, isIdentifier (r.functionPrefix ++ f.name) = true

/-- The tests and hooks of a test module that are found in it again. -/
def testNames (m : SourceModule) (r : RenderSettings) : List String :=
  (if r.emitsSetUp then ["setUp"] else [])
    ++ (m.functions.map (r.functionPrefix ++ ·.name)).filter (!Text.isDunder ·)
    ++ (if r.emitsTearDown then ["tearDown"] else [])

/-- The scope of the tests. -/
def testScope (r : RenderSettings) : Scope :=
  if r.wrapInClass then .ofClass r.className else .module

section Found

variable {m : SourceModule} {r : RenderSettings}

/-- Every member is written under its name. -/
theorem writes_members (h : m.Renderable r)
    (hdoc : ∀ f ∈ m.functions, f.docstring = placeholderDocstring) :
    Writes r.indentSize (memberColumn r) 1
      ((m.members r).flatMap fun member => '\n' :: member.2.toList)
      (fun around => (m.members r).flatMap fun member => foundAs member.1 around) := by
  suffices hall : ∀ member ∈ m.members r, Writes r.indentSize (memberColumn r) 1
      ('\n' :: member.2.toList) (foundAs member.1) from Writes.flatMap hall
  intro member hmember
  simp only [members, List.mem_append] at hmember
  rcases hmember with (hsetUp | htest) | htearDown
  · split at hsetUp
    · rename_i hemits
      rw [List.mem_singleton.mp hsetUp]
      simp only [RenderSettings.emitsSetUp, Bool.and_eq_true] at hemits
      exact writes_hook hemits.1.1 (by decide +kernel)
    · exact absurd hsetUp List.not_mem_nil
  · obtain ⟨f, hf, rfl⟩ := List.mem_map.mp htest
    exact writes_test (hdoc f hf) h.asserts (h.tests f hf)
  · split at htearDown
    · rename_i hemits
      rw [List.mem_singleton.mp htearDown]
      simp only [RenderSettings.emitsTearDown, Bool.and_eq_true] at hemits
      exact writes_hook hemits.1.1 (by decide +kernel)
    · exact absurd htearDown List.not_mem_nil

/-- Every package is imported on a line of its own. -/
theorem writes_imported (h : m.Renderable r) :
    Writes r.indentSize 0 0
      ((imported r).flatMap fun package => ("import " ++ package ++ "\n").toList) (fun _ => []) := by
  have hpackages : ∀ package ∈ imported r, isDotted package = true := by
    intro package hpackage
    rcases List.mem_append.mp hpackage with hpackage | hframework
    · exact h.packages package hpackage
    · split at hframework
      · exact absurd hframework List.not_mem_nil
      · rw [List.mem_singleton.mp hframework]
        cases r.framework <;> decide +kernel
  exact Writes.flatMap_none fun package hpackage => writes_import (hpackages package hpackage)

/-- **A test module** is text of whole statements, with its members in the scope of the tests. -/
theorem writes_render (h : m.Renderable r)
    (hdoc : ∀ f ∈ m.functions, f.docstring = placeholderDocstring) (hne : m.functions ≠ []) :
    ∃ found, Writes r.indentSize 0 2 (m.render r).toList found
      ∧ found (some .module)
        = (m.members r).flatMap fun member => foundAs member.1 (some (testScope r)) := by
  have himports := writes_imported h
  have hmembers := writes_members h hdoc
  rw [render_chars m r hne]
  unfold testScope
  cases hwrap : r.wrapInClass with
  | false =>
      -- the members stand at the left margin
      have hcolumn : memberColumn r = 0 := by
        rw [memberColumn, hwrap]
        rfl
      rw [hcolumn] at hmembers
      exact ⟨_, (himports.mono (Nat.zero_le 2)).append (hmembers.mono (by decide)), rfl⟩
  | true =>
      -- the members are the block of the class
      have hcolumn : memberColumn r = 0 + r.indentSize := by
        rw [memberColumn, hwrap, Nat.zero_add]
        rfl
      rw [hcolumn] at hmembers
      have hsome : m.members r ≠ [] := by simp [members, hne]
      obtain ⟨member, rest, hcons⟩ := List.exists_cons_of_ne_nil hsome
      have hclass := writes_block 1 (classHead r h.className) hmembers (by simp [hcons])
      have htext : gapTo 1 0 ++ ((classHead r h.className).chars 0
            ++ '\n' :: (m.members r).flatMap fun member => '\n' :: member.2.toList)
          = '\n' :: (classLine r).toList
            ++ (m.members r).flatMap fun member => '\n' :: member.2.toList := by
        rw [classLine_chars r h.className]
        simp [gapTo]
      rw [htext] at hclass
      exact ⟨_, (himports.mono (Nat.zero_le 2)).append hclass, rfl⟩

theorem flatMap_foundAs (scope : Scope) (names : List String) :
    names.flatMap (foundAs · (some scope))
      = (names.filter (!Text.isDunder ·)).map fun name =>
          { scope, name, docstring := placeholderDocstring } := by
  induction names with
  | nil => rfl
  | cons name names ih =>
      rw [List.flatMap_cons, ih, foundAs]
      cases hdunder : Text.isDunder name <;> simp [hdunder]

theorem filter_members :
    ((m.members r).map (·.1)).filter (!Text.isDunder ·) = m.testNames r := by
  have hsetUp : Text.isDunder "setUp" = false := by decide +kernel
  have htearDown : Text.isDunder "tearDown" = false := by decide +kernel
  unfold members testNames
  cases r.emitsSetUp <;> cases r.emitsTearDown <;>
    simp [hsetUp, htearDown, Function.comp_def]

/-- **A test module is read back as what was written**: it is Python, and the functions found in it
    are its hooks and the tests of all functions, in order, but for tests with special names. -/
theorem scan_render {source : String} (hscan : scan source = .ok m.functions)
    (hne : m.functions ≠ []) (h : m.Renderable r) :
    scan (m.render r) = .ok ((m.testNames r).map fun name =>
      { scope := testScope r, name, docstring := placeholderDocstring }) := by
  have hdoc : ∀ f ∈ m.functions, f.docstring = placeholderDocstring :=
    fun f hf => docstring_of_mem_scan hscan hf
  obtain ⟨found, hwrites, hfound⟩ := writes_render h hdoc hne
  have hnarrow : r.indentSize * 2 < columnModulus := by
    rw [Nat.mul_comm]
    exact h.narrow
  have htext : (m.render r).toList ≠ [] := by
    obtain ⟨f, rest, hcons⟩ := List.exists_cons_of_ne_nil hne
    rw [render_chars m r hne]
    simp [members, hcons]
  rw [scan_of_writes h.indented hnarrow hwrites htext, hfound, ← filter_members,
    ← flatMap_foundAs, List.flatMap_map]

end Found

/-- With this prefix the test of `total__` gets a special name, and is not found again. -/
theorem scan_render_special :
    let m : SourceModule :=
      { name := "cart", fileName := "cart.py", baseDir := ""
        functions := [⟨.module, "load", placeholderDocstring⟩,
          ⟨.ofClass "Cart", "total__", placeholderDocstring⟩] }
    let r : RenderSettings :=
      { importPackages := ["os.path"], functionPrefix := "__", docstring := .source
        className := "CartTest" }
    scan "def load():\n  pass\nclass Cart:\n  def total__():\n    pass\n" = .ok m.functions
      ∧ m.render r
        = "import os.path\nimport unittest\n\nclass CartTest(unittest.TestCase):\n\n"
          ++ "  def setUp(self):\n    return\n\n"
          ++ "  def __load(self):\n    \"\"\"function docstring\"\"\"\n    assert True\n    return\n\n"
          ++ "  def __total__(self):\n    \"\"\"function docstring\"\"\"\n    assert True\n    return\n\n"
          ++ "  def tearDown(self):\n    return\n"
      ∧ scan (m.render r) = .ok [⟨.ofClass "CartTest", "setUp", placeholderDocstring⟩,
          ⟨.ofClass "CartTest", "__load", placeholderDocstring⟩,
          ⟨.ofClass "CartTest", "tearDown", placeholderDocstring⟩] := by
  intro m r
  have hscan : scan "def load():\n  pass\nclass Cart:\n  def total__():\n    pass\n"
      = .ok m.functions := eq_ok_of_toOption (by decide +kernel)
  have hr : m.Renderable r :=
    { indented := by decide
      narrow := by decide
      asserts := .inl rfl
      packages := by decide +kernel
      className := by decide +kernel
      tests := by decide +kernel }
  refine ⟨hscan, by decide +kernel, (scan_render hscan (by simp [m]) hr).trans ?_⟩
  exact congrArg Except.ok (by decide +kernel)

end SourceModule

end TestScaffold
