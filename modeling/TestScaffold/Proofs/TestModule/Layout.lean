/-
  TestScaffold.Proofs.TestModule.Layout — a test module line by line.

  A test module is a list of lines, each a text behind some steps of indentation.  The
  lines and their depths do not depend on the width of a step.

    * `IndentedLine`, `written` — lines, and their text at a width;
    * `split_written` — splitting at line feeds gives the lines back;
    * `SourceModule.layout` — the lines of a test module, test by test;
    * `toList_render` — a test module is its lines, written at its width;
    * `split_render` — its lines, its blank lines and its end.
-/
import TestScaffold.Proofs.TestModule.Rescan
import TestScaffold.Proofs.Text.Lists

namespace TestScaffold

/-! ## §1. Parts with a separator -/

section Parts

variable {α β : Type} {sep : List α} {parts : List (List α)}

theorem map_intercalate (f : α → β) (sep : List α) (parts : List (List α)) :
    (sep.intercalate parts).map f = (sep.map f).intercalate (parts.map (·.map f)) := by
  induction parts with
  | nil => rfl
  | cons part parts ih =>
      cases parts with
      | nil => simp
      | cons next parts =>
          rw [List.map_cons] at ih
          rw [List.intercalate_cons_cons, List.map_append, List.map_append, ih, List.map_cons,
            List.map_cons, List.intercalate_cons_cons]

/-- Parts that end alike end so together. -/
theorem getLast?_intercalate {a : α} (hne : parts ≠ []) (h : ∀ part ∈ parts, part.getLast? = some a) :
    (sep.intercalate parts).getLast? = some a := by
  induction parts with
  | nil => exact absurd rfl hne
  | cons part parts ih =>
      cases parts with
      | nil =>
          rw [List.intercalate_singleton]
          exact h part List.mem_cons_self
      | cons next parts =>
          rw [List.intercalate_cons_cons, List.getLast?_append,
            ih (List.cons_ne_nil next parts) fun p hp => h p (List.mem_cons_of_mem part hp)]
          rfl

end Parts

/-! ## §2. Indented lines -/

/-- A line: the steps of indentation before it, and its text. -/
structure IndentedLine where
  /-- Steps of indentation. -/
  depth : Nat
  /-- What stands behind them. -/
  text : String
  deriving DecidableEq, Repr

namespace IndentedLine

/-- The line without characters. -/
def blank : IndentedLine := ⟨0, ""⟩

/-- The line at a width of the steps, without its line feed. -/
def chars (width : Nat) (l : IndentedLine) : List Char :=
  List.replicate (l.depth * width) ' ' ++ l.text.toList

@[simp] theorem chars_blank (width : Nat) : blank.chars width = [] := by
  rw [chars, blank, Nat.zero_mul]
  rfl

/-- Only the blank line has no characters, if a step is not empty. -/
theorem chars_eq_nil_iff {width : Nat} (hwidth : 0 < width) {l : IndentedLine} :
    l.chars width = [] ↔ l = blank := by
  obtain ⟨depth, text⟩ := l
  rw [chars, List.append_eq_nil_iff, List.replicate_eq_nil_iff, Nat.mul_eq_zero,
    String.toList_eq_nil_iff, blank, IndentedLine.mk.injEq]
  exact and_congr_left' (or_iff_left (Nat.ne_of_gt hwidth))

/-- A line without a line feed stays one at every width. -/
theorem newline_not_mem_chars {l : IndentedLine} (h : '\n' ∉ l.text.toList) (width : Nat) :
    '\n' ∉ l.chars width := by
  intro hmem
  rcases List.mem_append.mp hmem with hspace | htext
  · exact absurd (List.eq_of_mem_replicate hspace) (by decide)
  · exact h htext

end IndentedLine

/-- The text of lines at a width; every line ends with a line feed. -/
def written (width : Nat) (lines : List IndentedLine) : List Char :=
  lines.flatMap fun l => l.chars width ++ ['\n']

@[simp] theorem written_nil (width : Nat) : written width [] = [] := rfl

@[simp] theorem written_cons (width : Nat) (l : IndentedLine) (lines : List IndentedLine) :
    written width (l :: lines) = l.chars width ++ '\n' :: written width lines := by
  simp [written]

@[simp] theorem written_append (width : Nat) (first later : List IndentedLine) :
    written width (first ++ later) = written width first ++ written width later :=
  List.flatMap_append

/-- Blocks of lines with a blank line between them. -/
theorem written_intercalate (width : Nat) (blocks : List (List IndentedLine)) :
    written width ([IndentedLine.blank].intercalate blocks)
      = ['\n'].intercalate (blocks.map (written width)) := by
  induction blocks with
  | nil => rfl
  | cons block blocks ih =>
      cases blocks with
      | nil => simp
      | cons next blocks =>
          rw [List.map_cons] at ih
          rw [List.intercalate_cons_cons, written_append, written_append, ih, List.map_cons,
            List.map_cons, List.intercalate_cons_cons, written_cons, IndentedLine.chars_blank]
          rfl

/-- **Splitting gives the lines back**; nothing stands behind the last line feed. -/
theorem split_written {lines : List IndentedLine} (h : ∀ l ∈ lines, '\n' ∉ l.text.toList)
    (width : Nat) :
    Text.splitSep '\n' (written width lines) = lines.map (·.chars width) ++ [[]] := by
  induction lines with
  | nil => rfl
  | cons l lines ih =>
      have hline := IndentedLine.newline_not_mem_chars (h l List.mem_cons_self) width
      rw [written_cons, Text.splitSep_append, Text.splitSep_of_not_mem hline,
        ih fun m hm => h m (List.mem_cons_of_mem l hm)]
      rfl

/-- The lines of a text have no line feed. -/
theorem newline_not_mem_lines {text line : String} (h : line ∈ Text.lines text) :
    '\n' ∉ line.toList := by
  have hreturn : ∀ piece : List Char, '\n' ∉ piece → '\n' ∉ Text.dropReturn piece := by
    intro piece hpiece
    rw [Text.dropReturn]
    split
    · rename_i rest hrest
      intro hmem
      apply hpiece
      rw [← List.mem_reverse, hrest]
      exact List.mem_cons_of_mem _ (List.mem_reverse.mp hmem)
    · exact hpiece
  obtain ⟨cs, hcs, rfl⟩ := List.mem_map.mp h
  rw [String.toList_ofList]
  have hended : ∀ p ∈ (Text.splitSep '\n' text.toList).dropLast.map Text.dropReturn, '\n' ∉ p := by
    intro p hp
    obtain ⟨piece, hpiece, rfl⟩ := List.mem_map.mp hp
    exact hreturn piece (Text.not_mem_of_mem_splitSep (List.dropLast_subset _ hpiece))
  rw [Text.lineChars] at hcs
  split at hcs
  · exact hended cs hcs
  · exact hended cs hcs
  · rename_i last _ hlast
    rcases List.mem_append.mp hcs with hcs | hcs
    · exact hended cs hcs
    · rw [List.mem_singleton.mp hcs]
      exact Text.not_mem_of_mem_splitSep (List.mem_of_getLast? hlast)

/-! ## §3. The lines of a test module -/

namespace SourceModule

/-- The steps before the signature of a test. -/
def testDepth (r : RenderSettings) : Nat :=
  if r.wrapInClass then 1 else 0

/-- The parameters of a test. -/
def testParameters (r : RenderSettings) : String :=
  if r.wrapInClass then "(self)" else "()"

/-- The signature of the test of a name. -/
def signature (r : RenderSettings) (name : String) : String :=
  "def " ++ r.functionPrefix ++ name ++ testParameters r ++ ":"

/-- What stands below the signature: perhaps a docstring, the statement and a return. -/
def testBody (r : RenderSettings) (f : Function) : List String :=
  (match r.docstring with
    | .source => ["\"\"\"" ++ f.docstring ++ "\"\"\""]
    | .empty => ["\"\"\"\"\"\""]
    | .none => [])
    ++ Text.lines r.outcome.statementText ++ ["return"]

/-- The lines of a test. -/
def testLayout (r : RenderSettings) (f : Function) : List IndentedLine :=
  ⟨testDepth r, signature r f.name⟩ :: (testBody r f).map (⟨testDepth r + 1, ·⟩)

/-- The lines of a hook, which only stands in a class. -/
def hookLayout (name : String) : List IndentedLine :=
  [⟨1, "def " ++ name ++ "(self):"⟩, ⟨2, "return"⟩]

/-- The line that opens the class. -/
def classTitle (r : RenderSettings) : String :=
  match r.framework with
  | .unittest => "class " ++ r.className ++ "(unittest.TestCase):"
  | .pytest => "class " ++ r.className ++ ":"

/-- The lines before the tests: imports, and perhaps a class and its first hook. -/
def headLayout (r : RenderSettings) : List IndentedLine :=
  (imported r).map (⟨0, "import " ++ ·⟩) ++ [.blank]
    ++ (if r.wrapInClass then [⟨0, classTitle r⟩, .blank] else [])
    ++ (if r.emitsSetUp then hookLayout "setUp" ++ [.blank] else [])

/-- The lines after the tests: perhaps the last hook. -/
def footLayout (r : RenderSettings) : List IndentedLine :=
  if r.emitsTearDown then .blank :: hookLayout "tearDown" else []

/-- The lines of a test module, with a blank line between two tests. -/
def layout (m : SourceModule) (r : RenderSettings) : List IndentedLine :=
  headLayout r ++ [IndentedLine.blank].intercalate (m.functions.map (testLayout r)) ++ footLayout r

section Written

variable (r : RenderSettings)

theorem toList_indentUnit : r.indentUnit.toList = List.replicate r.indentSize ' ' :=
  String.toList_ofList

theorem toList_outerIndent :
    (if r.wrapInClass then r.indentUnit else "").toList
      = List.replicate (testDepth r * r.indentSize) ' ' := by
  unfold testDepth
  cases r.wrapInClass
  · rw [if_neg Bool.false_ne_true, if_neg Bool.false_ne_true, Nat.zero_mul]
    rfl
  · rw [if_pos rfl, if_pos rfl, Nat.one_mul, toList_indentUnit]

theorem toList_innerIndent :
    ((if r.wrapInClass then r.indentUnit else "") ++ r.indentUnit).toList
      = List.replicate ((testDepth r + 1) * r.indentSize) ' ' := by
  rw [String.toList_append, toList_outerIndent, toList_indentUnit,
    List.replicate_append_replicate, Nat.succ_mul]

theorem toList_renderImports :
    (renderImports r).toList
      = written r.indentSize ((imported r).map (⟨0, "import " ++ ·⟩) ++ [.blank]) := by
  unfold renderImports imported
  rw [written_append, written_cons, IndentedLine.chars_blank]
  cases r.importsFramework <;> simp [written, List.flatMap_map, IndentedLine.chars]

theorem toList_renderClassHeader :
    (renderClassHeader r).toList = written r.indentSize [⟨0, classTitle r⟩, .blank] := by
  unfold renderClassHeader classTitle
  cases r.framework <;> simp [Framework.baseClass?] <;> simp [IndentedLine.chars]

theorem toList_renderHook (name : String) :
    (renderHook r name).toList = written r.indentSize (hookLayout name) := by
  simp [renderHook, hookLayout, IndentedLine.chars, toList_indentUnit, Nat.two_mul,
    ← List.replicate_append_replicate]

theorem testBody_rendered (f : Function) :
    (renderDocstring? r f).toList ++ Text.lines r.outcome.statementText ++ ["return"]
      = testBody r f := by
  unfold renderDocstring? testBody tripleQuote
  cases r.docstring <;> rfl

/-- **A test is its lines.** -/
theorem toList_renderTest (f : Function) :
    (renderTest r f).toList = written r.indentSize (testLayout r f) := by
  have hbody : (String.join ((testBody r f).map fun line =>
        (if r.wrapInClass then r.indentUnit else "") ++ r.indentUnit ++ line ++ "\n")).toList
      = written r.indentSize ((testBody r f).map (⟨testDepth r + 1, ·⟩)) := by
    rw [toList_join_lines, toList_innerIndent, written, List.flatMap_map, List.flatMap_map]
    rfl
  have hparameters : (if r.wrapInClass then "(self):\n" else "():\n") = testParameters r ++ ":\n" := by
    unfold testParameters
    cases r.wrapInClass <;> rfl
  rw [renderTest, testLayout, written_cons, ← hbody, testBody_rendered, hparameters]
  simp only [String.toList_append, toList_outerIndent, IndentedLine.chars, signature]
  simp

/-- **A test module is its lines**, written at its width. -/
theorem toList_render (m : SourceModule) :
    (m.render r).toList = written r.indentSize (layout m r) := by
  have htests : (String.intercalate "\n" (m.functions.map (renderTest r))).toList
      = written r.indentSize ([IndentedLine.blank].intercalate (m.functions.map (testLayout r))) := by
    rw [String.toList_intercalate, written_intercalate, List.map_map, List.map_map]
    exact congrArg _ (List.map_congr_left fun f _ => toList_renderTest r f)
  unfold render layout headLayout footLayout
  simp only [String.toList_append, written_append, htests, toList_renderImports]
  cases r.wrapInClass <;> cases r.emitsSetUp <;> cases r.emitsTearDown <;>
    simp [toList_renderClassHeader, toList_renderHook]

end Written

/-! ## §4. Modules of single lines -/

/-- Names, packages and docstrings without a line feed; the statement may have any lines. -/
structure SingleLines (m : SourceModule) (r : RenderSettings) : Prop where
  /-- The name of the class. -/
  className : '\n' ∉ r.className.toList
  /-- What is put before the name of a function. -/
  functionPrefix : '\n' ∉ r.functionPrefix.toList
  /-- The packages. -/
  packages : ∀ package ∈ r.importPackages, '\n' ∉ package.toList
  /-- The names of the functions. -/
  names : ∀ f ∈ m.functions, '\n' ∉ f.name.toList
  /-- The docstrings, where they are copied. -/
  docstrings : r.docstring = .source → ∀ f ∈ m.functions, '\n' ∉ f.docstring.toList

section SingleLines

variable {m : SourceModule} {r : RenderSettings}

theorem newline_not_mem_signature {name : String} (hstart : '\n' ∉ r.functionPrefix.toList)
    (hname : '\n' ∉ name.toList) : '\n' ∉ (signature r name).toList := by
  unfold signature testParameters
  cases r.wrapInClass <;> simp [hstart, hname]

theorem newline_not_mem_testBody (h : m.SingleLines r) {f : Function} (hf : f ∈ m.functions) :
    ∀ line ∈ testBody r f, '\n' ∉ line.toList := by
  intro line hline
  rw [testBody, List.mem_append, List.mem_append] at hline
  rcases hline with (hdoc | hstatement) | hreturn
  · split at hdoc
    · rename_i hmode
      rw [List.mem_singleton.mp hdoc]
      simp [h.docstrings hmode f hf]
    · rw [List.mem_singleton.mp hdoc]
      decide
    · exact absurd hdoc List.not_mem_nil
  · exact newline_not_mem_lines hstatement
  · rw [List.mem_singleton.mp hreturn]
    decide

theorem newline_not_mem_testLayout (h : m.SingleLines r) {f : Function} (hf : f ∈ m.functions) :
    ∀ l ∈ testLayout r f, '\n' ∉ l.text.toList := by
  intro l hl
  rcases List.mem_cons.mp hl with rfl | hl
  · exact newline_not_mem_signature h.functionPrefix (h.names f hf)
  · obtain ⟨line, hline, rfl⟩ := List.mem_map.mp hl
    exact newline_not_mem_testBody h hf line hline

theorem newline_not_mem_hookLayout {name : String} (hname : '\n' ∉ name.toList) :
    ∀ l ∈ hookLayout name, '\n' ∉ l.text.toList := by
  intro l hl
  simp only [hookLayout, List.mem_cons, List.not_mem_nil, or_false] at hl
  rcases hl with rfl | rfl
  · simp [hname]
  · decide

theorem newline_not_mem_headLayout (h : m.SingleLines r) : ∀ l ∈ headLayout r, '\n' ∉ l.text.toList := by
  have hblank : '\n' ∉ IndentedLine.blank.text.toList := by decide
  have himported : ∀ package ∈ imported r, '\n' ∉ package.toList := by
    intro package hpackage
    rcases List.mem_append.mp hpackage with hpackage | hframework
    · exact h.packages package hpackage
    · split at hframework
      · exact absurd hframework List.not_mem_nil
      · rw [List.mem_singleton.mp hframework]
        cases r.framework <;> decide
  have htitle : '\n' ∉ (classTitle r).toList := by
    unfold classTitle
    cases r.framework <;> simp [h.className]
  intro l hl
  simp only [headLayout, List.mem_append, List.mem_map, List.mem_singleton] at hl
  rcases hl with ((⟨package, hpackage, rfl⟩ | rfl) | hclass) | hsetUp
  · simp [himported package hpackage]
  · exact hblank
  · split at hclass
    · simp only [List.mem_cons, List.not_mem_nil, or_false] at hclass
      rcases hclass with rfl | rfl
      · exact htitle
      · exact hblank
    · exact absurd hclass List.not_mem_nil
  · split at hsetUp
    · rcases List.mem_append.mp hsetUp with hhook | hlast
      · exact newline_not_mem_hookLayout (by decide) l hhook
      · rw [List.mem_singleton.mp hlast]
        exact hblank
    · exact absurd hsetUp List.not_mem_nil

theorem newline_not_mem_footLayout : ∀ l ∈ footLayout r, '\n' ∉ l.text.toList := by
  intro l hl
  unfold footLayout at hl
  split at hl
  · rcases List.mem_cons.mp hl with rfl | hhook
    · decide
    · exact newline_not_mem_hookLayout (by decide) l hhook
  · exact absurd hl List.not_mem_nil

theorem newline_not_mem_layout (h : m.SingleLines r) : ∀ l ∈ m.layout r, '\n' ∉ l.text.toList := by
  intro l hl
  rw [layout, List.mem_append, List.mem_append] at hl
  rcases hl with (hhead | htests) | hfoot
  · exact newline_not_mem_headLayout h l hhead
  · rcases Text.mem_of_mem_intercalate htests with hblank | ⟨block, hblock, hl⟩
    · rw [List.mem_singleton.mp hblank]
      decide
    · obtain ⟨f, hf, rfl⟩ := List.mem_map.mp hblock
      exact newline_not_mem_testLayout h hf l hl
  · exact newline_not_mem_footLayout l hfoot

/-! ## §5. Blank lines and the end -/

theorem blank_not_mem_testLayout (f : Function) : IndentedLine.blank ∉ testLayout r f := by
  intro hmem
  rcases List.mem_cons.mp hmem with hsignature | hbody
  · have htext : "" = signature r f.name := congrArg IndentedLine.text hsignature
    exact absurd (congrArg String.toList htext) (by simp [signature])
  · obtain ⟨line, -, hline⟩ := List.mem_map.mp hbody
    exact absurd (congrArg IndentedLine.depth hline) (Nat.succ_ne_zero _)

theorem count_blank_intercalate {blocks : List (List IndentedLine)}
    (h : ∀ block ∈ blocks, IndentedLine.blank ∉ block) :
    ([IndentedLine.blank].intercalate blocks).count .blank = blocks.length - 1 := by
  induction blocks with
  | nil => rfl
  | cons block blocks ih =>
      have hblock := List.count_eq_zero_of_not_mem (h block List.mem_cons_self)
      cases blocks with
      | nil => rw [List.intercalate_singleton, hblock]; rfl
      | cons next blocks =>
          rw [List.intercalate_cons_cons, List.count_append, List.count_append, hblock,
            ih fun b hb => h b (List.mem_cons_of_mem block hb)]
          simp
          omega

/-- The blank lines of a test module: after the imports, in the class, and between its members. -/
theorem count_blank_layout (m : SourceModule) (r : RenderSettings) :
    (m.layout r).count .blank
      = 1 + r.wrapInClass.toNat + r.emitsSetUp.toNat + (m.functions.length - 1)
        + r.emitsTearDown.toNat := by
  have himports : ((imported r).map fun p => (⟨0, "import " ++ p⟩ : IndentedLine)).count .blank = 0 := by
    refine List.count_eq_zero_of_not_mem fun hmem => ?_
    obtain ⟨package, -, hpackage⟩ := List.mem_map.mp hmem
    exact absurd (congrArg (·.text.toList) hpackage) (by simp [IndentedLine.blank])
  have htitle : (⟨0, classTitle r⟩ : IndentedLine) ≠ .blank := by
    intro htitle
    refine absurd (congrArg (·.text.toList) htitle) ?_
    unfold classTitle
    cases r.framework <;> simp [IndentedLine.blank]
  have hhook : ∀ name : String, (hookLayout name).count .blank = 0 := by
    intro name
    simp [hookLayout, IndentedLine.blank]
  have htests : ([IndentedLine.blank].intercalate (m.functions.map (testLayout r))).count .blank
      = m.functions.length - 1 := by
    rw [count_blank_intercalate, List.length_map]
    intro block hblock
    obtain ⟨f, -, rfl⟩ := List.mem_map.mp hblock
    exact blank_not_mem_testLayout f
  unfold layout headLayout footLayout
  simp only [List.count_append, htests, himports]
  cases r.wrapInClass <;> cases r.emitsSetUp <;> cases r.emitsTearDown <;>
    simp [hhook, htitle]

/-- The last line of a test module with a test is a return. -/
theorem getLast?_layout (hne : m.functions ≠ []) :
    (m.layout r).getLast? = some ⟨testDepth r + 1, "return"⟩ := by
  have htest : ∀ f, (testLayout r f).getLast? = some ⟨testDepth r + 1, "return"⟩ := by
    intro f
    rw [testLayout, testBody, List.map_append]
    exact List.getLast?_concat (l := _ :: _)
  rw [layout, footLayout]
  split
  · -- the hook stands in a class
    rename_i hemits
    simp only [RenderSettings.emitsTearDown, Bool.and_eq_true] at hemits
    rw [testDepth, if_pos hemits.1.1, List.getLast?_append]
    rfl
  · rw [List.append_nil, List.getLast?_append, getLast?_intercalate (by simpa using hne)]
    · rfl
    · intro block hblock
      obtain ⟨f, -, rfl⟩ := List.mem_map.mp hblock
      exact htest f

/-- **The lines of a test module.**  Splitting gives its layout, and nothing behind it.  The lines
    without characters are the ones after the imports, after the line of the class, after the first
    hook, before the last one, and one between two tests; there is none in a test.  The last line is
    a return.  At another width the same texts stand at the same depths. -/
theorem split_render (hne : m.functions ≠ []) (hwidth : 0 < r.indentSize) (h : m.SingleLines r) :
    let lines := (m.layout r).map (·.chars r.indentSize)
    let spaces := fun depth => List.replicate (depth * r.indentSize) ' '
    let test := fun f => (spaces (testDepth r) ++ (signature r f.name).toList)
      :: (testBody r f).map fun line => spaces (testDepth r + 1) ++ line.toList
    Text.splitSep '\n' (m.render r).toList = lines ++ [[]]
      ∧ lines.count [] = 1 + r.wrapInClass.toNat + r.emitsSetUp.toNat + (m.functions.length - 1)
          + r.emitsTearDown.toNat
      ∧ (∃ before after, lines = before ++ [[]].intercalate (m.functions.map test) ++ after)
      ∧ (∀ f ∈ m.functions, [] ∉ test f)
      ∧ lines.getLast? = some (spaces (testDepth r + 1) ++ "return".toList)
      ∧ ∀ width, Text.splitSep '\n' (m.render { r with indentSize := width }).toList
          = (m.layout r).map (·.chars width) ++ [[]] := by
  intro lines spaces test
  have htest : ∀ f, test f = (testLayout r f).map (·.chars r.indentSize) := by
    intro f
    rw [testLayout, List.map_cons, List.map_map]
    rfl
  -- the layout does not know the width
  have hsplit : ∀ width, Text.splitSep '\n' (m.render { r with indentSize := width }).toList
      = (m.layout r).map (·.chars width) ++ [[]] := by
    intro width
    rw [toList_render]
    exact split_written (newline_not_mem_layout h) width
  have hblank : ∀ l : IndentedLine, l.chars r.indentSize = [] ↔ l = .blank :=
    fun l => IndentedLine.chars_eq_nil_iff hwidth
  refine ⟨hsplit r.indentSize, ?_, ?_, ?_, ?_, hsplit⟩
  · rw [← count_blank_layout, List.count, List.count, List.countP_map]
    refine List.countP_congr fun l _ => ?_
    simp [hblank]
  · refine ⟨(headLayout r).map (·.chars r.indentSize),
      (footLayout r).map (·.chars r.indentSize), ?_⟩
    have hbetween : [[]] = [IndentedLine.blank].map (·.chars r.indentSize) := by simp
    have htests : m.functions.map test
        = (m.functions.map (testLayout r)).map (·.map (·.chars r.indentSize)) := by
      rw [List.map_map]
      exact List.map_congr_left fun f _ => htest f
    rw [hbetween, htests, ← map_intercalate, ← List.map_append, ← List.map_append]
    rfl
  · intro f _ hmem
    rw [htest] at hmem
    obtain ⟨l, hl, hnil⟩ := List.mem_map.mp hmem
    exact blank_not_mem_testLayout f ((hblank l).mp hnil ▸ hl)
  · rw [List.getLast?_map, getLast?_layout hne]
    rfl

/-- Tests in a class with both hooks, whose statement has a line of its own without characters. -/
theorem split_render_cart :
    let m : SourceModule :=
      { name := "cart", fileName := "cart.py", baseDir := ""
        functions := [⟨.module, "load", "Loads."⟩, ⟨.ofClass "Cart", "total", "Sums up."⟩] }
    let r : RenderSettings :=
      { importPackages := ["os.path"], indentSize := 4, outcome := .statement "x = 1\n\nassert x\n"
        docstring := .source, className := "CartTest" }
    Text.splitSep '\n' (m.render r).toList
        = ["import os.path", "import unittest", "", "class CartTest(unittest.TestCase):", "",
            "    def setUp(self):", "        return", "",
            "    def test_load(self):", "        \"\"\"Loads.\"\"\"", "        x = 1", "        ",
            "        assert x", "        return", "",
            "    def test_total(self):", "        \"\"\"Sums up.\"\"\"", "        x = 1", "        ",
            "        assert x", "        return", "",
            "    def tearDown(self):", "        return", ""].map String.toList
      ∧ ((m.layout r).map (·.chars 4)).count [] = 5 := by
  intro m r
  have h : m.SingleLines r :=
    { className := by decide
      functionPrefix := by decide
      packages := by decide
      names := by decide
      docstrings := by decide }
  obtain ⟨hsplit, hcount, -⟩ := split_render (m := m) (r := r) (by decide) (by decide) h
  exact ⟨hsplit.trans (by decide +kernel), hcount⟩

end SingleLines

end SourceModule

end TestScaffold
