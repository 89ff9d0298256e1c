/-
  TestScaffold.Proofs.Dialogue.Script — every setting that a dialogue asks for can be said.

  Answers count by their place, and the questions that come depend on the answers before
  them.  A script is the list of lines for wanted settings, one for each question that will
  come, and a dialogue over it ends with those settings and has read every line.

    * `Script.lines` — the lines for wanted paths and settings;
    * `Listable`, `Typable`, `Askable` — what can be typed, and the settings that can;
    * `Hears` — a part of a dialogue takes exactly these answers and comes to this value;
    * `dialogue_hears` — a dialogue takes exactly its script;
    * `runDialogue_script` — run over the bytes of a script, it comes to what was wanted.
-/
import TestScaffold.Proofs.Dialogue.Answers

namespace TestScaffold

/-! ## §1. Scripts -/

/-- What a line says: nothing but itself. -/
structure OneLine (text : String) : Prop where
  /-- No white space at either end. -/
  trimmed : Text.trim text = text
  /-- No line feed. -/
  unbroken : '\n' ∉ text.toList

/-- What can be typed on a line of its own; a blank line would say nothing. -/
structure Typable (text : String) : Prop extends OneLine text where
  /-- Something. -/
  nonempty : text ≠ ""

/-- What can be typed as the entries of one line. -/
structure Listable (entries : List String) : Prop where
  /-- Every entry stands between two separators. -/
  entry : ∀ e ∈ entries, Text.Entry e
  /-- No line feed. -/
  unbroken : ∀ e ∈ entries, '\n' ∉ e.toList

instance (text : String) : Decidable (Typable text) :=
  decidable_of_iff (Text.trim text = text ∧ '\n' ∉ text.toList ∧ text ≠ "")
    ⟨fun ⟨htrimmed, hunbroken, hne⟩ => ⟨⟨htrimmed, hunbroken⟩, hne⟩,
      fun h => ⟨h.trimmed, h.unbroken, h.nonempty⟩⟩

instance (entries : List String) : Decidable (Listable entries) :=
  decidable_of_iff ((∀ e ∈ entries, Text.Entry e) ∧ ∀ e ∈ entries, '\n' ∉ e.toList)
    ⟨fun ⟨hentry, hunbroken⟩ => ⟨hentry, hunbroken⟩, fun h => ⟨h.entry, h.unbroken⟩⟩

/-- Settings that can be asked for: an outcome of one word, and a class where it is not optional. -/
structure Askable (w : Settings) : Prop where
  /-- The folders fit on a line. -/
  foldersToIgnore : Listable w.filter.foldersToIgnore
  /-- The patterns fit on a line. -/
  patternsToIgnore : Listable w.filter.patternsToIgnore
  /-- The directory fits on a line. -/
  outputDir : Typable w.render.outputDir
  /-- The packages fit on a line. -/
  importPackages : Listable w.render.importPackages
  /-- The indentation is positive. -/
  indent_pos : 0 < w.render.indentSize
  /-- The indentation is in range. -/
  indent_lt : w.render.indentSize < Answer.indentBound
  /-- The tests pass or fail. -/
  outcome : w.render.outcome = .pass ∨ w.render.outcome = .fail
  /-- The begin of file names fits on a line. -/
  modulePrefix : Typable w.render.modulePrefix
  /-- The begin of function names fits on a line. -/
  functionPrefix : Typable w.render.functionPrefix
  /-- Hooks stand in a class. -/
  wrapInClass : w.render.framework = .unittest → w.render.wrapInClass = true
  /-- The name of the class fits on a line. -/
  className : Typable w.render.className

namespace Script

/-- Yes or no, as a letter. -/
def yesNo (b : Bool) : String := if b then "y" else "n"

/-- A framework, as a letter. -/
def framework : Framework → String
  | .unittest => "u"
  | .pytest => "p"

/-- An outcome, as a letter; a statement has none. -/
def outcome : Outcome → String
  | .pass => "p"
  | .fail => "f"
  | .statement _ => ""

/-- A docstring mode, as a letter. -/
def docstring : DocstringMode → String
  | .source => "s"
  | .empty => "e"
  | .none => "n"

/-- Where test modules go; only a new folder has a name. -/
def outputDir (dir : String) : List String :=
  if dir = besideSourceDir then ["s"] else ["n", dir]

/-- The lines about what is left out. -/
def filter (f : FilterSettings) : List String :=
  [Text.joinList f.foldersToIgnore, Text.joinList f.patternsToIgnore]

/-- The lines about the class. -/
def testClass (r : RenderSettings) : List String :=
  match r.framework with
  | .unittest => [r.className, yesNo r.setUp, yesNo r.tearDown]
  | .pytest => yesNo r.wrapInClass :: if r.wrapInClass then [r.className] else []

/-- The lines about the test modules. -/
def render (r : RenderSettings) : List String :=
  outputDir r.outputDir
    ++ ([framework r.framework, Text.joinList r.importPackages, toString r.indentSize,
        outcome r.outcome, r.modulePrefix, r.functionPrefix, docstring r.docstring]
      ++ testClass r)

/-- The lines for paths and settings, one for each question that comes. -/
def lines (paths : List String) (w : Settings) : List String :=
  Text.joinList paths :: (filter w.filter ++ render w.render)

/-- The script as it is typed. -/
def text (paths : List String) (w : Settings) : String :=
  String.intercalate "\n" (lines paths w)

/-- The settings that the script asks for on top of a base: lists go on, and what is not asked for
    stays as it was. -/
def settingsOn (base w : Settings) : Settings :=
  { filter :=
      { foldersToIgnore := Text.cleanList (base.filter.foldersToIgnore ++ w.filter.foldersToIgnore)
        patternsToIgnore := Text.cleanList (base.filter.patternsToIgnore ++ w.filter.patternsToIgnore) }
    render :=
      { w.render with
        importPackages := Text.cleanList (base.render.importPackages ++ w.render.importPackages)
        className := if w.render.wrapInClass then w.render.className else base.render.className
        setUp := if w.render.framework = .unittest then w.render.setUp else base.render.setUp
        tearDown := if w.render.framework = .unittest then w.render.tearDown else base.render.tearDown } }

end Script

/-! ## §2. Being heard -/

/-- **A part of a dialogue takes exactly these answers**, whatever stands below them, asks as many
    questions, and comes to a value without a remark. -/
def Hears (x : Talk α) (texts : List String) (a : α) : Prop :=
  ∀ (s : Session) (typed : List String) (rest : List InputLine), s.limit? = none →
    s.lines = typed.map some ++ rest → typed.map Text.trim = texts →
    ∃ asked, asked.length = texts.length ∧
      x.run s = (.ok a, { s with lines := rest, questions := s.questions ++ asked })

namespace Hears

theorem pure (a : α) : Hears (Pure.pure a) [] a := by
  intro s typed rest hs hlines htyped
  rw [List.map_eq_nil_iff.mp htyped, List.map_nil, List.nil_append] at hlines
  refine ⟨[], rfl, ?_⟩
  rw [← hlines, List.append_nil]
  rfl

/-- The answers of the first part come before those of the second. -/
theorem bind {x : Talk α} {f : α → Talk β} {first second : List String} {a : α} {b : β}
    (hx : Hears x first a) (hf : Hears (f a) second b) :
    Hears (x >>= f) (first ++ second) b := by
  intro s typed rest hs hlines htyped
  -- for the first part, the lines of the second stand below its own
  obtain ⟨now, later, rfl, hnow, hlater⟩ := List.map_eq_append_iff.mp htyped
  rw [List.map_append, List.append_assoc] at hlines
  obtain ⟨asked, hasked, hrun⟩ := hx s now (later.map some ++ rest) hs hlines hnow
  obtain ⟨more, hmore, hrest⟩ :=
    hf { s with lines := later.map some ++ rest, questions := s.questions ++ asked } later rest hs
      rfl hlater
  refine ⟨asked ++ more, by rw [List.length_append, List.length_append, hasked, hmore], ?_⟩
  rw [run_bind_ok hrun, hrest, List.append_assoc]

/-- What was heard may be put together afterwards. -/
theorem map {x : Talk α} {texts : List String} {a : α} (hx : Hears x texts a) (f : α → β) :
    Hears (x >>= fun a => Pure.pure (f a)) texts (f a) := by
  have hbind := hx.bind (f := fun a => Pure.pure (f a)) (Hears.pure (f a))
  rwa [List.append_nil] at hbind

theorem keepNotices_bind {u : Answer.Understood α} {f : α → Talk β} {texts : List String} {a : α}
    {b : β} (hu : u = (a, [])) (h : Hears (f a) texts b) :
    Hears (TestScaffold.keepNotices u >>= f) texts b := by
  intro s typed rest hs hlines htyped
  rw [hu, run_bind_ok (run_keepNotices (a, []) s), List.append_nil]
  exact h s typed rest hs hlines htyped

theorem answer (question text : String) : Hears (answer question) [text] text := by
  intro s typed rest hs hlines htyped
  obtain ⟨line, rfl, htrim⟩ := List.map_eq_singleton_iff.mp htyped
  refine ⟨[question], rfl, ?_⟩
  rw [run_answer hs, Session.asked, hlines]
  show (Except.ok (Text.trim line), _) = _
  rw [htrim]
  rfl

theorem keepNotices {u : Answer.Understood α} {a : α} (hu : u = (a, [])) :
    Hears (keepNotices u) [] a := by
  have hkept := keepNotices_bind hu (Hears.pure a)
  rwa [bind_pure] at hkept

/-- An answer that is understood leaves no remark. -/
theorem understood (question : String) (understand : String → Answer.Understood α) {text : String}
    {a : α} (h : understand text = (a, [])) :
    Hears (TestScaffold.answer question >>= fun t => TestScaffold.keepNotices (understand t)) [text] a :=
  (Hears.answer question text).bind (Hears.keepNotices h)

end Hears

/-! ## §3. Single answers -/

theorem digitsFrom_eq {cs : List Char} (acc : Nat) (h : ∀ c ∈ cs, c.isDigit = true) :
    Answer.digitsFrom acc cs = some (Nat.ofDigitChars 10 cs acc) := by
  induction cs generalizing acc with
  | nil => rfl
  | cons c cs ih =>
      rw [Answer.digitsFrom, if_pos (h c List.mem_cons_self), Nat.ofDigitChars_cons, Nat.mul_comm 10]
      exact ih _ fun d hd => h d (List.mem_cons_of_mem c hd)

theorem toList_toString (n : Nat) : (toString n).toList = Nat.toDigits 10 n := by
  rw [Nat.toString_eq_ofList_toDigits, String.toList_ofList]

theorem isDigit_of_mem_toString {n : Nat} {c : Char} (h : c ∈ (toString n).toList) :
    c.isDigit = true := by
  rw [toList_toString] at h
  exact Nat.isDigit_of_mem_toDigits (by decide) (by decide) h

/-- A number is read back from its digits. -/
theorem decimal?_toString {bound n : Nat} (h : n < bound) :
    Answer.decimal? bound (toString n).toList = some n := by
  have hdigit := fun c => isDigit_of_mem_toString (n := n) (c := c)
  have hvalue : Answer.digitsFrom 0 (toString n).toList = some n := by
    rw [digitsFrom_eq 0 hdigit, toList_toString, Nat.ofDigitChars_ten_toDigits]
  have hne : (toString n).toList.isEmpty = false := by simp
  have hsign : ∀ rest, (toString n).toList = '+' :: rest → False := fun rest hplus =>
    absurd (hdigit '+' (hplus ▸ List.mem_cons_self)) (by decide)
  rw [Answer.decimal?, hne, if_neg Bool.false_ne_true, hvalue, Option.filter_some,
    if_pos (decide_eq_true h)]
  exact hsign

theorem isBlank_of_isDigit {c : Char} (h : c.isDigit = true) : Text.isBlank c = false := by
  have hrange : 48 ≤ c.toNat ∧ c.toNat ≤ 57 := by
    simpa [Char.isDigit, UInt32.le_iff_toNat_le] using h
  simp only [Text.isBlank, Bool.or_eq_false_iff, Bool.and_eq_false_iff, decide_eq_false_iff_not,
    beq_eq_false_iff_ne]
  omega

theorem trim_toString (n : Nat) : Text.trim (toString n) = toString n := by
  rw [Text.trim_eq_iff]
  constructor
  · intro c hc
    exact isBlank_of_isDigit (isDigit_of_mem_toString (List.mem_of_mem_head? hc))
  · intro c hc
    exact isBlank_of_isDigit (isDigit_of_mem_toString (List.mem_of_mem_getLast? hc))

theorem askText_hears (question current : String) {t : String} (ht : Typable t) :
    Hears (askText question current) [t] t := by
  have hmap := (Hears.answer question t).map fun a => Answer.text a current
  have htext : Answer.text t current = t := by
    rw [Answer.text, ht.trimmed, if_neg (by simpa using ht.nonempty)]
  rwa [htext] at hmap

theorem askMore_hears (question : String) (current : List String) {entries : List String}
    (h : Listable entries) :
    Hears (askMore question current) [Text.joinList entries] (current ++ entries) := by
  have hmap := (Hears.answer question (Text.joinList entries)).map fun a => current ++ Answer.list a
  rwa [Answer.list, Text.splitList_joinList h.entry] at hmap

theorem askYesNo_hears (question : String) (current b : Bool) :
    Hears (askYesNo question current) [Script.yesNo b] b :=
  Hears.understood (yesNoQuestion question current) (Answer.yesNo · current)
    (by cases b <;> cases current <;> decide)

theorem askIndent_hears (current : Nat) {n : Nat} (hpos : 0 < n) (hlt : n < Answer.indentBound) :
    Hears (askIndent current) [toString n] n := by
  refine Hears.understood (Question.indent current) (Answer.indent · current) ?_
  have hne : (toString n).isEmpty = false := by simp
  rw [Answer.indent, trim_toString, hne, decimal?_toString hlt, Option.filter_some,
    if_pos (decide_eq_true hpos)]
  rfl

/-- A word that is understood makes the choice. -/
theorem askChoice_hears (question : String) {understand : String → Answer.Understood α}
    {word : String} {a : α} (current : α) (hne : word.isEmpty = false)
    (h : understand word = (a, [])) : Hears (askChoice question understand current) [word] a := by
  have hchosen : Hears (if word.isEmpty then pure current else keepNotices (understand word)) [] a := by
    rw [hne, if_neg Bool.false_ne_true]
    exact Hears.keepNotices h
  exact (Hears.answer question word).bind hchosen

/-- The directory beside the source is not asked for by name. -/
theorem askOutputDir_hears (current : String) {dir : String} (h : Typable dir) :
    Hears (askOutputDir current) (Script.outputDir dir) dir := by
  rw [askOutputDir, Script.outputDir]
  split
  · rename_i hbeside
    have hkept : Answer.location "s" = (.besideSource, []) := by decide
    rw [hbeside]
    exact (Hears.answer Question.placement "s").bind (Hears.keepNotices_bind hkept (Hears.pure _))
  · have hkept : Answer.location "n" = (.newFolder, []) := by decide
    exact (Hears.answer Question.placement "n").bind
      (Hears.keepNotices_bind hkept (askText_hears (Question.outputDir current) current h))

theorem askSourcePaths_hears {paths : List String} (h : Listable paths) (hne : paths ≠ []) :
    Hears askSourcePaths [Text.joinList paths] paths := by
  intro s typed rest hs hlines htyped
  obtain ⟨line, rfl, htrim⟩ := List.map_eq_singleton_iff.mp htyped
  have hlist : Answer.list line = paths := by
    rw [← Answer.list_trim, htrim, Answer.list, Text.splitList_joinList h.entry]
  -- the first line names paths, so it is the only one that is asked for
  have hnamed := PathRounds.named_after Question.paths hs hlines (List.forall_mem_nil _) (hlist ▸ hne)
  rw [hlist] at hnamed
  exact ⟨[Question.paths], rfl, askSourcePaths_eq_iff.mpr hnamed⟩

/-! ## §4. The dialogue -/

theorem askFilter_hears (f : FilterSettings) {w : FilterSettings} (hfolders : Listable w.foldersToIgnore)
    (hpatterns : Listable w.patternsToIgnore) :
    Hears (askFilter f) (Script.filter w)
      { foldersToIgnore := f.foldersToIgnore ++ w.foldersToIgnore
        patternsToIgnore := f.patternsToIgnore ++ w.patternsToIgnore } := by
  rw [askFilter]
  refine (askMore_hears _ f.foldersToIgnore hfolders).bind ?_
  exact (askMore_hears _ f.patternsToIgnore hpatterns).map _

/-- Hooks are asked for in the class of a framework that has them, and a name wherever there is a
    class. -/
theorem askClass_hears (r : RenderSettings) {w : RenderSettings} (hframework : r.framework = w.framework)
    (hwrap : w.framework = .unittest → w.wrapInClass = true) (hname : Typable w.className) :
    Hears (askClass r) (Script.testClass w)
      { r with
        wrapInClass := w.wrapInClass
        className := if w.wrapInClass then w.className else r.className
        setUp := if w.framework = .unittest then w.setUp else r.setUp
        tearDown := if w.framework = .unittest then w.tearDown else r.tearDown } := by
  cases hw : w.framework with
  | unittest =>
      have hooks : (r.framework == .unittest) = true := by rw [hframework, hw]; rfl
      simp only [askClass, Script.testClass, hooks, hw, hwrap hw, if_true, pure_bind]
      refine (askText_hears _ r.className hname).bind ?_
      refine (askYesNo_hears Question.setUp r.setUp w.setUp).bind ?_
      exact (askYesNo_hears Question.tearDown r.tearDown w.tearDown).map _
  | pytest =>
      have hooks : (r.framework == .unittest) = false := by rw [hframework, hw]; rfl
      simp only [askClass, Script.testClass, hooks, hw, Bool.false_eq_true, if_false, reduceCtorEq]
      refine (askYesNo_hears Question.wrapInClass r.wrapInClass w.wrapInClass).bind ?_
      -- the name is asked for only if the answer was yes
      cases w.wrapInClass with
      | false => exact Hears.pure _
      | true => exact (askText_hears _ r.className hname).map _

theorem framework_understood (f : Framework) :
    (Script.framework f).isEmpty = false ∧ Answer.framework (Script.framework f) = (f, []) := by
  cases f <;> decide

theorem outcome_understood {o : Outcome} (h : o = .pass ∨ o = .fail) :
    (Script.outcome o).isEmpty = false ∧ Answer.outcome (Script.outcome o) = (o, []) := by
  rcases h with rfl | rfl <;> decide

theorem docstring_understood (d : DocstringMode) :
    (Script.docstring d).isEmpty = false ∧ Answer.docstring (Script.docstring d) = (d, []) := by
  cases d <;> decide

/-- What the questions about the test modules come to. -/
theorem askRender_hears (r : RenderSettings) {w : Settings} (hw : Askable w) :
    Hears (askRender r) (Script.render w.render)
      { w.render with
        importPackages := r.importPackages ++ w.render.importPackages
        className := if w.render.wrapInClass then w.render.className else r.className
        setUp := if w.render.framework = .unittest then w.render.setUp else r.setUp
        tearDown := if w.render.framework = .unittest then w.render.tearDown else r.tearDown } := by
  obtain ⟨hframework, hfu⟩ := framework_understood w.render.framework
  obtain ⟨houtcome, hou⟩ := outcome_understood hw.outcome
  obtain ⟨hdocstring, hdu⟩ := docstring_understood w.render.docstring
  rw [askRender, Script.render]
  refine (askOutputDir_hears r.outputDir hw.outputDir).bind ?_
  refine (askChoice_hears _ r.framework hframework hfu).bind ?_
  refine (askMore_hears _ r.importPackages hw.importPackages).bind ?_
  refine (askIndent_hears r.indentSize hw.indent_pos hw.indent_lt).bind ?_
  refine (askChoice_hears _ r.outcome houtcome hou).bind ?_
  refine (askText_hears _ r.modulePrefix hw.modulePrefix).bind ?_
  refine (askText_hears _ r.functionPrefix hw.functionPrefix).bind ?_
  refine (askChoice_hears _ r.docstring hdocstring hdu).bind ?_
  exact askClass_hears _ rfl hw.wrapInClass hw.className

/-- **A dialogue takes exactly its script.** -/
theorem dialogue_hears (base : Settings) {paths : List String} {w : Settings} (hpaths : Listable paths)
    (hne : paths ≠ []) (hw : Askable w) :
    Hears (dialogue base) (Script.lines paths w) (paths, Script.settingsOn base w) := by
  rw [dialogue, Script.lines]
  refine (askSourcePaths_hears hpaths hne).bind ?_
  refine (askFilter_hears base.filter hw.foldersToIgnore hw.patternsToIgnore).bind ?_
  rw [← List.append_nil (Script.render w.render)]
  refine (askRender_hears base.render hw).bind ?_
  -- the indentation is positive, so the normal form remarks on nothing
  refine Hears.keepNotices_bind (a := Script.settingsOn base w) ?_ (Hears.pure _)
  rw [Settings.normalized, if_neg (Nat.ne_of_gt hw.indent_pos)]
  rfl

/-! ## §5. The script as input -/

theorem oneLine_joinList {entries : List String} (h : Listable entries) :
    OneLine (Text.joinList entries) := by
  refine ⟨Text.trim_joinList h.entry, fun hmem => ?_⟩
  rw [Text.toList_joinList] at hmem
  rcases Text.mem_of_mem_intercalate hmem with hsep | ⟨p, hp, hc⟩
  · exact absurd hsep (by decide)
  · obtain ⟨e, he, rfl⟩ := List.mem_map.mp hp
    exact h.unbroken e he hc

theorem oneLine_toString (n : Nat) : OneLine (toString n) :=
  ⟨trim_toString n, fun hmem => absurd (isDigit_of_mem_toString hmem) (by decide)⟩

theorem typable_yesNo (b : Bool) : Typable (Script.yesNo b) := by
  cases b <;> exact ⟨⟨by decide, by decide⟩, by decide⟩

theorem oneLine_framework (f : Framework) : OneLine (Script.framework f) := by
  cases f <;> exact ⟨by decide, by decide⟩

theorem oneLine_outcome (o : Outcome) : OneLine (Script.outcome o) := by
  cases o with
  | pass => exact ⟨by decide, by decide⟩
  | fail => exact ⟨by decide, by decide⟩
  | statement text => exact ⟨rfl, List.not_mem_nil⟩

theorem oneLine_docstring (d : DocstringMode) : OneLine (Script.docstring d) := by
  cases d <;> exact ⟨by decide, by decide⟩

theorem oneLine_of_mem_outputDir {dir t : String} (h : Typable dir) (ht : t ∈ Script.outputDir dir) :
    OneLine t := by
  rw [Script.outputDir] at ht
  split at ht
  · rw [List.mem_singleton.mp ht]
    exact ⟨by decide, by decide⟩
  · rcases List.mem_cons.mp ht with rfl | ht
    · exact ⟨by decide, by decide⟩
    · rw [List.mem_singleton.mp ht]
      exact h.toOneLine

/-- The lines about the class end with one that is not blank. -/
theorem testClass_ends {r : RenderSettings} (hname : Typable r.className) :
    ∃ texts last, Script.testClass r = texts ++ [last]
      ∧ (∀ t ∈ texts, OneLine t) ∧ Typable last := by
  have hanswer := fun b => (typable_yesNo b).toOneLine
  rw [Script.testClass]
  cases r.framework with
  | unittest =>
      refine ⟨[r.className, Script.yesNo r.setUp], _, rfl, ?_, typable_yesNo r.tearDown⟩
      simp [hname.toOneLine, hanswer]
  | pytest =>
      cases r.wrapInClass with
      | true => exact ⟨[Script.yesNo true], _, rfl, by simp [hanswer], hname⟩
      | false => exact ⟨[], _, rfl, by simp, typable_yesNo false⟩

/-- A script ends with a line that is not blank. -/
theorem lines_end {paths : List String} {w : Settings} (hpaths : Listable paths) (hw : Askable w) :
    ∃ texts last, Script.lines paths w = texts ++ [last]
      ∧ (∀ t ∈ texts, OneLine t) ∧ Typable last := by
  obtain ⟨texts, last, hclass, htexts, hlast⟩ := testClass_ends hw.className
  refine ⟨Text.joinList paths :: (Script.filter w.filter ++ (Script.outputDir w.render.outputDir
    ++ ([Script.framework w.render.framework, Text.joinList w.render.importPackages,
        toString w.render.indentSize, Script.outcome w.render.outcome, w.render.modulePrefix,
        w.render.functionPrefix, Script.docstring w.render.docstring] ++ texts))), last, ?_, ?_, hlast⟩
  · rw [Script.lines, Script.render, hclass]
    simp only [List.cons_append, List.append_assoc]
  · have hfilter : ∀ t ∈ Script.filter w.filter, OneLine t := by
      simp [Script.filter, oneLine_joinList hw.foldersToIgnore, oneLine_joinList hw.patternsToIgnore]
    have hrender : ∀ t ∈ [Script.framework w.render.framework, Text.joinList w.render.importPackages,
        toString w.render.indentSize, Script.outcome w.render.outcome, w.render.modulePrefix,
        w.render.functionPrefix, Script.docstring w.render.docstring], OneLine t := by
      simp only [List.forall_mem_cons, List.not_mem_nil, false_implies, implies_true, and_true]
      exact ⟨oneLine_framework _, oneLine_joinList hw.importPackages, oneLine_toString _,
        oneLine_outcome _, hw.modulePrefix.toOneLine, hw.functionPrefix.toOneLine, oneLine_docstring _⟩
    rw [List.forall_mem_cons, List.forall_mem_append, List.forall_mem_append, List.forall_mem_append]
    exact ⟨oneLine_joinList hpaths, hfilter, fun t => oneLine_of_mem_outputDir hw.outputDir, hrender,
      htexts⟩

/-- **Every setting that a dialogue asks for can be said.**  Over a base, a script of one line for each
    question, whose last line may end or not, comes to the paths and settings it was written for;
    lists go on from the base, and what is not asked for stays as it was there.  All lines are read,
    and nothing is remarked on. -/
theorem runDialogue_script (base : Settings) {paths : List String} {w : Settings} {ending : String}
    (hpaths : Listable paths) (hne : paths ≠ []) (hw : Askable w)
    (hending : ending = "" ∨ ending = "\n") :
    ∃ session, runDialogue base (Script.text paths w ++ ending).toUTF8
        = (.ok (paths, Script.settingsOn base w), session)
      ∧ session.lines = [] ∧ session.notices = []
      ∧ session.questions.length = (Script.lines paths w).length := by
  obtain ⟨texts, last, hlines, htexts, hlast⟩ := lines_end hpaths hw
  have hinput : inputLines (Script.text paths w ++ ending).toUTF8
      = (texts.map (· ++ "\n") ++ [last ++ ending]).map some := by
    rw [Script.text, hlines]
    exact inputLines_typed (fun t ht => (htexts t ht).unbroken) hlast.unbroken hlast.nonempty hending
  have htyped : (texts.map (· ++ "\n") ++ [last ++ ending]).map Text.trim = Script.lines paths w := by
    -- neither the line feeds nor the ending are seen
    have hends : Text.trim (last ++ ending) = last := by
      rcases hending with rfl | rfl
      · rw [String.append_empty, hlast.trimmed]
      · rw [Text.trim_append_newline, hlast.trimmed]
    have hlater : (texts.map (· ++ "\n")).map Text.trim = texts := by
      rw [List.map_map]
      refine (List.map_congr_left fun t ht => ?_).trans (List.map_id texts)
      exact (Text.trim_append_newline t).trans (htexts t ht).trimmed
    rw [hlines, List.map_append, hlater, List.map_singleton, hends]
  obtain ⟨asked, hasked, hrun⟩ := dialogue_hears base hpaths hne hw
    { lines := inputLines (Script.text paths w ++ ending).toUTF8 } _ [] rfl
    (hinput.trans (List.append_nil _).symm) htyped
  exact ⟨_, hrun, rfl, rfl, hasked⟩

/-- Settings for plain functions beside their sources. -/
def plainFunctions : Settings :=
  { filter := { foldersToIgnore := ["build", "tests"], patternsToIgnore := ["legacy_"] }
    render :=
      { outputDir := ".", framework := .pytest, importPackages := ["os", "sys"], indentSize := 4
        outcome := .fail, modulePrefix := "pt_", functionPrefix := "check_", docstring := .empty
        wrapInClass := false } }

theorem runDialogue_script_plain :
    ∃ session, runDialogue { render := { importPackages := ["sys"] } }
        "src;lib\nbuild;tests\nlegacy_\ns\np\nos;sys\n4\nf\npt_\ncheck_\ne\nn\n".toUTF8
        = (.ok (["src", "lib"],
            { plainFunctions with
              filter := { foldersToIgnore := ["tests", "build"], patternsToIgnore := ["legacy_"] }
              render := { plainFunctions.render with importPackages := ["sys", "os"] } }), session)
      ∧ session.lines = [] ∧ session.notices = [] ∧ session.questions.length = 12 := by
  have hw : Askable plainFunctions :=
    { foldersToIgnore := by decide +kernel
      patternsToIgnore := by decide +kernel
      outputDir := by decide +kernel
      importPackages := by decide +kernel
      indent_pos := by decide
      indent_lt := by decide
      outcome := Or.inr rfl
      modulePrefix := by decide +kernel
      functionPrefix := by decide +kernel
      wrapInClass := nofun
      className := by decide +kernel }
  have htext : Script.text ["src", "lib"] plainFunctions ++ "\n"
      = "src;lib\nbuild;tests\nlegacy_\ns\np\nos;sys\n4\nf\npt_\ncheck_\ne\nn\n" := by decide +kernel
  have hsettings : Script.settingsOn { render := { importPackages := ["sys"] } } plainFunctions
      = { plainFunctions with
          filter := { foldersToIgnore := ["tests", "build"], patternsToIgnore := ["legacy_"] }
          render := { plainFunctions.render with importPackages := ["sys", "os"] } } := by decide +kernel
  have hpaths : Listable ["src", "lib"] := by decide +kernel
  have hrun := runDialogue_script { render := { importPackages := ["sys"] } } hpaths
    (List.cons_ne_nil _ _) hw (Or.inr rfl : "\n" = "" ∨ "\n" = "\n")
  rw [htext, hsettings] at hrun
  exact hrun

end TestScaffold
