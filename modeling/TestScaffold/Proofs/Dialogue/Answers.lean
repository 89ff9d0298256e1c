/-
  TestScaffold.Proofs.Dialogue.Answers — what a dialogue says, apart from what it is asked on top of.

  A dialogue mixes two things: what the lines of the input say, and what the settings
  held before.  Here the two are taken apart.  `Answers` is what the lines say, with
  nothing in it where a line is blank or is not understood, and a dialogue puts it on
  top of the base.  The base has a say only in which questions come: its framework, and
  whether its tests stand in a class.

    * `Answers`, `Answers.apply` — the answers, and the settings with the answers on top;
    * `readAnswers` — the answers of the lines of an input;
    * `Follows` — a part of a dialogue takes from the input what a reading takes;
    * `dialogue_follows`, `runDialogue_eq` — a dialogue is the reading of its answers,
      put on top of the base and brought into normal form.
-/
import TestScaffold.Proofs.Dialogue.Rounds

namespace TestScaffold

/-! ## §1. Answers -/

/-- More to leave out. -/
structure FilterAnswers where
  /-- More parts of folder names. -/
  foldersToIgnore : List String := []
  /-- More parts of module paths. -/
  patternsToIgnore : List String := []
  deriving DecidableEq, Repr

/-- What is said about the class around the tests. -/
structure ClassAnswers where
  /-- Whether there is one. -/
  wrapInClass? : Option Bool := none
  /-- Its name. -/
  className? : Option String := none
  /-- Whether it has a hook before each test. -/
  setUp? : Option Bool := none
  /-- Whether it has a hook after each test. -/
  tearDown? : Option Bool := none
  deriving DecidableEq, Repr

/-- What is said about the test modules. -/
structure RenderAnswers extends ClassAnswers where
  /-- Where they go. -/
  outputDir? : Option String := none
  /-- The framework. -/
  framework? : Option Framework := none
  /-- More packages to import. -/
  importPackages : List String := []
  /-- The indentation. -/
  indent? : Option Nat := none
  /-- Passing or failing. -/
  outcome? : Option Outcome := none
  /-- The begin of file names. -/
  modulePrefix? : Option String := none
  /-- The begin of function names. -/
  functionPrefix? : Option String := none
  /-- The docstrings. -/
  docstring? : Option DocstringMode := none
  deriving DecidableEq, Repr

/-- What the answers of a dialogue say. -/
structure Answers where
  /-- What is left out. -/
  filter : FilterAnswers := {}
  /-- What is written. -/
  render : RenderAnswers := {}
  deriving DecidableEq, Repr

/-- The answers on top of what is left out. -/
def FilterAnswers.apply (a : FilterAnswers) (f : FilterSettings) : FilterSettings :=
  { foldersToIgnore := f.foldersToIgnore ++ a.foldersToIgnore
    patternsToIgnore := f.patternsToIgnore ++ a.patternsToIgnore }

/-- The answers on top of what is said about the class. -/
def ClassAnswers.apply (a : ClassAnswers) (r : RenderSettings) : RenderSettings :=
  { r with
    wrapInClass := a.wrapInClass?.getD r.wrapInClass
    className := a.className?.getD r.className
    setUp := a.setUp?.getD r.setUp
    tearDown := a.tearDown?.getD r.tearDown }

/-- The answers on top of what is written. -/
def RenderAnswers.apply (a : RenderAnswers) (r : RenderSettings) : RenderSettings :=
  { outputDir := a.outputDir?.getD r.outputDir
    framework := a.framework?.getD r.framework
    importPackages := r.importPackages ++ a.importPackages
    indentSize := a.indent?.getD r.indentSize
    outcome := a.outcome?.getD r.outcome
    modulePrefix := a.modulePrefix?.getD r.modulePrefix
    functionPrefix := a.functionPrefix?.getD r.functionPrefix
    docstring := a.docstring?.getD r.docstring
    wrapInClass := a.wrapInClass?.getD r.wrapInClass
    className := a.className?.getD r.className
    setUp := a.setUp?.getD r.setUp
    tearDown := a.tearDown?.getD r.tearDown }

/-- The answers on top of the settings. -/
def Answers.apply (a : Answers) (s : Settings) : Settings :=
  { filter := a.filter.apply s.filter, render := a.render.apply s.render }

/-- Who says nothing changes nothing. -/
theorem Answers.apply_nothing (s : Settings) : ({} : Answers).apply s = s := by
  simp [apply, FilterAnswers.apply, RenderAnswers.apply]

/-! ## §2. Reading answers -/

/-- The text of an answer that is not blank. -/
def Answer.text? (a : String) : Option String :=
  if (Text.trim a).isEmpty then none else some (Text.trim a)

/-- A choice, unless the answer is blank; what is not understood is a choice too. -/
def Answer.choice? (understand : String → Answer.Understood α) (a : String) : Option α :=
  if a.isEmpty then none else some (understand a).1

/-- Yes or no, if the answer is one of the two. -/
def Answer.yesNo? (a : String) : Option Bool :=
  match Answer.normalize a with
  | "y" | "yes" => some true
  | "n" | "no" => some false
  | _ => none

/-- A positive indentation size, if the answer is one. -/
def Answer.indent? (a : String) : Option Nat :=
  (Answer.decimal? Answer.indentBound (Text.trim a).toList).filter (0 < ·)

/-- Takes lines from the front of an input. -/
abbrev Reading := StateT (List InputLine) (Except Failure)

/-- The next answer, trimmed; it is blank at the end of the input. -/
def nextAnswer : Reading String
  | [] => .ok ("", [])
  | some line :: rest => .ok (Text.trim line, rest)
  | none :: _ => .error (.prompt .notUtf8)

/-- The entries of the first line that has some. -/
def readPaths : Reading (List String)
  | [] => .error .missingPaths
  | none :: _ => .error (.prompt .notUtf8)
  | some line :: rest =>
    match Answer.list (Text.trim line) with
    | [] => readPaths rest
    | paths => .ok (paths, rest)

/-- A text, if one is given. -/
def readText : Reading (Option String) := do
  return Answer.text? (← nextAnswer)

/-- A choice, if one is made. -/
def readChoice (understand : String → Answer.Understood α) : Reading (Option α) := do
  return Answer.choice? understand (← nextAnswer)

/-- Yes or no, if either is said. -/
def readYesNo : Reading (Option Bool) := do
  return Answer.yesNo? (← nextAnswer)

/-- Entries of a list. -/
def readMore : Reading (List String) := do
  return Answer.list (← nextAnswer)

/-- What is said about what is left out. -/
def readFilter : Reading FilterAnswers := do
  let foldersToIgnore ← readMore
  let patternsToIgnore ← readMore
  return { foldersToIgnore, patternsToIgnore }

/-- A directory, if one is given; a new folder is asked for by name. -/
def readOutputDir : Reading (Option String) := do
  match (Answer.location (← nextAnswer)).1 with
  | .newFolder => readText
  | .besideSource => return some besideSourceDir

/-- An indentation size, if one is given. -/
def readIndent : Reading (Option Nat) := do
  return Answer.indent? (← nextAnswer)

/-- What is said about the class; `wrapInClass` is what holds if nothing is said. -/
def readClass (framework : Framework) (wrapInClass : Bool) : Reading ClassAnswers := do
  let hooks := framework == .unittest
  let wrapInClass? ← if hooks then pure (some true) else readYesNo
  if wrapInClass?.getD wrapInClass then
    let className? ← readText
    if hooks then
      let setUp? ← readYesNo
      let tearDown? ← readYesNo
      return { wrapInClass?, className?, setUp?, tearDown? }
    else return { wrapInClass?, className? }
  else return { wrapInClass? }

/-- What is said about the test modules. -/
def readRender (framework : Framework) (wrapInClass : Bool) : Reading RenderAnswers := do
  let outputDir? ← readOutputDir
  let framework? ← readChoice Answer.framework
  let importPackages ← readMore
  let indent? ← readIndent
  let outcome? ← readChoice Answer.outcome
  let modulePrefix? ← readText
  let functionPrefix? ← readText
  let docstring? ← readChoice Answer.docstring
  let toClassAnswers ← readClass (framework?.getD framework) wrapInClass
  return { toClassAnswers, outputDir?, framework?, importPackages, indent?, outcome?, modulePrefix?,
           functionPrefix?, docstring? }

/-- Paths and answers; `framework` and `wrapInClass` are what holds if nothing is said. -/
def readAnswers (framework : Framework) (wrapInClass : Bool) : Reading (List String × Answers) := do
  let paths ← readPaths
  let filter ← readFilter
  let render ← readRender framework wrapInClass
  return (paths, { filter, render })

/-- The paths and the answers of an input to a dialogue on top of a base. -/
def answersOn (base : Settings) (input : ByteArray) : Except Failure (List String × Answers) :=
  (readAnswers base.render.framework base.render.wrapInClass (inputLines input)).map Prod.fst

/-! ## §3. Parts of a dialogue -/

/-- What a part of a dialogue came to is what a reading came to, looked at through `view`. -/
def Agrees (view : β → α) (talked : Except Failure α × Session) :
    Except Failure (β × List InputLine) → Prop
  | .ok (b, rest) => talked.1 = .ok (view b) ∧ talked.2.lines = rest ∧ talked.2.limit? = none
  | .error failure => talked.1 = .error failure

/-- **A part of a dialogue takes from every input what a reading takes from it**, and comes to what
    the reading came to, looked at through `view`. -/
def Follows (x : Talk α) (r : Reading β) (view : β → α) : Prop :=
  ∀ s : Session, s.limit? = none → Agrees view (x.run s) (r s.lines)

namespace Follows

theorem pure {view : β → α} {a : α} {b : β} (h : a = view b) :
    Follows (Pure.pure a) (Pure.pure b) view := by
  intro s hs
  exact ⟨congrArg Except.ok h, rfl, hs⟩

/-- Parts follow readings one after the other. -/
theorem bind {x : Talk α} {f : α → Talk γ} {r : Reading β} {k : β → Reading δ} {view : β → α}
    {next : δ → γ} (hx : Follows x r view) (hf : ∀ b, Follows (f (view b)) (k b) next) :
    Follows (x >>= f) (r >>= k) next := by
  intro s hs
  have hagree := hx s hs
  show Agrees next ((x >>= f).run s) ((r s.lines) >>= fun p => k p.1 p.2)
  match hr : r s.lines with
  | .error failure =>
      -- what ends the reading ends the dialogue
      rw [hr] at hagree
      rw [run_bind_error (Prod.ext hagree rfl)]
      exact rfl
  | .ok (b, rest) =>
      rw [hr] at hagree
      -- the second part goes on where the first one stopped, still without a limit
      obtain ⟨hok, hlines, hlimit⟩ := hagree
      rw [run_bind_ok (Prod.ext hok rfl), ← hlines]
      exact hf b _ hlimit

/-- Remarks leave no trace in what is read. -/
theorem keepNotices {u : Answer.Understood α} {view : β → α} {b : β} (h : u.1 = view b) :
    Follows (keepNotices u) (Pure.pure b) view := by
  intro s hs
  exact ⟨congrArg Except.ok h, rfl, hs⟩

/-- What was read may be put together afterwards. -/
theorem map {x : Talk α} {r : Reading β} {view : β → α} {g : β → δ} {next : δ → α}
    (hx : Follows x r view) (h : ∀ b, view b = next (g b)) :
    Follows x (r >>= fun b => Pure.pure (g b)) next := by
  have hbind := hx.bind (k := fun b => Pure.pure (g b)) fun b => Follows.pure (h b)
  rwa [bind_pure] at hbind

theorem keepNotices_bind {u : Answer.Understood α} {f : α → Talk γ} {r : Reading β} {view : β → γ}
    (h : Follows (f u.1) r view) : Follows (TestScaffold.keepNotices u >>= f) r view := by
  intro s hs
  rw [run_bind_ok (run_keepNotices u s)]
  exact h _ hs

theorem answer (question : String) : Follows (answer question) nextAnswer id := by
  intro s hs
  rw [run_answer hs]
  match hlines : s.lines with
  | [] => exact ⟨rfl, by rw [Session.asked, hlines]; rfl, hs⟩
  | some line :: rest => exact ⟨rfl, by rw [Session.asked, hlines]; rfl, hs⟩
  | none :: rest => exact rfl

end Follows

/-! ## §4. Single questions -/

theorem Answer.text_eq (a current : String) : Answer.text a current = (Answer.text? a).getD current := by
  rw [Answer.text, Answer.text?]
  split <;> rfl

theorem Answer.yesNo_fst (a : String) (current : Bool) :
    (Answer.yesNo a current).1 = (Answer.yesNo? a).getD current := by
  rw [Answer.yesNo, Answer.yesNo?]
  generalize Answer.normalize a = word
  split
  case h_6 =>
    -- a word that is not understood is no answer to the reading either
    split <;> first | rfl | contradiction
  all_goals rfl

theorem Answer.indent_fst (a : String) (current : Nat) :
    (Answer.indent a current).1 = (Answer.indent? a).getD current := by
  rw [Answer.indent, Answer.indent?]
  split
  · rename_i hblank
    rw [String.isEmpty_iff.mp hblank]
    rfl
  · split
    · rename_i n hn
      rw [hn]
      rfl
    · rename_i hnone
      rw [hnone]
      rfl

theorem askText_follows (question current : String) :
    Follows (askText question current) readText (·.getD current) :=
  (Follows.answer question).bind fun a => Follows.pure (Answer.text_eq a current)

theorem askMore_follows (question : String) (current : List String) :
    Follows (askMore question current) readMore (current ++ ·) :=
  (Follows.answer question).bind fun _ => Follows.pure rfl

theorem askYesNo_follows (text : String) (current : Bool) :
    Follows (askYesNo text current) readYesNo (·.getD current) :=
  (Follows.answer _).bind fun a => Follows.keepNotices (Answer.yesNo_fst a current)

theorem askIndent_follows (current : Nat) :
    Follows (askIndent current) readIndent (·.getD current) :=
  (Follows.answer _).bind fun a => Follows.keepNotices (Answer.indent_fst a current)

theorem askChoice_follows (question : String) (understand : String → Answer.Understood α) (current : α) :
    Follows (askChoice question understand current) (readChoice understand) (·.getD current) := by
  refine (Follows.answer question).bind fun a => ?_
  -- a blank answer makes no choice
  by_cases hblank : a.isEmpty = true
  · rw [id, if_pos hblank, Answer.choice?, if_pos hblank]
    exact Follows.pure rfl
  · rw [id, if_neg hblank, Answer.choice?, if_neg hblank]
    exact Follows.keepNotices rfl

theorem askOutputDir_follows (current : String) :
    Follows (askOutputDir current) readOutputDir (·.getD current) := by
  refine (Follows.answer Question.placement).bind fun a => Follows.keepNotices_bind ?_
  rw [id]
  cases (Answer.location a).1 with
  | newFolder => exact askText_follows (Question.outputDir current) current
  | besideSource => exact Follows.pure rfl

/-- The rounds of the question for paths end where a reading finds the first line with entries. -/
theorem PathRounds.agrees {question : String} {s t : Session} {result : Except Failure (List String)}
    (h : PathRounds question s result t) (hs : s.limit? = none) :
    Agrees id (result, t) (readPaths s.lines) := by
  induction h with
  | @refused question s hroom =>
      rw [hasRoom_of_no_limit hs question] at hroom
      cases hroom
  | ended hroom hlines =>
      rw [hlines]
      exact rfl
  | unreadable hroom hlines =>
      rw [hlines]
      exact rfl
  | named hroom hlines hentries =>
      obtain ⟨path, paths, hlist⟩ := List.exists_cons_of_ne_nil hentries
      rw [hlines, readPaths, Answer.list_trim, hlist]
      exact ⟨rfl, by rw [Session.asked, hlines]; rfl, hs⟩
  | again hroom hlines hentries hnext ih =>
      have hrest := ih hs
      rw [Session.asked, hlines] at hrest
      rw [hlines, readPaths, Answer.list_trim, hentries]
      exact hrest

theorem askSourcePaths_follows : Follows askSourcePaths readPaths id := by
  intro s hs
  have hrounds : PathRounds Question.paths s (askSourcePaths.run s).1 (askSourcePaths.run s).2 :=
    askSourcePaths_eq_iff.mp rfl
  exact hrounds.agrees hs

/-! ## §5. The dialogue -/

theorem askFilter_follows (f : FilterSettings) : Follows (askFilter f) readFilter (·.apply f) := by
  rw [askFilter, readFilter]
  refine (askMore_follows _ f.foldersToIgnore).bind fun foldersToIgnore => ?_
  refine (askMore_follows _ f.patternsToIgnore).bind fun patternsToIgnore => ?_
  exact Follows.pure rfl

/-- The framework decides about the hooks, and whether a class is asked for. -/
theorem askClass_follows (r : RenderSettings) :
    Follows (askClass r) (readClass r.framework r.wrapInClass) (·.apply r) := by
  cases hooks : r.framework == .unittest with
  | true =>
      -- a class with hooks is there without being asked for
      simp only [askClass, readClass, hooks, if_true, pure_bind, Option.getD_some]
      refine (askText_follows _ r.className).bind fun className? => ?_
      refine (askYesNo_follows _ r.setUp).bind fun setUp? => ?_
      refine (askYesNo_follows _ r.tearDown).bind fun tearDown? => ?_
      exact Follows.pure rfl
  | false =>
      simp only [askClass, readClass, hooks, Bool.false_eq_true, if_false]
      refine (askYesNo_follows _ r.wrapInClass).bind fun wrapInClass? => ?_
      cases hclass : wrapInClass?.getD r.wrapInClass with
      | false =>
          exact Follows.pure (by rw [ClassAnswers.apply, hclass]; rfl)
      | true =>
          refine (askText_follows _ r.className).bind fun className? => ?_
          exact Follows.pure (by rw [ClassAnswers.apply, hclass]; rfl)

theorem askRender_follows (r : RenderSettings) :
    Follows (askRender r) (readRender r.framework r.wrapInClass) (·.apply r) := by
  rw [askRender, readRender]
  refine (askOutputDir_follows r.outputDir).bind fun outputDir? => ?_
  refine (askChoice_follows _ Answer.framework r.framework).bind fun framework? => ?_
  refine (askMore_follows _ r.importPackages).bind fun importPackages => ?_
  refine (askIndent_follows r.indentSize).bind fun indent? => ?_
  refine (askChoice_follows _ Answer.outcome r.outcome).bind fun outcome? => ?_
  refine (askText_follows _ r.modulePrefix).bind fun modulePrefix? => ?_
  refine (askText_follows _ r.functionPrefix).bind fun functionPrefix? => ?_
  refine (askChoice_follows _ Answer.docstring r.docstring).bind fun docstring? => ?_
  -- the class is asked for on top of the answers so far, and all of them are put together
  exact (askClass_follows _).map fun _ => rfl

/-- **A dialogue is the reading of its answers**, put on top of the base and brought into normal
    form. -/
theorem dialogue_follows (base : Settings) :
    Follows (dialogue base) (readAnswers base.render.framework base.render.wrapInClass)
      (fun r => (r.1, (r.2.apply base).normalized.1)) := by
  rw [dialogue, readAnswers]
  refine askSourcePaths_follows.bind fun paths => ?_
  refine (askFilter_follows base.filter).bind fun filter => ?_
  refine (askRender_follows base.render).bind fun render => ?_
  -- the normal form may remark on the indentation, and the reading does not see it
  refine Follows.keepNotices_bind ?_
  exact Follows.pure rfl

theorem runDialogue_eq (base : Settings) (input : ByteArray) :
    (runDialogue base input).1
      = (answersOn base input).map fun r => (r.1, (r.2.apply base).normalized.1) := by
  have hagree := dialogue_follows base { lines := inputLines input } rfl
  unfold runDialogue answersOn
  generalize readAnswers base.render.framework base.render.wrapInClass (inputLines input) = reading
    at hagree ⊢
  cases reading with
  | error failure => exact hagree
  | ok r => exact hagree.1

end TestScaffold
