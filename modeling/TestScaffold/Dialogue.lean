/-
  TestScaffold.Dialogue — settings asked for on the terminal.

  Every answer but the first is optional: a blank line, and the end of the input,
  keep what the settings held before.

    * `Session` — the lines still to be read, the text written and the remarks;
    * `ask`, `askSourcePaths` — single questions;
    * `dialogue` — the whole sequence.
-/
import TestScaffold.Answer
import TestScaffold.Failure

namespace TestScaffold

/-! ## §1. Sessions -/

/-- A line of the input; `none` if its bytes are no UTF-8. -/
abbrev InputLine := Option String

/-- The line that these bytes are. -/
def lineOfBytes (bytes : List UInt8) : InputLine :=
  String.fromUTF8? ⟨bytes.toArray⟩

/-- Splits bytes after every line feed; `pending` is the begin of the current line, last byte first. -/
def inputLinesFrom (pending : List UInt8) : List UInt8 → List InputLine
  | [] => if pending.isEmpty then [] else [lineOfBytes pending.reverse]
  | b :: rest =>
    if b = 10 then lineOfBytes (b :: pending).reverse :: inputLinesFrom [] rest
    else inputLinesFrom (b :: pending) rest

/-- The lines of an input. -/
def inputLines (input : ByteArray) : List InputLine :=
  inputLinesFrom [] input.data.toList

/-- The state of a dialogue. -/
structure Session where
  /-- The lines still to be read. -/
  lines : List InputLine
  /-- The most bytes that the terminal takes. -/
  limit? : Option Nat := none
  /-- The questions asked so far, in order. -/
  questions : List String := []
  /-- The remarks made so far, in order. -/
  notices : List Notice := []
  deriving Inhabited

namespace Session

/-- The text written so far. -/
def transcript (s : Session) : String :=
  String.join s.questions

/-- Whether the terminal still takes a question. -/
def hasRoom (s : Session) (question : String) : Bool :=
  match s.limit? with
  | some limit => s.transcript.utf8ByteSize + question.utf8ByteSize ≤ limit
  | none => true

end Session

/-- A part of a dialogue. -/
abbrev Talk := ExceptT Failure (StateM Session)

/-! ## §2. Questions -/

/-- Writes a question and reads the answer, trimmed; `none` at the end of the input. -/
def ask (question : String) : Talk (Option String) := do
  let s ← get
  if s.hasRoom question then
    set { s with lines := s.lines.tail, questions := s.questions ++ [question] }
    match s.lines with
    | [] => return none
    | some line :: _ => return some (Text.trim line)
    | none :: _ => throw (.prompt .notUtf8)
  else throw (.prompt .outputRefused)

/-- The answer to a question; the end of the input is a blank answer. -/
def answer (question : String) : Talk String := do
  return (← ask question).getD ""

/-- Keeps the remarks on an answer. -/
def keepNotices (u : Answer.Understood α) : Talk α := do
  modify fun s => { s with notices := s.notices ++ u.2 }
  return u.1

/-- An answer that replaces a value unless it is blank. -/
def askChoice (question : String) (understand : String → Answer.Understood α) (current : α) :
    Talk α := do
  let a ← answer question
  if a.isEmpty then return current else keepNotices (understand a)

/-- An answer that replaces a text unless it is blank. -/
def askText (question current : String) : Talk String := do
  return Answer.text (← answer question) current

/-- An answer that adds entries to a list. -/
def askMore (question : String) (current : List String) : Talk (List String) := do
  return current ++ Answer.list (← answer question)

/-- A question with two answers; the default is written large. -/
def yesNoQuestion (text : String) (current : Bool) : String :=
  text ++ (if current then " [Y|n] > " else " [y|N] > ")

/-- An answer of yes or no. -/
def askYesNo (text : String) (current : Bool) : Talk Bool := do
  keepNotices (Answer.yesNo (← answer (yesNoQuestion text current)) current)

namespace Question

/-- The question that opens the dialogue. -/
def paths : String :=
  "Paths to the Python modules or packages, separated by ';':\n> "

/-- The same after a blank answer. -/
def pathsAgain : String :=
  "No path given. Try again:\n> "

/-- Folders to leave out. -/
def foldersToIgnore : String :=
  "Additional folder names to ignore, separated by ';':\n> "

/-- Modules to leave out. -/
def patternsToIgnore : String :=
  "Module name patterns to ignore, separated by ';':\n> "

/-- Where the tests go. -/
def placement : String :=
  "Where should test modules go?\n  n  a new folder next to each module (default)\n"
    ++ "  s  beside each source module\n[n|s] > "

/-- A question about a text, with the text it has now. -/
def withDefault (text current : String) : String :=
  text ++ " Default is '" ++ current ++ "'.\n> "

/-- The folder of the tests. -/
def outputDir (current : String) : String :=
  withDefault "Name of the directory receiving test modules?" current

/-- The framework. -/
def framework : String :=
  "Test framework?\n  u  unittest (default)\n  p  pytest\n[u|p] > "

/-- Packages to import. -/
def importPackages : String :=
  "Packages to import in every test module, separated by ';':\n> "

/-- The indentation. -/
def indent (current : Nat) : String :=
  "Indentation size in spaces? Default is " ++ toString current ++ ".\n> "

/-- What the tests do. -/
def outcome : String :=
  "Should generated tests pass or fail?\n  p  assert True (default)\n  f  assert False\n[p|f] > "

/-- The begin of file names. -/
def modulePrefix (current : String) : String :=
  withDefault "Test module file prefix?" current

/-- The begin of function names. -/
def functionPrefix (current : String) : String :=
  withDefault "Test function name prefix?" current

/-- The docstrings. -/
def docstring : String :=
  "Docstrings for test functions?\n  s  source docstring\n  e  empty docstring\n"
    ++ "  n  none (default)\n[s|e|n] > "

/-- Whether there is a class. -/
def wrapInClass : String :=
  "Put the tests inside a class?"

/-- The name of the class. -/
def className (current : String) : String :=
  withDefault "Test class name?" current

/-- The hook before each test. -/
def setUp : String :=
  "Add a setUp method to the class?"

/-- The hook after each test. -/
def tearDown : String :=
  "Add a tearDown method to the class?"

end Question

/-! ## §3. The dialogue -/

/-- Asks for paths until a line names one.  Every round reads a line, so one more round than there
    are lines is enough. -/
def askSourcePathsFrom : (rounds : Nat) → (question : String) → Talk (List String)
  | 0, _ => throw .missingPaths
  | rounds + 1, question => do
    match ← ask question with
    | none => throw .missingPaths
    | some a =>
      match Answer.list a with
      | [] => askSourcePathsFrom rounds Question.pathsAgain
      | paths => return paths

/-- Asks for paths until a line names one. -/
def askSourcePaths : Talk (List String) := do
  askSourcePathsFrom ((← get).lines.length + 1) Question.paths

/-- Asks which modules to leave out. -/
def askFilter (f : FilterSettings) : Talk FilterSettings := do
  let foldersToIgnore ← askMore Question.foldersToIgnore f.foldersToIgnore
  let patternsToIgnore ← askMore Question.patternsToIgnore f.patternsToIgnore
  return { foldersToIgnore, patternsToIgnore }

/-- Asks where test modules go. -/
def askOutputDir (current : String) : Talk String := do
  match ← keepNotices (Answer.location (← answer Question.placement)) with
  | .newFolder => askText (Question.outputDir current) current
  | .besideSource => return besideSourceDir

/-- Asks how indented lines begin. -/
def askIndent (current : Nat) : Talk Nat := do
  keepNotices (Answer.indent (← answer (Question.indent current)) current)

/-- Asks about the class around the tests; classes of the framework with hooks are always written. -/
def askClass (r : RenderSettings) : Talk RenderSettings := do
  let hooks := r.framework == .unittest
  let wrapInClass ←
    if hooks then pure true else askYesNo Question.wrapInClass r.wrapInClass
  if wrapInClass then
    let className ← askText (Question.className r.className) r.className
    if hooks then
      let setUp ← askYesNo Question.setUp r.setUp
      let tearDown ← askYesNo Question.tearDown r.tearDown
      return { r with wrapInClass, className, setUp, tearDown }
    else return { r with wrapInClass, className }
  else return { r with wrapInClass }

/-- Asks about the text of the test modules. -/
def askRender (r : RenderSettings) : Talk RenderSettings := do
  let outputDir ← askOutputDir r.outputDir
  let framework ← askChoice Question.framework Answer.framework r.framework
  let importPackages ← askMore Question.importPackages r.importPackages
  let indentSize ← askIndent r.indentSize
  let outcome ← askChoice Question.outcome Answer.outcome r.outcome
  let modulePrefix ← askText (Question.modulePrefix r.modulePrefix) r.modulePrefix
  let functionPrefix ← askText (Question.functionPrefix r.functionPrefix) r.functionPrefix
  let docstring ← askChoice Question.docstring Answer.docstring r.docstring
  askClass { r with outputDir, framework, importPackages, indentSize, outcome, modulePrefix,
                    functionPrefix, docstring }

/-- Asks for paths and settings on top of a base. -/
def dialogue (base : Settings) : Talk (List String × Settings) := do
  let paths ← askSourcePaths
  let filter ← askFilter base.filter
  let render ← askRender base.render
  let settings ← keepNotices (Settings.normalized { filter, render })
  return (paths, settings)

/-- Runs a dialogue over an input. -/
def runDialogue (base : Settings) (input : ByteArray) (limit? : Option Nat := none) :
    Except Failure (List String × Settings) × Session :=
  (dialogue base).run { lines := inputLines input, limit? }

end TestScaffold
