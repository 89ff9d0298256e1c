/-
  TestScaffold.Settings — what a run is asked to do, and the normal form of it.

    * `FilterSettings`, `RenderSettings`, `Settings` — with their built-in defaults;
    * derived questions about a rendering (`indentUnit`, `importsFramework`, `emitsSetUp`, …);
    * `Notice` — everything a run remarks on without stopping;
    * `Settings.normalized` — cleaned lists and a positive indentation.
-/
import TestScaffold.Text.Blank

namespace TestScaffold

/-! ## §1. Choices -/

/-- The framework that the generated tests are written for. -/
inductive Framework where
  /-- Test classes with hooks. -/
  | unittest
  /-- Plain functions or classes. -/
  | pytest
  deriving DecidableEq, Repr, Inhabited

namespace Framework

/-- The module that the tests import. -/
def moduleName : Framework → String
  | unittest => "unittest"
  | pytest => "pytest"

/-- The base of a test class. -/
def baseClass? : Framework → Option String
  | unittest => some "unittest.TestCase"
  | pytest => none

/-- Whether test classes have `setUp` and `tearDown`. -/
def hasHooks : Framework → Bool
  | unittest => true
  | pytest => false

end Framework

/-- What every generated test does. -/
inductive Outcome where
  /-- The test passes. -/
  | pass
  /-- The test fails. -/
  | fail
  /-- The test runs a given statement, possibly of several lines. -/
  | statement (text : String)
  deriving DecidableEq, Repr, Inhabited

/-- The statement of the test body. -/
def Outcome.statementText : Outcome → String
  | .pass => "assert True"
  | .fail => "assert False"
  | .statement text => text

/-- The docstring of every generated test. -/
inductive DocstringMode where
  /-- The text that the catalogue carries. -/
  | source
  /-- An empty docstring. -/
  | empty
  /-- No docstring. -/
  | none
  deriving DecidableEq, Repr, Inhabited

/-! ## §2. Settings -/

/-- The output directory that stands for the directory of the source. -/
def besideSourceDir : String := "."

/-- Which modules are left out. -/
structure FilterSettings where
  /-- Parts of folder names. -/
  foldersToIgnore : List String := ["tests"]
  /-- Parts of module paths. -/
  patternsToIgnore : List String := []
  deriving DecidableEq, Repr, Inhabited

/-- The width of one indentation step unless told otherwise. -/
def defaultIndent : Nat := 2

/-- How test modules look and where they go. -/
structure RenderSettings where
  /-- Directory of the tests, seen from the module's own directory. -/
  outputDir : String := "tests"
  /-- The framework. -/
  framework : Framework := .unittest
  /-- Packages that every test module imports. -/
  importPackages : List String := []
  /-- Spaces per indentation step. -/
  indentSize : Nat := defaultIndent
  /-- The body of each test. -/
  outcome : Outcome := .pass
  /-- Put before a module's file name. -/
  modulePrefix : String := "test_"
  /-- Put before a function's name. -/
  functionPrefix : String := "test_"
  /-- Docstring of each test. -/
  docstring : DocstringMode := .none
  /-- Whether the tests stand inside a class. -/
  wrapInClass : Bool := true
  /-- Name of that class. -/
  className : String := "TestCase"
  /-- Whether a `setUp` hook is wanted. -/
  setUp : Bool := true
  /-- Whether a `tearDown` hook is wanted. -/
  tearDown : Bool := true
  deriving DecidableEq, Repr, Inhabited

namespace RenderSettings

/-- One step of indentation. -/
def indentUnit (r : RenderSettings) : String :=
  String.ofList (List.replicate r.indentSize ' ')

/-- Whether the packages already name the framework, letter for letter. -/
def importsFramework (r : RenderSettings) : Bool :=
  r.importPackages.contains r.framework.moduleName

/-- Whether a class with `setUp` is written. -/
def emitsSetUp (r : RenderSettings) : Bool :=
  r.wrapInClass && r.setUp && r.framework.hasHooks

/-- Whether a class with `tearDown` is written. -/
def emitsTearDown (r : RenderSettings) : Bool :=
  r.wrapInClass && r.tearDown && r.framework.hasHooks

end RenderSettings

/-- All settings of a run. -/
structure Settings where
  /-- What is left out. -/
  filter : FilterSettings := {}
  /-- What is written. -/
  render : RenderSettings := {}
  deriving DecidableEq, Repr, Inhabited

/-! ## §3. Notices -/

/-- A remark that does not stop the run. -/
inductive Notice where
  /-- The answer names no framework. -/
  | unknownFramework (value : String)
  /-- The answer names no outcome. -/
  | unknownOutcome (value : String)
  /-- The answer names no docstring mode. -/
  | unknownDocstring (value : String)
  /-- The answer names no place for the tests. -/
  | unknownLocation (value : String)
  /-- The answer is neither yes nor no. -/
  | notYesOrNo (value : String) (fallback : Bool)
  /-- The answer is no positive size. -/
  | invalidIndent (value : String) (fallback : Nat)
  /-- A size of zero was configured. -/
  | zeroIndent (fallback : Nat)
  deriving DecidableEq, Repr

namespace Notice

/-- The text of a remark. -/
def message : Notice → String
  | unknownFramework _ => "unknown test framework, using unittest"
  | unknownOutcome _ => "unknown test outcome, tests will pass"
  | unknownDocstring _ => "unknown docstring mode, emitting none"
  | unknownLocation _ => "unknown test location, using a new folder"
  | notYesOrNo _ _ => "expected y or n, using default"
  | invalidIndent _ _ => "invalid indentation size, using the default"
  | zeroIndent _ => "indent_size must be positive, using the default"

/-- The answer that the remark is about. -/
def value? : Notice → Option String
  | unknownFramework v | unknownOutcome v | unknownDocstring v | unknownLocation v => some v
  | notYesOrNo v _ | invalidIndent v _ => some v
  | zeroIndent _ => none

end Notice

/-! ## §4. Normal form -/

/-- Lists cleaned, and a zero indentation replaced by the default with a remark. -/
def Settings.normalized (s : Settings) : Settings × List Notice :=
  let filter : FilterSettings :=
    { foldersToIgnore := Text.cleanList s.filter.foldersToIgnore
      patternsToIgnore := Text.cleanList s.filter.patternsToIgnore }
  let render := { s.render with importPackages := Text.cleanList s.render.importPackages }
  if s.render.indentSize = 0 then
    ({ filter, render := { render with indentSize := defaultIndent } }, [.zeroIndent defaultIndent])
  else
    ({ filter, render }, [])

end TestScaffold
