/-
  TestScaffold.TestModule — catalogued functions and the test module rendered for them.

    * `Function`, `SourceModule` — what was found and where;
    * `SourceModule.render` — the text of the test module;
    * `SourceModule.overflows` — whether that text is too long to be built;
    * `SourceModule.outputPath` — where it is written.
-/
import TestScaffold.Settings
import TestScaffold.Path

namespace TestScaffold

/-! ## §1. What was found -/

/-- Where a function stands. -/
inductive Scope where
  /-- At module level. -/
  | module
  /-- In the class of that name. -/
  | ofClass (name : String)
  deriving DecidableEq, Repr, Inhabited

/-- The scope as shown to a user. -/
def Scope.display : Scope → String
  | .module => "."
  | .ofClass name => name

/-- A function that deserves a test. -/
structure Function where
  /-- Where it stands. -/
  scope : Scope := .module
  /-- Its name as spelled in the source. -/
  name : String
  /-- The text used when docstrings are copied. -/
  docstring : String := ""
  deriving DecidableEq, Repr, Inhabited

/-- The function as shown to a user. -/
def Function.display (f : Function) : String :=
  f.scope.display ++ "/" ++ f.name

/-- The extension of Python modules. -/
def pythonExtension : String := "py"

/-- A module with the functions found in it. -/
structure SourceModule where
  /-- Name without extension, read as a text. -/
  name : String
  /-- That name with the Python extension, whatever the extension was. -/
  fileName : String
  /-- The directory of the module, as spelled. -/
  baseDir : ByteString
  /-- Its functions, in source order. -/
  functions : List Function := []
  deriving DecidableEq, Repr, Inhabited

namespace SourceModule

/-- The module that a path names, before its functions are known. -/
def ofPath (path : ByteString) : SourceModule :=
  let name := Path.stem path
  { name
    fileName := name ++ "." ++ pythonExtension
    baseDir := (Path.parent? path).getD "" }

/-- The path that the module is read as having. -/
def sourcePath (m : SourceModule) : ByteString :=
  Path.join m.baseDir m.fileName

/-- `<module dir>/<output dir>/<prefix><file name>`. -/
def outputPath (m : SourceModule) (r : RenderSettings) : ByteString :=
  Path.join (Path.join m.baseDir r.outputDir) (r.modulePrefix ++ m.fileName)

/-! ## §2. Rendering -/

/-- The quotes around a docstring. -/
def tripleQuote : String := "\"\"\""

/-- Imports, and the blank line after them. -/
def renderImports (r : RenderSettings) : String :=
  String.join (r.importPackages.map fun p => "import " ++ p ++ "\n")
    ++ (if r.importsFramework then "\n" else "import " ++ r.framework.moduleName ++ "\n\n")

/-- The line that opens the test class. -/
def renderClassHeader (r : RenderSettings) : String :=
  match r.framework.baseClass? with
  | some base => "class " ++ r.className ++ "(" ++ base ++ "):\n\n"
  | none => "class " ++ r.className ++ ":\n\n"

/-- A hook method without a body of its own. -/
def renderHook (r : RenderSettings) (name : String) : String :=
  let i := r.indentUnit
  i ++ "def " ++ name ++ "(self):\n" ++ i ++ i ++ "return\n"

/-- The docstring of a test, if one is wanted. -/
def renderDocstring? (r : RenderSettings) (f : Function) : Option String :=
  match r.docstring with
  | .source => some (tripleQuote ++ f.docstring ++ tripleQuote)
  | .empty => some (tripleQuote ++ tripleQuote)
  | .none => none

/-- One test function. -/
def renderTest (r : RenderSettings) (f : Function) : String :=
  let outer := if r.wrapInClass then r.indentUnit else ""
  let inner := outer ++ r.indentUnit
  let body := (renderDocstring? r f).toList ++ Text.lines r.outcome.statementText ++ ["return"]
  outer ++ "def " ++ r.functionPrefix ++ f.name
    ++ (if r.wrapInClass then "(self):\n" else "():\n")
    ++ String.join (body.map fun line => inner ++ line ++ "\n")

/-- The text of the test module. -/
def render (m : SourceModule) (r : RenderSettings) : String :=
  renderImports r
    ++ (if r.wrapInClass then renderClassHeader r else "")
    ++ (if r.emitsSetUp then renderHook r "setUp" ++ "\n" else "")
    ++ String.intercalate "\n" (m.functions.map (renderTest r))
    ++ (if r.emitsTearDown then "\n" ++ renderHook r "tearDown" else "")

/-- The longest text that can be built, in bytes. -/
def maxTextBytes : Nat := Nat.pow 2 63 - 1

/-- Whether the test module cannot be built: one step of its indentation, which is made first, or its
    text would be too long. -/
def overflows (m : SourceModule) (r : RenderSettings) : Bool :=
  decide (maxTextBytes < r.indentSize) || decide (maxTextBytes < (m.render r).utf8ByteSize)

end SourceModule

end TestScaffold
