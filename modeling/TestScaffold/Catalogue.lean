/-
  TestScaffold.Catalogue — the functions of a source that deserve a test.

  A definition is classified by its nearest enclosing definition: none makes it a
  function of the module, a class makes it a method, a function makes it a helper
  that gets no test.

    * `catalogue` — the functions of a syntax tree, in source order;
    * `scan` — the functions of a source text, or where it is no Python.
-/
import TestScaffold.Failure
import TestScaffold.TestModule
import TestScaffold.Python.Parse

namespace TestScaffold

open Python

/-! ## §1. Classification -/

/-- The docstring of every function found. -/
def placeholderDocstring : String := "function docstring"

/-- The nearest definition around a node. -/
inductive Enclosing where
  /-- There is none. -/
  | module
  /-- A class. -/
  | ofClass (name : String)
  /-- A function, or a class without a name. -/
  | function
  deriving DecidableEq, Repr, Inhabited

namespace Enclosing

/-- What a node is to the nodes below it, given what encloses the node itself. -/
def within (outer : Enclosing) (l : Label) : Enclosing :=
  match l.kind with
  | .classDefinition =>
    match l.name? with
    | some name => .ofClass name
    | none => .function
  | .functionDefinition => .function
  | _ => outer

/-- The scope of a function found there. -/
def scope? : Enclosing → Option Scope
  | .module => some .module
  | .ofClass name => some (.ofClass name)
  | .function => none

/-- The nearest definition on the way up. -/
def ofPath : List Crumb → Enclosing
  | [] => .module
  | crumb :: up =>
    match crumb.parent.kind with
    | .classDefinition =>
      match crumb.parent.name? with
      | some name => .ofClass name
      | none => .function
    | .functionDefinition => .function
    | _ => ofPath up

end Enclosing

/-- The function that a node defines, if it deserves a test. -/
def describe? (around : Enclosing) (l : Label) : Option Function :=
  match l.kind, l.name? with
  | .functionDefinition, some name =>
    if Text.isDunder name then none
    else around.scope?.map fun scope => { scope, name, docstring := placeholderDocstring }
  | _, _ => none

/-! ## §2. The walk -/

/-- The functions from a cursor on. -/
def catalogueFrom (c : Cursor) : List Function :=
  let here := (describe? (.ofPath c.path) c.node.label).toList
  match _step : c.next? true with
  | some d => here ++ catalogueFrom d
  | none => here
termination_by c.pending
decreasing_by exact Cursor.pending_next?_lt _step

/-- The functions of a syntax tree that deserve a test, in source order. -/
def catalogue (t : Node) : List Function :=
  catalogueFrom (Cursor.root t)

/-! ## §3. Sources -/

/-- Line and column of the place where `rest` begins; the column counts bytes. -/
def placeOf (source rest : List Char) : Nat × Nat :=
  let before := source.take (source.length - rest.length)
  let inLine := before.reverse.takeWhile (· != '\n')
  (before.count '\n' + 1, (String.ofList inLine).utf8ByteSize + 1)

/-- What is wrong at a fault. -/
def describeFault (fault : Label) : String :=
  match fault.kind with
  | .missing token => "missing '" ++ token ++ "'"
  | _ =>
    let line := Text.trim (String.ofList (fault.rest.takeWhile (· != '\n')))
    if line.isEmpty then "invalid syntax" else "invalid syntax near '" ++ line ++ "'"

/-- Where a source is no Python, and why. -/
def syntaxFault (source : List Char) (fault : Label) : SyntaxFault :=
  let (line, column) := placeOf source fault.rest
  { line, column, description := describeFault fault }

/-- The functions of a source that deserve a test. -/
def scan (source : String) : Except SyntaxFault (List Function) :=
  let tree := parse source.toList
  match firstFault tree with
  | some fault => .error (syntaxFault source.toList fault.label)
  | none => .ok (catalogue tree)

/-- The module at a path, with the functions of its text. -/
def scanModule (path : ByteString) (source : String) : Except Failure SourceModule :=
  match scan source with
  | .ok functions => .ok { SourceModule.ofPath path with functions }
  | .error fault => .error (.invalidSyntax path fault)

end TestScaffold
