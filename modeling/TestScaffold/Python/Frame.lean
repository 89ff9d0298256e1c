/-
  TestScaffold.Python.Frame — the positions of the grammar.

  A parse is a stack of frames; the top frame says what is being read, those
  below say what remains to be read around it.  Each frame, on a symbol, makes a
  `Move`: it takes the symbol and is replaced, takes it and is done, or is done
  without it.  What a finished frame found goes to the frame below as a `Result`.
-/
import TestScaffold.Python.Token
import TestScaffold.Python.Tree

namespace TestScaffold.Python

/-! ## §1. Expressions -/

/-- What kind of operand is needed. -/
inductive Level where
  /-- Any expression. -/
  | full
  /-- An expression without keyword operators. -/
  | primary
  /-- After stars: that many names, attributes or subscripts are still owed. -/
  | starred (owed : Nat)
  deriving DecidableEq, Repr

/-- What an expression looks like from outside. -/
inductive Shape where
  /-- A bare name. -/
  | name
  /-- An attribute or a subscript. -/
  | member
  /-- A starred name, attribute or subscript. -/
  | splat
  /-- A tuple or list of targets. -/
  | group
  /-- A string literal. -/
  | text
  /-- Anything else. -/
  | other
  deriving DecidableEq, Repr, Inhabited

/-- Whether a value can be assigned to an expression of that shape. -/
def Shape.isTarget : Shape → Bool
  | .name | .member | .splat | .group => true
  | .text | .other => false

/-- What an expression is read as. -/
inductive Use where
  /-- A value. -/
  | value
  /-- A part of a comprehension clause, where `if` begins the next clause. -/
  | clause
  /-- A target, without operators. -/
  | target
  /-- A type, which may be bounded after a colon. -/
  | typeHint
  /-- The type of a result, which ends at the colon. -/
  | result
  deriving DecidableEq, Repr

/-- How far an expression has been read. -/
inductive Phase where
  /-- An operand is needed. -/
  | operand (level : Level)
  /-- The brackets or quotes of an operand are open above. -/
  | inside (level : Level)
  /-- An operand of that shape has been read. -/
  | operator (level : Level) (shape : Shape)
  /-- A dot has been read. -/
  | attribute (level : Level)
  /-- `await` has been read. -/
  | awaiting (level : Level)
  /-- `not` has been read after an operand. -/
  | negated
  /-- `is` has been read. -/
  | identity
  deriving DecidableEq, Repr

/-- An expression being read. -/
structure Expr where
  /-- How far it has been read. -/
  phase : Phase := .operand .full
  /-- Whether an operator has been read. -/
  compound : Bool := false
  /-- What it is read as. -/
  use : Use := .value
  deriving DecidableEq, Repr

/-! ## §2. Lists and brackets -/

/-- Where in a comma-separated list the parse stands. -/
inductive Place where
  /-- Before the first item. -/
  | start
  /-- In an item. -/
  | item
  /-- After an item. -/
  | after
  /-- After a comma. -/
  | next
  deriving DecidableEq, Repr

/-- Expressions separated by commas. -/
structure Listing where
  /-- What they are read as. -/
  use : Use := .value
  /-- Whether a comma may end the list. -/
  trailing : Bool := true
  /-- Where the parse stands. -/
  place : Place := .item
  /-- Whether a comma has been read. -/
  several : Bool := false
  /-- Whether all items are targets. -/
  targets : Bool := true
  /-- The shape of the last item. -/
  shape : Shape := .other
  deriving DecidableEq, Repr

/-- What an item of a display is. -/
inductive ItemKind where
  /-- An expression. -/
  | plain
  /-- A starred expression. -/
  | star
  /-- A `yield` expression. -/
  | yielded
  deriving DecidableEq, Repr

/-- The items of a tuple or list display. -/
structure Display where
  /-- The closing bracket. -/
  closer : String
  /-- Where the parse stands. -/
  place : Place := .start
  /-- What the current item is. -/
  kind : ItemKind := .plain
  /-- Whether all items are targets. -/
  targets : Bool := true
  /-- Whether the current item is the first. -/
  first : Bool := true
  /-- Whether a comprehension may begin after the item. -/
  comprehension : Bool := false
  deriving DecidableEq, Repr

/-- Where in braces the parse stands. -/
inductive BracePlace where
  /-- After the opening brace. -/
  | start
  /-- In the first item, which may be a key. -/
  | firstItem
  /-- After the first item. -/
  | afterFirst
  /-- In the value of the first key. -/
  | firstValue
  /-- After the first pair. -/
  | afterFirstPair
  /-- In a later item of a set. -/
  | setItem
  /-- After an item of a set that begins no comprehension. -/
  | afterSetItem
  /-- After a comma in a set. -/
  | setNext
  /-- In a key. -/
  | key
  /-- After a key. -/
  | afterKey
  /-- In a value or in a double-starred mapping. -/
  | value
  /-- After a pair or mapping. -/
  | afterPair
  /-- After a comma in a dictionary. -/
  | pairNext
  /-- After a comma that stands alone. -/
  | closing
  deriving DecidableEq, Repr

/-- The arguments of a call or class. -/
structure Arguments where
  /-- Whether a comprehension may be the only argument. -/
  generator : Bool
  /-- Where the parse stands. -/
  place : Place := .start
  /-- Whether the current argument is a plain expression. -/
  plain : Bool := false
  /-- The shape of the last argument. -/
  shape : Shape := .other
  /-- Whether the current argument is the first. -/
  first : Bool := true
  deriving DecidableEq, Repr

/-- Where in a subscript the parse stands. -/
inductive SlicePlace where
  /-- Before the first item. -/
  | start
  /-- After a colon. -/
  | colon
  /-- In an expression. -/
  | item
  /-- After an expression. -/
  | after
  /-- After a comma. -/
  | next
  deriving DecidableEq, Repr

/-- The items of a subscript. -/
structure Subscript where
  /-- Whether double-starred names are allowed. -/
  generic : Bool
  /-- Where the parse stands. -/
  place : SlicePlace := .start
  /-- The colons of the current item. -/
  colons : Nat := 0
  deriving DecidableEq, Repr

/-- Where in a parameter list the parse stands. -/
inductive ParameterPlace where
  /-- Before the first parameter. -/
  | start
  /-- After a comma. -/
  | next
  /-- After a name. -/
  | named
  /-- After a single star. -/
  | star
  /-- In the name after stars. -/
  | inSplat
  /-- After a starred name. -/
  | splat
  /-- In a tuple of names. -/
  | inTuple
  /-- After a tuple, which must consist of targets. -/
  | tuple (targets : Bool)
  /-- In a type; a default may follow if the parameter is a bare name. -/
  | inType (named : Bool)
  /-- After a type. -/
  | typed (named : Bool)
  /-- In a default value. -/
  | inDefault
  /-- After a complete parameter. -/
  | done
  deriving DecidableEq, Repr

/-! ## §3. Patterns -/

/-- Where in a case pattern the parse stands. -/
inductive PatternPhase where
  /-- A pattern is needed; a keyword may be allowed. -/
  | operand (keyword : Bool)
  /-- After a dotted name. -/
  | dotted (keyword : Bool)
  /-- After a string. -/
  | text
  /-- After a minus sign. -/
  | minus
  /-- After a number. -/
  | number
  /-- After the sign inside a complex number. -/
  | imaginary
  /-- After a whole pattern; alternatives may follow unless it was named. -/
  | closed (alternatives : Bool)
  deriving DecidableEq, Repr

/-- Where in a mapping pattern the parse stands. -/
inductive MappingPlace where
  /-- After the opening brace. -/
  | start
  /-- After a comma. -/
  | next
  /-- In or after a key. -/
  | key
  /-- After a pair or a double-starred name. -/
  | after
  deriving DecidableEq, Repr

/-! ## §4. Statements -/

/-- Where in a list of imported names the parse stands. -/
inductive ImportPlace where
  /-- A name is needed. -/
  | start
  /-- After a name, perhaps dotted. -/
  | named
  /-- After an alias. -/
  | aliased
  /-- After a comma. -/
  | next
  deriving DecidableEq, Repr

/-- The clauses that may follow the block of a compound statement. -/
inductive Tail where
  /-- None. -/
  | none
  /-- `elif` and `else`. -/
  | conditional
  /-- `else`. -/
  | loop
  /-- `except`, `else` and `finally`. -/
  | handlers
  /-- `finally`. -/
  | final
  deriving DecidableEq, Repr

/-- What a finished frame hands to the frame below. -/
structure Result where
  /-- The shape of an expression. -/
  shape : Shape := .other
  /-- The statements of a block, or the statement that was read. -/
  nodes : List Node := []

instance : Inhabited Result := ⟨{}⟩

/-- What is being read, or remains to be read. -/
inductive Frame where
  /-- One given symbol. -/
  | symbol (s : Symbol)
  /-- One identifier. -/
  | identifier
  /-- Nothing: this reading has failed. -/
  | blocked
  /-- An expression. -/
  | expr (e : Expr)
  /-- Expressions separated by commas. -/
  | listing (l : Listing)
  /-- A tuple or list display. -/
  | display (d : Display)
  /-- A set or dictionary display. -/
  | braces (p : BracePlace)
  /-- Arguments. -/
  | arguments (a : Arguments)
  /-- A subscript. -/
  | subscript (s : Subscript)
  /-- The clauses of a comprehension, up to the closing bracket. -/
  | clauses (closer : String)
  /-- Parameters of a function, or of a lambda. -/
  | parameters (isLambda : Bool) (p : ParameterPlace)
  /-- Type parameters in square brackets. -/
  | typeParameters (p : Place)
  /-- What follows `yield`. -/
  | yielded
  /-- A format string. -/
  | formatString
  /-- The begin of a replacement field. -/
  | fieldStart
  /-- The end of a replacement field; it may still have an `=`, a conversion, a specification. -/
  | fieldTail (debug convert spec : Bool)
  /-- A format specification. -/
  | fieldSpec
  /-- A case pattern; `simple` ones take no name and no keyword. -/
  | pattern (simple : Bool) (p : PatternPhase)
  /-- Case patterns in brackets. -/
  | patternGroup (closer : String) (p : Place)
  /-- A mapping pattern. -/
  | mapping (p : MappingPlace)
  /-- The head of a case clause. -/
  | caseHead (p : Place)
  /-- Imported names. -/
  | imports (bracketed : Bool) (p : ImportPlace)
  /-- What follows `from`. -/
  | fromStart
  /-- After the dots of a relative import. -/
  | fromDots
  /-- After the module name of an import. -/
  | fromDotted
  /-- What an import takes from the module. -/
  | fromNames (star : Bool)
  /-- Names separated by commas. -/
  | names
  /-- What may follow an expression list that is a statement. -/
  | assign (shape : Shape)
  /-- After an annotation. -/
  | annotated
  /-- The right side of an assignment. -/
  | rightSide
  /-- Expressions, if there are any. -/
  | optionalExprs
  /-- What follows `raise`. -/
  | raised (first : Bool)
  /-- What follows `print` in a print statement. -/
  | printStart
  /-- What follows `exec` in an exec statement. -/
  | execStart
  /-- After the code of an exec statement. -/
  | execTail
  /-- What follows `type` in a type alias. -/
  | typeStart
  /-- What follows `match` in a match statement. -/
  | matchStart
  /-- What follows `async` in a statement. -/
  | asyncStart
  /-- After the last simple statement of a line. -/
  | simpleTail
  /-- After a semicolon. -/
  | simpleNext
  /-- What follows the colon of a header. -/
  | suite
  /-- The statements of an indented block, last first. -/
  | block (read : List Node)
  /-- What follows the colon of a match statement. -/
  | matchSuite
  /-- The clauses of a match statement, last first. -/
  | matchBlock (read : List Node)
  /-- What follows a decorator. -/
  | decorated
  /-- What follows `def`. -/
  | defName
  /-- After the name of a function. -/
  | defSignature (name : String) (typed : Bool)
  /-- After the parameters of a function. -/
  | defResult (name : String)
  /-- What follows `class`. -/
  | className
  /-- After the name of a class. -/
  | classSignature (name : String) (typed : Bool)
  /-- What follows `except`. -/
  | handlerStart (starred : Bool)
  /-- The end of a compound statement, with the blocks it has so far. -/
  | tail (t : Tail) (kind : Kind) (name? : Option String) (read : List Node)
  /-- A whole source, statements last first. -/
  | program (read : List Node)
  /-- A source that has been read to its end. -/
  | accepted (nodes : List Node)
  deriving Inhabited

/-- What a frame does on a symbol. -/
inductive Move where
  /-- Takes the symbol; these frames stand in its place. -/
  | shift (frames : List Frame)
  /-- Takes the symbol and is done. -/
  | finish (r : Result)
  /-- Is done before the symbol. -/
  | pop (r : Result)

/-- The move with more frames below those it puts in place; only a shift takes them. -/
def Move.above (below : List Frame) : Move → Move
  | .shift frames => .shift (frames ++ below)
  | m => m

end TestScaffold.Python
