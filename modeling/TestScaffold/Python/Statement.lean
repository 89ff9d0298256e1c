/-
  TestScaffold.Python.Statement — moves of patterns and statements.

    * `patternStep`, `mappingStep`, `caseHeadStep` — the patterns of a match statement;
    * `importStep`, `fromStep` — imports;
    * `simpleStatement`, `compoundStatement` — the begin of a statement;
    * `Frame.step`, `Frame.resume` — the moves of every frame.

  `print`, `exec`, `type`, `match` and `async` begin a statement or are names; both
  readings are kept until one of them fails.
-/
import TestScaffold.Python.Expression

namespace TestScaffold.Python

/-! ## §1. Case patterns -/

/-- Moves of a case pattern. -/
def patternStep (simple : Bool) (p : PatternPhase) (s : Symbol) : List Move :=
  let stay (q : PatternPhase) : List Move := [.shift [.pattern simple q]]
  let inside (f : Frame) (q : PatternPhase) : List Move := [.shift [f, .pattern simple q]]
  let closed (alternatives : Bool) : List Move :=
    match s with
    | .op "|" => if alternatives then stay (.operand false) else []
    | .name "as" => if simple then [.pop {}] else inside .identifier (.closed false)
    | _ => [.pop {}]
  match p with
  | .operand keyword =>
    match s with
    | .name "_" | .name "True" | .name "False" | .name "None" => stay (.closed true)
    | .name w => if isReserved w then [] else stay (.dotted (keyword && !simple))
    | .text => stay .text
    | .formatOpen => inside .formatString .text
    | .number => stay .number
    | .op "-" => stay .minus
    | .op "[" => inside (.patternGroup "]" .start) (.closed true)
    | .op "(" => inside (.patternGroup ")" .start) (.closed true)
    | .op "\x7b" => inside (.mapping .start) (.closed true)
    | .op "*" | .op "**" => inside .identifier (.closed true)
    | _ => []
  | .dotted keyword =>
    match s with
    | .op "." => inside .identifier (.dotted false)
    | .op "(" => inside (.patternGroup ")" .start) (.closed true)
    | .op "=" => if keyword then stay (.operand false) else [.pop {}]
    | _ => closed true
  | .text =>
    match s with
    | .text => stay .text
    | .formatOpen => inside .formatString .text
    | _ => closed true
  | .minus => if s == .number then stay .number else []
  | .number => if s == .op "+" || s == .op "-" then stay .imaginary else closed true
  | .imaginary => if s == .number then stay (.closed true) else []
  | .closed alternatives => closed alternatives

/-- Moves at the begin of a pattern above the given frames. -/
def startPattern (simple : Bool) (below : List Frame) (s : Symbol) : List Move :=
  (patternStep simple (.operand true) s).map (Move.above below)

/-- Moves of patterns in brackets. -/
def patternGroupStep (closer : String) (p : Place) (s : Symbol) : List Move :=
  match p with
  | .item => []
  | .start | .next =>
    if s == .op closer then [.finish {}]
    else startPattern false [.patternGroup closer .after] s
  | .after =>
    if s == .op closer then [.finish {}]
    else if s == .op "," then [.shift [.patternGroup closer .next]]
    else []

/-- Moves of a mapping pattern. -/
def mappingStep (p : MappingPlace) (s : Symbol) : List Move :=
  match p with
  | .start | .next =>
    match s with
    | .op "\x7d" => [.finish {}]
    | .op "*" | .op "**" => [.shift [.identifier, .mapping .after]]
    | _ => startPattern true [.mapping .key] s
  | .key =>
    if s == .op ":" then [.shift [.pattern false (.operand true), .mapping .after]] else []
  | .after =>
    match s with
    | .op "\x7d" => [.finish {}]
    | .op "," => [.shift [.mapping .next]]
    | _ => []

/-- Moves of the head of a case clause. -/
def caseHeadStep (p : Place) (s : Symbol) : List Move :=
  match s with
  | .op ":" => [.finish {}]
  | .name "if" => [.shift [.expr {}, .symbol (.op ":")]]
  | _ =>
    match p with
    | .next => startPattern false [.caseHead .after] s
    | _ => if s == .op "," then [.shift [.caseHead .next]] else []

/-! ## §2. Imports -/

/-- Moves of a list of imported names. -/
def importStep (bracketed : Bool) (p : ImportPlace) (s : Symbol) : List Move :=
  let place (q : ImportPlace) : Frame := .imports bracketed q
  let leave : List Move :=
    if bracketed then (if s == .op ")" then [.finish {}] else []) else [.pop {}]
  let separate : List Move := if s == .op "," then [.shift [place .next]] else leave
  match p with
  | .start | .next =>
    match s with
    | .name w =>
      if isReserved w then (if p == .next then leave else []) else [.shift [place .named]]
    | _ => if p == .next then leave else []
  | .named =>
    match s with
    | .op "." => [.shift [.identifier, place .named]]
    | .name "as" => [.shift [.identifier, place .aliased]]
    | _ => separate
  | .aliased => separate

/-- Moves after `from`. -/
def fromStep (s : Symbol) : List Move :=
  match s with
  | .op "." => [.shift [.fromDots]]
  | .name "__future__" => [.shift [.symbol (.name "import"), .fromNames false]]
  | .name w => if isReserved w then [] else [.shift [.fromDotted]]
  | _ => []

/-- Moves after the dots of a relative import. -/
def fromDotsStep (s : Symbol) : List Move :=
  match s with
  | .op "." => [.shift [.fromDots]]
  | .name "import" => [.shift [.fromNames true]]
  | .name w => if isReserved w then [] else [.shift [.fromDotted]]
  | _ => []

/-- Moves after the module name of an import. -/
def fromDottedStep (s : Symbol) : List Move :=
  match s with
  | .op "." => [.shift [.identifier, .fromDotted]]
  | .name "import" => [.shift [.fromNames true]]
  | _ => []

/-- Moves before what is taken from a module. -/
def fromNamesStep (star : Bool) (s : Symbol) : List Move :=
  match s with
  | .op "*" => if star then [.finish {}] else []
  | .op "(" => [.shift [.imports true .start]]
  | _ => importStep false .start s

/-! ## §3. Simple statements -/

/-- Operators that assign. -/
def assignmentOperators : List String :=
  ["=", "+=", "-=", "*=", "/=", "@=", "//=", "%=", "**=", ">>=", "<<=", "&=", "^=", "|="]

/-- Moves after an expression list that is a statement. -/
def assignStep (shape : Shape) (s : Symbol) : List Move :=
  if !shape.isTarget then [.pop {}]
  else
    match s with
    | .op ":" => [.shift [.expr { use := .typeHint }, .annotated]]
    | .op o => if assignmentOperators.contains o then [.shift [.rightSide]] else [.pop {}]
    | _ => [.pop {}]

/-- Moves on the right side of an assignment. -/
def rightSideStep (s : Symbol) : List Move :=
  if s == .name "yield" then [.shift [.yielded]] else startList {} [.assign .other] s

/-- Moves after `raise`, or after what it raises. -/
def raiseStep (first : Bool) (s : Symbol) : List Move :=
  if s == .name "from" then [.shift [.expr {}]]
  else if first then
    match startList {} [.raised false] s with
    | [] => [.pop {}]
    | moves => moves
  else [.pop {}]

/-- Moves after `exec` read as a keyword. -/
def execStep (s : Symbol) : List Move :=
  match s with
  | .newline => [.shift [.blocked]]
  | .text => [.shift [.execTail]]
  | .formatOpen => [.shift [.formatString, .execTail]]
  | .name w => if isReserved w then [] else [.shift [.execTail]]
  | _ => []

/-- The frames of a statement that begins with a name already read. -/
def namedStatement : List Frame :=
  [nameRead, .listing {}, .assign .other]

/-- Moves at the begin of a simple statement above the given frames. -/
def simpleStatement (below : List Frame) (s : Symbol) : List Move :=
  let reads (frames : List Frame) : List Move := [.shift (frames ++ below)]
  match s with
  | .name "pass" | .name "break" | .name "continue" => reads []
  | .name "import" => reads [.imports false .start]
  | .name "from" => reads [.fromStart]
  | .name "assert" => reads [.expr {}, .listing { trailing := false }]
  | .name "return" => reads [.optionalExprs]
  | .name "del" => reads [.expr {}, .listing {}]
  | .name "raise" => reads [.raised true]
  | .name "global" | .name "nonlocal" => reads [.identifier, .names]
  | .name "yield" => reads [.yielded]
  | .name "print" => reads namedStatement ++ reads [.printStart]
  | .name "exec" => reads namedStatement ++ reads [.execStart]
  | .name "type" => reads namedStatement ++ reads [.typeStart]
  | _ => startList {} (.assign .other :: below) s

/-! ## §4. Compound statements -/

/-- The frames of a block under a header, and of the statement's end. -/
def body (t : Tail) (kind : Kind) (name? : Option String) (read : List Node) : List Frame :=
  [.suite, .tail t kind name? read]

/-- The frames of a loop after `for`. -/
def forLoop : List Frame :=
  [.expr { use := .target }, .listing { use := .target }, .symbol (.name "in"), .expr {},
    .listing {}, .symbol (.op ":")] ++ body .loop (.statement "for_statement") none []

/-- The frames of a statement after `with`. -/
def withBlock : List Frame :=
  [.expr {}, .listing {}, .symbol (.op ":")] ++ body .none (.statement "with_statement") none []

/-- The frames after the `@` of a decorator. -/
def decoration : List Frame :=
  [.expr {}, .symbol .newline, .decorated]

/-- Moves at the begin of a statement above the given frames. -/
def statementStep (below : List Frame) (s : Symbol) : List Move :=
  let reads (frames : List Frame) : List Move := [.shift (frames ++ below)]
  match s with
  | .name "if" =>
    reads ([.expr {}, .symbol (.op ":")] ++ body .conditional (.statement "if_statement") none [])
  | .name "while" =>
    reads ([.expr {}, .symbol (.op ":")] ++ body .loop (.statement "while_statement") none [])
  | .name "for" => reads forLoop
  | .name "try" =>
    reads (.symbol (.op ":") :: body .handlers (.statement "try_statement") none [])
  | .name "with" => reads withBlock
  | .name "def" => reads [.defName]
  | .name "class" => reads [.className]
  | .op "@" => reads decoration
  | .name "async" => reads (namedStatement ++ [.simpleTail]) ++ reads [.asyncStart]
  | .name "match" => reads (namedStatement ++ [.simpleTail]) ++ reads [.matchStart]
  | _ => simpleStatement (.simpleTail :: below) s

/-- Moves after `async` read as a keyword. -/
def asyncStep (s : Symbol) : List Move :=
  match s with
  | .newline => [.shift [.blocked]]
  | .name "def" => [.shift [.defName]]
  | .name "for" => [.shift forLoop]
  | .name "with" => [.shift withBlock]
  | _ => []

/-- Moves after a decorator. -/
def decoratedStep (s : Symbol) : List Move :=
  match s with
  | .op "@" => [.shift decoration]
  | .name "def" => [.shift [.defName]]
  | .name "class" => [.shift [.className]]
  | .name "async" => [.shift [.symbol (.name "def"), .defName]]
  | _ => []

/-- Moves after the name of a function. -/
def defSignatureStep (name : String) (typed : Bool) (s : Symbol) : List Move :=
  match s with
  | .op "[" =>
    if typed then [] else [.shift [.typeParameters .start, .defSignature name true]]
  | .op "(" => [.shift [.parameters false .start, .defResult name]]
  | _ => []

/-- Moves after the parameters of a function. -/
def defResultStep (name : String) (s : Symbol) : List Move :=
  let rest : List Frame := body .none .functionDefinition (some name) []
  match s with
  | .op "->" => [.shift ([.expr { use := .result }, .symbol (.op ":")] ++ rest)]
  | .op ":" => [.shift rest]
  | _ => []

/-- Moves after the name of a class. -/
def classSignatureStep (name : String) (typed : Bool) (s : Symbol) : List Move :=
  let rest : List Frame := body .none .classDefinition (some name) []
  match s with
  | .op "[" =>
    if typed then [] else [.shift [.typeParameters .start, .classSignature name true]]
  | .op "(" => [.shift ([.arguments { generator := false }, .symbol (.op ":")] ++ rest)]
  | .op ":" => [.shift rest]
  | _ => []

/-- Moves after `except`. -/
def handlerStep (starred : Bool) (s : Symbol) : List Move :=
  match s with
  | .op ":" => [.finish {}]
  | .op "*" => if starred then [] else [.shift [.handlerStart true]]
  | _ => startList { trailing := false } [.symbol (.op ":")] s

/-- Moves at the end of a compound statement: a further clause, or none. -/
def tailStep (t : Tail) (kind : Kind) (name? : Option String) (read : List Node) (s : Symbol) :
    List Move :=
  let clause (next : Tail) (header : List Frame) : List Move :=
    [.shift (header ++ body next kind name? read)]
  let colon : List Frame := [.symbol (.op ":")]
  let done : List Move := [.pop { nodes := [Node.build kind name? read.reverse] }]
  match t, s with
  | .conditional, .name "elif" => clause .conditional (.expr {} :: colon)
  | .conditional, .name "else" => clause .none colon
  | .loop, .name "else" => clause .none colon
  | .handlers, .name "except" => clause .handlers [.handlerStart false]
  | .handlers, .name "else" => clause .final colon
  | .handlers, .name "finally" => clause .none colon
  | .final, .name "finally" => clause .none colon
  | _, _ => done

/-- Moves after the colon of a header. -/
def suiteStep (s : Symbol) : List Move :=
  match s with
  | .newline => [.finish {}]
  | .indent => [.shift [.block []]]
  | _ => simpleStatement [.simpleTail] s

/-- Moves in the block of a match statement. -/
def matchBlockStep (read : List Node) (s : Symbol) : List Move :=
  match s with
  | .dedent => [.finish { nodes := read.reverse }]
  | .name "case" =>
    [.shift ([.pattern false (.operand true), .caseHead .after]
      ++ body .none (.statement "case_clause") none [] ++ [.matchBlock read])]
  | _ => []

/-! ## §5. Every frame -/

/-- The moves of a frame on a symbol; none means that the symbol is refused. -/
def Frame.step (f : Frame) (s : Symbol) : List Move :=
  match f with
  | .symbol expected => if s == expected then [.finish {}] else []
  | .identifier =>
    match s with
    | .name w => if isReserved w then [] else [.finish {}]
    | _ => []
  | .blocked => []
  | .expr e => e.step s
  | .listing l => l.step s
  | .display d => d.step s
  | .braces p => braceStep p s
  | .arguments a => a.step s
  | .subscript b => b.step s
  | .clauses closer => clauseStep closer s
  | .parameters isLambda p => parameterStep isLambda p s
  | .typeParameters p => typeParameterStep p s
  | .yielded => yieldStep s
  | .formatString => formatStep s
  | .fieldStart => fieldStartStep s
  | .fieldTail debug convert spec => fieldTailStep debug convert spec s
  | .fieldSpec => fieldSpecStep s
  | .pattern simple p => patternStep simple p s
  | .patternGroup closer p => patternGroupStep closer p s
  | .mapping p => mappingStep p s
  | .caseHead p => caseHeadStep p s
  | .imports bracketed p => importStep bracketed p s
  | .fromStart => fromStep s
  | .fromDots => fromDotsStep s
  | .fromDotted => fromDottedStep s
  | .fromNames star => fromNamesStep star s
  | .names => if s == .op "," then [.shift [.identifier, .names]] else [.pop {}]
  | .assign shape => assignStep shape s
  | .annotated => if s == .op "=" then [.shift [.rightSide]] else [.pop {}]
  | .rightSide => rightSideStep s
  | .optionalExprs =>
    match startList {} [] s with
    | [] => [.pop {}]
    | moves => moves
  | .raised first => raiseStep first s
  | .printStart =>
    match s with
    | .newline => [.shift [.blocked]]
    | .op ">>" => [.shift [.expr {}, .listing {}]]
    | _ => startList {} [] s
  | .execStart => execStep s
  | .execTail =>
    if s == .name "in" then [.shift [.expr {}, .listing { trailing := false }]] else [.pop {}]
  | .typeStart =>
    if s == .newline then [.shift [.blocked]]
    else startExpr .typeHint [.symbol (.op "="), .expr { use := .typeHint }] s
  | .matchStart =>
    if s == .newline then [.shift [.blocked]]
    else
      startList {} [.symbol (.op ":"), .matchSuite, .tail .none (.statement "match_statement") none []]
        s
  | .asyncStart => asyncStep s
  | .simpleTail =>
    match s with
    | .newline => [.finish {}]
    | .op ";" => [.shift [.simpleNext]]
    | _ => []
  | .simpleNext =>
    if s == .newline then [.finish {}] else simpleStatement [.simpleTail] s
  | .suite => suiteStep s
  | .block read =>
    if s == .dedent then [.finish { nodes := read.reverse }] else statementStep [.block read] s
  | .matchSuite =>
    match s with
    | .newline => [.finish {}]
    | .indent => [.shift [.matchBlock []]]
    | _ => []
  | .matchBlock read => matchBlockStep read s
  | .decorated => decoratedStep s
  | .defName =>
    match s with
    | .name w => if isReserved w then [] else [.shift [.defSignature w false]]
    | _ => []
  | .defSignature name typed => defSignatureStep name typed s
  | .defResult name => defResultStep name s
  | .className =>
    match s with
    | .name w => if isReserved w then [] else [.shift [.classSignature w false]]
    | _ => []
  | .classSignature name typed => classSignatureStep name typed s
  | .handlerStart starred => handlerStep starred s
  | .tail t kind name? read => tailStep t kind name? read s
  | .program read =>
    if s == .eof then [.shift [.accepted read.reverse]] else statementStep [.program read] s
  | .accepted _ => []

/-- The frame once the frame above it is done. -/
def Frame.resume (f : Frame) (r : Result) : Frame :=
  match f with
  | .expr e => .expr (e.resume r)
  | .listing l => .listing (l.resume r)
  | .display d => .display (d.resume r)
  | .braces p => .braces p.resume
  | .arguments a => .arguments (a.resume r)
  | .subscript b => .subscript b.resume
  | .parameters isLambda p => .parameters isLambda (p.resume r)
  | .typeParameters .item => .typeParameters .after
  | .assign _ => .assign r.shape
  | .block read => .block (r.nodes.reverse ++ read)
  | .matchBlock read => .matchBlock (r.nodes.reverse ++ read)
  | .tail t kind name? read => .tail t kind name? (Node.build .block none r.nodes :: read)
  | .program read => .program (r.nodes.reverse ++ read)
  | f => f

end TestScaffold.Python
