/-
  TestScaffold.Python.Expression — moves inside expressions.

  Precedence does not decide whether a text is an expression, so an expression is
  read as operands with operators between them.  Only two distinctions remain:
  whether an operand may begin with a keyword operator, and whether the whole is
  a target.

    * `Expr.step` — operands, operators, trailers, conditionals and lambdas;
    * `Listing.step`, `Display.step`, `braceStep`, `Arguments.step`, `Subscript.step`;
    * `clauseStep` — comprehensions; `parameterStep` — parameters.
-/
import TestScaffold.Python.Frame

namespace TestScaffold.Python

/-! ## §1. Operands and operators -/

/-- Operators between two primary expressions. -/
def binaryOperators : List String :=
  ["+", "-", "*", "@", "/", "%", "//", "**", "|", "&", "^", "<<", ">>"]

/-- Comparisons written as signs. -/
def comparisonOperators : List String :=
  ["<", "<=", "==", "!=", ">=", ">", "<>"]

/-- The level and shape after an operand or trailer of the given shape: a name, attribute or
    subscript pays for one star. -/
def Level.settle : Level → Shape → Level × Shape
  | .starred owed, s =>
    if s == .name || s == .member then
      if owed ≤ 1 then (.primary, .splat) else (.starred (owed - 1), .other)
    else (.starred owed, s)
  | l, s => (l, s)

namespace Expr

/-- The expression after an operand or trailer of the given shape. -/
def settled (e : Expr) (level : Level) (shape : Shape) : Expr :=
  let (l, s) := level.settle shape
  { e with phase := .operator l s }

/-- The expression after an operator. -/
def continued (e : Expr) (level : Level) : Expr :=
  { e with phase := .operand level, compound := true }

/-- The expression as a result for the frame below. -/
def result (e : Expr) : Result :=
  match e.phase with
  | .operator _ s => { shape := if e.compound then .other else s }
  | _ => {}

/-- Stays on the stack in the given phase. -/
def stay (e : Expr) : List Move := [.shift [.expr e]]

/-- Moves where an operand is needed. -/
def operandStep (e : Expr) (level : Level) (s : Symbol) : List Move :=
  let plain := e.use != .target
  let opened (f : Frame) : List Move := [.shift [f, .expr { e with phase := .inside level }]]
  match s with
  | .name "True" | .name "False" | .name "None" => (e.settled level .other).stay
  | .name "not" => if plain && level == .full then (e.continued .full).stay else []
  | .name "lambda" =>
    if plain && level == .full then
      let use := if e.use == .clause && e.compound then .value else e.use
      [.shift [.parameters true .start, .symbol (.op ":"), .expr { e.continued .full with use }]]
    else []
  | .name "await" =>
    if plain && level != .starred 1 then [.shift [.expr { e with phase := .awaiting level }]]
    else (e.settled level .name).stay
  | .name "async" => (e.settled level .name).stay
  | .name w => if isReserved w then [] else (e.settled level .name).stay
  | .number | .op "..." => (e.settled level .other).stay
  | .text => (e.settled level .text).stay
  | .formatOpen => opened .formatString
  | .op "(" => opened (.display { closer := ")" })
  | .op "[" => opened (.display { closer := "]" })
  | .op "\x7b" => opened (.braces .start)
  | .op "-" | .op "+" | .op "~" =>
    match level with
    | .starred _ => []
    | _ => if plain then (e.continued .primary).stay else []
  | .op "*" =>
    match level with
    | .starred owed => { e with phase := .operand (.starred (owed + 1)) }.stay
    | _ => { e with phase := .operand (.starred 1) }.stay
  | .op "**" =>
    if (e.use == .typeHint || e.use == .result) && level == .full then
      [.shift [.identifier, .expr { e with phase := .inside .primary, compound := true }]]
    else []
  | _ => []

/-- Moves after an operand. -/
def operatorStep (e : Expr) (level : Level) (shape : Shape) (s : Symbol) : List Move :=
  let inside (f : Frame) : List Move := [.shift [f, .expr { e with phase := .inside level }]]
  let owing := match level with
    | .starred _ => true
    | _ => false
  let isType := e.use == .typeHint || e.use == .result
  let done : List Move := [.pop e.result]
  match s with
  | .op "." => [.shift [.expr { e with phase := .attribute level }]]
  | .op "[" => inside (.subscript { generic := isType && shape == .name })
  | .op "(" => inside (.arguments { generator := true })
  | .text => if shape == .text then e.stay else if owing then [] else done
  | .formatOpen =>
    if shape == .text then inside .formatString else if owing then [] else done
  | _ =>
    if owing then []
    else if e.use == .target then done
    else
      match s with
      | .name "and" | .name "or" | .name "as" => (e.continued .full).stay
      | .name "in" => (e.continued .primary).stay
      | .name "not" => { e with phase := .negated }.stay
      | .name "is" => { e with phase := .identity }.stay
      | .name "if" =>
        if e.use == .clause then done
        else [.shift [.expr {}, .symbol (.name "else"), .expr (e.continued .full)]]
      | .op ":=" => if level == .full && shape == .name then (e.continued .full).stay else done
      | .op ":" => if e.use == .typeHint then (e.continued .full).stay else done
      | .op "|" => (e.continued (if isType then .full else .primary)).stay
      | .op o =>
        if binaryOperators.contains o || comparisonOperators.contains o then
          (e.continued .primary).stay
        else done
      | _ => done

/-- Moves of an expression. -/
def step (e : Expr) (s : Symbol) : List Move :=
  match e.phase with
  | .operand level => e.operandStep level s
  | .operator level shape => e.operatorStep level shape s
  | .inside _ => []
  | .attribute level =>
    match s with
    | .name w => if isReserved w then [] else (e.settled level .member).stay
    | _ => []
  | .awaiting level =>
    match { e with compound := true }.operandStep .primary s with
    | [] => { e with phase := .operator level .name }.operatorStep level .name s
    | moves => moves
  | .negated => if s == .name "in" then (e.continued .primary).stay else []
  | .identity =>
    if s == .name "not" then (e.continued .primary).stay
    else { e with compound := true }.operandStep .primary s

/-- The expression once the frame above is done. -/
def resume (e : Expr) (r : Result) : Expr :=
  match e.phase with
  | .inside level => e.settled level r.shape
  | _ => e

end Expr

/-- Moves at the begin of an expression above the given frames. -/
def startExpr (use : Use) (below : List Frame) (s : Symbol) : List Move :=
  (({ use } : Expr).step s).map (Move.above below)

/-- The frames of an expression that is a name already read. -/
def nameRead : Frame := .expr { phase := .operator .full .name }

/-! ## §2. Lists -/

namespace Listing

/-- The shape of the list. -/
def result (l : Listing) : Result :=
  { shape := if l.several then (if l.targets then .group else .other) else l.shape }

/-- Moves of a list. -/
def step (l : Listing) (s : Symbol) : List Move :=
  match l.place with
  | .start | .item => []
  | .after =>
    if l.use == .target && !l.targets then []
    else if s == .op "," then [.shift [.listing { l with place := .next, several := true }]]
    else [.pop l.result]
  | .next =>
    match startExpr l.use [.listing { l with place := .item }] s with
    | [] => if l.trailing then [.pop l.result] else []
    | moves => moves

/-- The list once an item is done. -/
def resume (l : Listing) (r : Result) : Listing :=
  match l.place with
  | .item => { l with place := .after, targets := l.targets && r.shape.isTarget, shape := r.shape }
  | _ => l

end Listing

/-- Moves at the begin of a comma-separated list above the given frames. -/
def startList (l : Listing) (below : List Frame) (s : Symbol) : List Move :=
  startExpr l.use (.listing { l with place := .item } :: below) s

/-- Moves at the begin of a comprehension clause. -/
def startClauses (closer : String) (s : Symbol) : List Move :=
  let loop : List Frame :=
    [.expr { phase := .operand .primary, use := .target }, .listing { use := .target },
      .symbol (.name "in"), .expr { use := .clause }, .listing { use := .clause }, .clauses closer]
  match s with
  | .name "for" => [.shift loop]
  | .name "async" => [.shift (.symbol (.name "for") :: loop)]
  | _ => []

/-- Moves between the clauses of a comprehension. -/
def clauseStep (closer : String) (s : Symbol) : List Move :=
  match s with
  | .name "if" => [.shift [.expr { use := .clause }, .clauses closer]]
  | .op o => if o == closer then [.finish {}] else []
  | _ => startClauses closer s

namespace Display

/-- The shape of the display. -/
def result (d : Display) : Result :=
  { shape := if d.targets then .group else .other }

/-- Moves at the begin of an item. -/
def startItem (d : Display) (s : Symbol) : List Move :=
  let item (kind : ItemKind) : Frame := .display { d with place := .item, kind }
  match s with
  | .name "yield" => [.shift [.yielded, item .yielded]]
  | .op "*" => [.shift [.expr {}, item .star]]
  | _ => startExpr .value [item .plain] s

/-- Moves of a display. -/
def step (d : Display) (s : Symbol) : List Move :=
  match d.place with
  | .item => []
  | .start | .next => if s == .op d.closer then [.finish d.result] else d.startItem s
  | .after =>
    if s == .op d.closer then [.finish d.result]
    else if s == .op "," then [.shift [.display { d with place := .next, first := false }]]
    else if d.comprehension then startClauses d.closer s
    else []

/-- The display once an item is done. -/
def resume (d : Display) (r : Result) : Display :=
  match d.place with
  | .item =>
    let bare := r.shape == .name || r.shape == .member
    { d with
      place := .after
      targets := d.targets && (match d.kind with
        | .plain => r.shape.isTarget
        | .star => bare
        | .yielded => false)
      comprehension := d.first && (match d.kind with
        | .plain => true
        | .star => bare
        | .yielded => false) }
  | _ => d

end Display

/-- Moves of a set or dictionary display. -/
def braceStep (p : BracePlace) (s : Symbol) : List Move :=
  let close : List Move := if s == .op "\x7d" then [.finish {}] else []
  let mapped : List Move := [.shift [.expr {}, .braces .value]]
  match p with
  | .start =>
    match s with
    | .op "\x7d" => close
    | .op "," => [.shift [.braces .closing]]
    | .op "**" => mapped
    | .op "*" => [.shift [.expr {}, .braces .setItem]]
    | .name "yield" => [.shift [.yielded, .braces .setItem]]
    | _ => startExpr .value [.braces .firstItem] s
  | .afterFirst =>
    match s with
    | .op ":" => [.shift [.expr {}, .braces .firstValue]]
    | .op "," => [.shift [.braces .setNext]]
    | .op "\x7d" => close
    | _ => startClauses "\x7d" s
  | .afterFirstPair =>
    match s with
    | .op "," => [.shift [.braces .pairNext]]
    | .op "\x7d" => close
    | _ => startClauses "\x7d" s
  | .setNext =>
    match s with
    | .op "\x7d" => close
    | .op "*" => [.shift [.expr {}, .braces .setItem]]
    | .name "yield" => [.shift [.yielded, .braces .setItem]]
    | _ => startExpr .value [.braces .setItem] s
  | .afterSetItem => if s == .op "," then [.shift [.braces .setNext]] else close
  | .afterKey => if s == .op ":" then [.shift [.expr {}, .braces .value]] else []
  | .afterPair => if s == .op "," then [.shift [.braces .pairNext]] else close
  | .pairNext =>
    match s with
    | .op "\x7d" => close
    | .op "**" => mapped
    | _ => startExpr .value [.braces .key] s
  | .closing => close
  | .firstItem | .firstValue | .setItem | .key | .value => []

/-- Braces once an item is done. -/
def BracePlace.resume : BracePlace → BracePlace
  | .firstItem => .afterFirst
  | .firstValue => .afterFirstPair
  | .setItem => .afterSetItem
  | .key => .afterKey
  | .value => .afterPair
  | p => p

namespace Arguments

/-- Moves of arguments. -/
def step (a : Arguments) (s : Symbol) : List Move :=
  let item (plain : Bool) : Frame := .arguments { a with place := .item, plain }
  match a.place with
  | .item => []
  | .start | .next =>
    match s with
    | .op ")" => [.finish {}]
    | .op "," => if a.place == .start then [.shift [.symbol (.op ")")]] else []
    | .op "*" | .op "**" => [.shift [.expr {}, item false]]
    | _ => startExpr .value [item true] s
  | .after =>
    match s with
    | .op ")" => [.finish {}]
    | .op "," => [.shift [.arguments { a with place := .next, first := false }]]
    | .op "=" => if a.plain && a.shape == .name then [.shift [.expr {}, item false]] else []
    | _ => if a.generator && a.first && a.plain then startClauses ")" s else []

/-- Arguments once an argument is done. -/
def resume (a : Arguments) (r : Result) : Arguments :=
  match a.place with
  | .item => { a with place := .after, shape := r.shape }
  | _ => a

end Arguments

namespace Subscript

/-- Moves of a subscript. -/
def step (b : Subscript) (s : Symbol) : List Move :=
  let item : List Frame := [.subscript { b with place := .item }]
  let colon : List Move :=
    if b.colons < 2 then [.shift [.subscript { b with place := .colon, colons := b.colons + 1 }]]
    else []
  let rest : List Move :=
    match s with
    | .op "]" => [.finish { shape := .member }]
    | .op "," => [.shift [.subscript { b with place := .next, colons := 0 }]]
    | .op ":" => colon
    | _ => []
  match b.place with
  | .item => []
  | .after => rest
  | .colon =>
    match startExpr .value item s with
    | [] => rest
    | moves => moves
  | .start | .next =>
    match s with
    | .op ":" => colon
    | .op "]" => if b.place == .next then [.finish { shape := .member }] else []
    | .op "**" => if b.generic then [.shift (.identifier :: item)] else []
    | _ => startExpr .value item s

/-- A subscript once an item is done. -/
def resume (b : Subscript) : Subscript :=
  match b.place with
  | .item => { b with place := .after }
  | _ => b

end Subscript

/-! ## §3. Parameters -/

/-- Moves of parameters; those of a lambda end before its colon and have no types. -/
def parameterStep (isLambda : Bool) (p : ParameterPlace) (s : Symbol) : List Move :=
  let place (q : ParameterPlace) : Frame := .parameters isLambda q
  let separate : List Move :=
    if s == .op "," then [.shift [place .next]]
    else if isLambda then (if s == .op ":" then [.pop {}] else [])
    else if s == .op ")" then [.finish {}] else []
  let value : List Move :=
    if s == .op "=" then [.shift [.expr {}, place .inDefault]] else separate
  let type (named : Bool) (otherwise : List Move) : List Move :=
    if !isLambda && s == .op ":" then [.shift [.expr { use := .typeHint }, place (.inType named)]]
    else otherwise
  let starred : Expr := { phase := .operand (.starred 1), use := .target }
  match p with
  | .start | .next =>
    match s with
    | .name w => if isReserved w then [] else [.shift [place .named]]
    | .op "(" => [.shift [.display { closer := ")" }, place .inTuple]]
    | .op "*" => [.shift [place .star]]
    | .op "**" => [.shift [.expr starred, place .inSplat]]
    | .op "/" => [.shift [place .done]]
    | .op "," => []
    | _ => separate
  | .named => type true value
  | .star =>
    match (starred.step s).map (Move.above [place .inSplat]) with
    | [] => separate
    | moves => moves
  | .splat => type false separate
  | .tuple targets => if targets then value else []
  | .typed named => if named then value else separate
  | .done => separate
  | .inSplat | .inTuple | .inType _ | .inDefault => []

/-- Parameters once a part of one is done. -/
def ParameterPlace.resume (r : Result) : ParameterPlace → ParameterPlace
  | .inSplat => .splat
  | .inTuple => .tuple (r.shape == .group)
  | .inType bare => .typed bare
  | .inDefault => .done
  | p => p

/-- Moves of type parameters. -/
def typeParameterStep (p : Place) (s : Symbol) : List Move :=
  let item := startExpr .typeHint [.typeParameters .item] s
  match p with
  | .item => []
  | .start => item
  | .next => if s == .op "]" then [.finish {}] else item
  | .after =>
    if s == .op "]" then [.finish {}]
    else if s == .op "," then [.shift [.typeParameters .next]]
    else []

/-! ## §4. `yield` and format strings -/

/-- Moves after `yield`. -/
def yieldStep (s : Symbol) : List Move :=
  if s == .name "from" then [.shift [.expr {}]]
  else
    match startList {} [] s with
    | [] => [.pop {}]
    | moves => moves

/-- Moves inside a format string. -/
def formatStep (s : Symbol) : List Move :=
  match s with
  | .fieldOpen => [.shift [.fieldStart, .formatString]]
  | .formatClose => [.finish { shape := .text }]
  | _ => []

/-- Moves at the begin of a replacement field. -/
def fieldStartStep (s : Symbol) : List Move :=
  let tail : Frame := .fieldTail true true true
  if s == .name "yield" then [.shift [.yielded, tail]] else startList {} [tail] s

/-- Moves at the end of a replacement field. -/
def fieldTailStep (debug convert spec : Bool) (s : Symbol) : List Move :=
  match s with
  | .op "=" => if debug then [.shift [.fieldTail false convert spec]] else []
  | .conversion => if convert then [.shift [.fieldTail false false spec]] else []
  | .formatSpec => if spec then [.shift [.fieldSpec]] else []
  | .fieldClose => [.finish {}]
  | _ => []

/-- Moves inside a format specification. -/
def fieldSpecStep (s : Symbol) : List Move :=
  match s with
  | .fieldOpen => [.shift [.fieldStart, .fieldSpec]]
  | .fieldClose => [.finish {}]
  | _ => []

end TestScaffold.Python
