/-
  TestScaffold.Python.Parse — from tokens to a syntax tree.

    * `dispatch` — the stacks that a stack of frames can become on a symbol;
    * `Thread.settle` — the layout of a gap, fed to the grammar;
    * `Thread.feed` — one token;
    * `parse` — the tree of a source, with an `ERROR` or `MISSING` node if the
      grammar does not derive it.
-/
import TestScaffold.Python.Lexer
import TestScaffold.Python.Layout
import TestScaffold.Python.Statement

namespace TestScaffold.Python

/-! ## §1. Stacks -/

/-- The stacks after a symbol.  `r?` is what the frame above the stack found. -/
def dispatch : List Frame → (r? : Option Result) → Symbol → List (List Frame)
  | [], _, _ => []
  | f :: fs, r?, s =>
    let f := match r? with
      | some r => f.resume r
      | none => f
    (f.step s).flatMap fun
      | .shift frames => [frames ++ fs]
      | .finish r =>
        match fs with
        | [] => []
        | g :: gs => [g.resume r :: gs]
      | .pop r => dispatch fs (some r) s

/-- One reading of the tokens so far. -/
structure Thread where
  /-- What is being read. -/
  frames : List Frame
  /-- The columns of the open blocks, innermost first. -/
  columns : List Nat
  deriving Inhabited

namespace Thread

/-- The reading at the begin of a source. -/
def initial : Thread := ⟨[.program []], []⟩

/-- The readings after a symbol. -/
def take (t : Thread) (s : Symbol) : List Thread :=
  (dispatch t.frames none s).map fun frames => { t with frames }

/-- Whether the grammar accepts a symbol next. -/
def accepts (t : Thread) (s : Symbol) : Bool :=
  !(dispatch t.frames none s).isEmpty

/-- What the grammar accepts next, as far as layout asks. -/
def allowed (t : Thread) : Allowed :=
  { newline := t.accepts .newline
    indent := t.accepts .indent
    dedent := t.accepts .dedent
    text := t.accepts .text
    closer := t.accepts (.op ")") || t.accepts (.op "]") || t.accepts (.op "\x7d")
      || t.accepts .fieldClose
    handler := t.accepts (.name "except") }

/-! ## §2. Gaps and tokens -/

/-- Whether a gap can have layout at all. -/
def hasLayout (tok : Token) (gap : List Char) : Bool :=
  tok.symbol == .eof || gap.contains '\n'

/-- Feeds the layout of a gap.  Every step closes a block, opens one, ends a statement or passes
    over a comment, so the fuel is bounded by the open blocks and the gap. -/
def settle (tok : Token) : (fuel : Nat) → (gap : List Char) → Thread → List Thread
  | 0, _, _ => []
  | fuel + 1, gap, t =>
    if !hasLayout tok gap then [t]
    else
      match layout t.allowed t.columns tok gap with
      | some (s, columns) =>
        (t.take s).flatMap fun u => settle tok fuel gap { u with columns }
      | none =>
        match afterRemark? gap with
        | some rest => settle tok fuel rest t
        | none => [t]

/-- The parts of an operator that the grammar takes one by one where it does not take the whole. -/
def operatorParts? : Symbol → Option (List Symbol)
  | .op "**" => some [.op "*", .op "*"]
  | .op ":=" => some [.op ":", .op "="]
  | .op "..." => some [.op ".", .op ".", .op "."]
  | _ => none

/-- The readings after a symbol, which may have to be taken apart. -/
def takeWord (t : Thread) (s : Symbol) : List Thread :=
  match t.take s with
  | [] =>
    match operatorParts? s with
    | some parts => parts.foldl (fun ts part => ts.flatMap (·.take part)) [t]
    | none => []
  | ts => ts

/-- The readings of a token's gap. -/
def settleToken (t : Thread) (tok : Token) : List Thread :=
  settle tok (tok.gap.length + t.columns.length + 3) tok.gap t

/-- The readings after a token. -/
def feed (t : Thread) (tok : Token) : List Thread :=
  (t.settleToken tok).flatMap (·.takeWord tok.symbol)

/-- Whether a reading stands in the parameters of a function whose closing parenthesis is all that
    is missing before the token. -/
def lacksParenthesis (tok : Token) (t : Thread) : Bool :=
  match t.frames with
  | .parameters false _ :: _ =>
    (t.take (.op ")")).any fun u => !(u.feed tok).isEmpty
  | .expr _ :: .parameters false _ :: _ =>
    (t.take (.op ")")).any fun u => !(u.feed tok).isEmpty
  | _ => false

end Thread

/-! ## §3. Sources -/

/-- How the tokens of a source were read. -/
inductive Reading where
  /-- To the end, with these statements. -/
  | complete (nodes : List Node)
  /-- Up to a token that no reading takes. -/
  | stuck (threads : List Thread) (tok : Token)
  /-- To the end of the tokens without an end of the source. -/
  | cut

/-- Reads tokens with all readings at once. -/
def readTokens : List Thread → List Token → Reading
  | threads, [] =>
    match threads.findSome? fun t => match t.frames with
        | .accepted nodes :: _ => some nodes
        | _ => none with
    | some nodes => .complete nodes
    | none => .cut
  | threads, tok :: toks =>
    match threads.flatMap (·.feed tok) with
    | [] => .stuck threads tok
    | next => readTokens next toks

/-- The source from its first word on. -/
def firstWord (source : List Char) : List Char :=
  (takeGap false source).2

/-- The syntax tree of a source. -/
def parse (source : List Char) : Node :=
  match readTokens [Thread.initial] (tokens source) with
  | .complete nodes => Node.build .module none nodes source
  | .stuck threads tok =>
    if threads.any (Thread.lacksParenthesis tok) then
      Node.build .module none [Node.build (.missing ")") none [] tok.rest] source
    else Node.build .error none [] (firstWord source)
  | .cut => Node.build .error none [] (firstWord source)

end TestScaffold.Python
