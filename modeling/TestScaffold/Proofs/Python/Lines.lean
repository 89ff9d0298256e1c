/-
  TestScaffold.Proofs.Python.Lines — the lines of an outline, and what the grammar makes of them.

  An outline consists of simple lines, and of headers with blocks below them.

    * `Outline.Simple`, `Outline.Head` — simple lines, and headers with their decorators;
    * `advance_simple` — a simple line leaves frames that wait for its end;
    * `advance_head` — a header leaves the frames of its block, below a decorator and without one.
-/
import TestScaffold.Proofs.Python.Positions

namespace TestScaffold.Python

/-- The identifier as a word. -/
def Identifier.word (i : Identifier) : Word := .name i.text i.named

/-- A keyword, or another fixed name, as a word. -/
def keyword (text : String) (named : isName text = true := by decide) : Word := .name text named

namespace Outline

/-! ## §1. Lines -/

/-- A line without a block. -/
inductive Simple where
  /-- `pass` -/
  | pass
  /-- `return` -/
  | returning
  /-- `assert True` or `assert False` -/
  | asserting (value : Bool)
  /-- A text in triple quotes. -/
  | quoting (content : List Char) (plain : content.all isPlain = true)
  /-- An import of a dotted name. -/
  | importing (first : Identifier) (rest : List Identifier)

/-- A line that opens a block, with the decorator before it. -/
inductive Head where
  /-- `if x:` -/
  | conditional (test : Identifier)
  /-- `def f():`, perhaps `async`, perhaps with the parameter `self`. -/
  | function (decorator? : Option Identifier) (isAsync : Bool) (name : Identifier) (isMethod : Bool)
  /-- `class C:`, perhaps with a base class out of a module. -/
  | klass (decorator? : Option Identifier) (name : Identifier)
      (base? : Option (Identifier × Identifier))

/-- The words of a dotted name after its first. -/
def dotted (rest : List Identifier) : List (Bool × Word) :=
  rest.flatMap fun i => [(false, .mark .dot), (false, i.word)]

theorem name_endsBefore_mark {text : String} (named : isName text = true) (m : Mark) :
    (Word.name text named).endsBefore (some m.char) = true := by
  cases m <;> rfl

theorem mark_endsBefore_name (m : Mark) {text : String} (named : isName text = true) :
    (Word.mark m).endsBefore (Word.name text named).chars.head? = true := by
  obtain ⟨c, rest, hchars, hc, -⟩ := chars_of_isName named
  simp only [Word.chars, hchars, List.head?_cons]
  exact Word.mark_endsBefore hc m

theorem separated_dotted {text : String} (named : isName text = true) (rest : List Identifier) :
    separated (.name text named) (dotted rest) = true := by
  induction rest generalizing text with
  | nil => rfl
  | cons i rest ih =>
      show ((false || (Word.name text named).endsBefore (some Mark.dot.char))
        && ((false || (Word.mark .dot).endsBefore i.word.chars.head?)
          && separated i.word (dotted rest))) = true
      rw [name_endsBefore_mark, Identifier.word, mark_endsBefore_name, ih]
      rfl

/-- The line as words. -/
def Simple.line : Simple → Line
  | pass => ⟨keyword "pass", [], rfl⟩
  | returning => ⟨keyword "return", [], rfl⟩
  | asserting true => ⟨keyword "assert", [(true, keyword "True")], rfl⟩
  | asserting false => ⟨keyword "assert", [(true, keyword "False")], rfl⟩
  | quoting content plain => ⟨.quoted content plain, [], rfl⟩
  | importing first rest =>
    ⟨keyword "import", (true, first.word) :: dotted rest, separated_dotted first.named rest⟩

namespace Head

/-- The decorator before the header. -/
def decorator? : Head → Option Identifier
  | conditional _ => none
  | function d _ _ _ | klass d _ _ => d

/-- The words of a parameter list and the colon after it. -/
def parameters (isMethod : Bool) : List (Bool × Word) :=
  if isMethod then
    [(false, .mark .opening), (false, keyword "self"), (false, .mark .closing), (false, .mark .colon)]
  else [(false, .mark .opening), (false, .mark .closing), (false, .mark .colon)]

/-- The words of a list of base classes and the colon after it. -/
def bases : Option (Identifier × Identifier) → List (Bool × Word)
  | some (m, c) =>
    [(false, .mark .opening), (false, m.word), (false, .mark .dot), (false, c.word),
      (false, .mark .closing), (false, .mark .colon)]
  | none => [(false, .mark .colon)]

theorem separated_parameters {text : String} (named : isName text = true) (isMethod : Bool) :
    separated (.name text named) (parameters isMethod) = true := by
  cases isMethod <;> rfl

theorem separated_bases {text : String} (named : isName text = true)
    (base? : Option (Identifier × Identifier)) :
    separated (.name text named) (bases base?) = true := by
  cases base? with
  | none => rfl
  | some base =>
      obtain ⟨m, c⟩ := base
      show ((false || (Word.name text named).endsBefore (some Mark.opening.char))
        && ((false || (Word.mark .opening).endsBefore m.word.chars.head?)
          && ((false || m.word.endsBefore (some Mark.dot.char))
            && ((false || (Word.mark .dot).endsBefore c.word.chars.head?)
              && ((false || c.word.endsBefore (some Mark.closing.char)) && true))))) = true
      simp only [Identifier.word, name_endsBefore_mark, mark_endsBefore_name]
      rfl

/-- The header as words. -/
def line : Head → Line
  | conditional test =>
    ⟨keyword "if", [(true, test.word), (false, .mark .colon)], rfl⟩
  | function _ false name isMethod =>
    ⟨keyword "def", (true, name.word) :: parameters isMethod, separated_parameters name.named isMethod⟩
  | function _ true name isMethod =>
    ⟨keyword "async", (true, keyword "def") :: (true, name.word) :: parameters isMethod,
      separated_parameters name.named isMethod⟩
  | klass _ name base? =>
    ⟨keyword "class", (true, name.word) :: bases base?, separated_bases name.named base?⟩

/-- Whether clauses such as `else` may follow the block. -/
def isConditional : Head → Bool
  | conditional _ => true
  | function _ _ _ _ | klass _ _ _ => false

/-- The kind of the statement. -/
def kind : Head → Kind
  | conditional _ => .statement "if_statement"
  | function _ _ _ _ => .functionDefinition
  | klass _ _ _ => .classDefinition

/-- The name that the statement defines. -/
def name? : Head → Option String
  | conditional _ => none
  | function _ _ name _ | klass _ name _ => some name.text

/-- The line of a decorator. -/
def decoration (d : Identifier) : Line :=
  ⟨.mark .decorator, [(false, d.word)], by
    show ((false || (Word.mark .decorator).endsBefore d.word.chars.head?) && true) = true
    rw [Identifier.word, mark_endsBefore_name]
    rfl⟩

end Head

/-! ## §2. What the grammar makes of a line -/

theorem advance_step {fs g : List Frame} {s : Symbol} (h : dispatch fs none s = [g])
    (ss : List Symbol) : advance [fs] (s :: ss) = advance [g] ss := by
  show advance ([fs].flatMap _) ss = _
  rw [List.flatMap_cons, List.flatMap_nil, List.append_nil, h]

/-- A name that is no keyword is an operand. -/
theorem operandStep_name {w : String} (h : isReserved w = false) (e : Expr) (level : Python.Level) :
    e.operandStep level (.name w) = (e.settled level .name).stay := by
  have hne : ∀ text, isReserved text = true → w ≠ text := by
    intro text htext heq
    rw [heq, htext] at h
    cases h
  unfold Expr.operandStep
  -- the cases are the keywords, any other name, and the symbols that are no names
  split
  all_goals first
    | contradiction
    | exact absurd (Symbol.name.inj ‹_›) (hne _ (by decide))
    | (cases ‹Symbol.name w = _›; simp [h])
    | exact absurd rfl (‹∀ w', Symbol.name w = .name w' → False› w)

/-- So it is at the begin of an expression. -/
theorem dispatch_operand (i : Identifier) (use : Use) (fs : List Frame) :
    dispatch (.expr { use } :: fs) none (.name i.text)
      = [.expr (({ use } : Expr).settled .full .name) :: fs] := by
  rw [dispatch]
  show ((Expr.operandStep { use } .full (.name i.text)).flatMap _) = _
  rw [operandStep_name i.free]
  rfl

/-- The frames on top of a position where a line can only end. -/
structure LineEnd (fs : List Frame) (after : List Frame) : Prop where
  /-- The end of the line leads on. -/
  newline : dispatch fs none .newline = [after]
  /-- No block begins. -/
  indent : dispatch fs none .indent = []
  /-- No block ends. -/
  dedent : dispatch fs none .dedent = []

/-- An import goes on over the dots. -/
theorem advance_dotted (rest : List Identifier) (fs : List Frame) :
    advance [.imports false .named :: fs] ((dotted rest).map fun p => p.2.symbol)
      = [.imports false .named :: fs] := by
  induction rest with
  | nil => rfl
  | cons i rest ih =>
      have hname : dispatch (.identifier :: .imports false .named :: fs) none (.name i.text)
          = [.imports false .named :: fs] := by
        rw [dispatch]
        show ((if isReserved i.text then [] else [Move.finish {}]).flatMap _) = _
        rw [i.free]
        rfl
      show advance [.imports false .named :: fs] (.op "." :: .name i.text :: _) = _
      rw [advance_step (g := .identifier :: .imports false .named :: fs) rfl,
        advance_step hname]
      exact ih

/-- **A simple line** leaves frames that wait for its end. -/
theorem advance_simple (s : Simple) (p : Position) :
    ∃ fs, advance [p.frames] s.line.symbols = [fs] ∧ LineEnd fs p.frames := by
  obtain ⟨read, blocks⟩ := p
  cases s with
  | pass =>
      refine ⟨.simpleTail :: Position.frames ⟨read, blocks⟩, ?_, ?_, rfl, rfl⟩
      all_goals cases blocks <;> rfl
  | returning =>
      refine ⟨.optionalExprs :: .simpleTail :: Position.frames ⟨read, blocks⟩, ?_, ?_, rfl, rfl⟩
      all_goals cases blocks <;> rfl
  | asserting value =>
      refine ⟨.expr (({} : Expr).settled .full .other) :: .listing { trailing := false }
        :: .simpleTail :: Position.frames ⟨read, blocks⟩, ?_, ?_, rfl, rfl⟩
      · cases value <;> cases blocks <;> rfl
      · cases blocks <;> rfl
  | quoting content plain =>
      refine ⟨.expr (({} : Expr).settled .full .text) :: .listing {} :: .assign .other
        :: .simpleTail :: Position.frames ⟨read, blocks⟩, ?_, ?_, rfl, rfl⟩
      all_goals cases blocks <;> rfl
  | importing first rest =>
      have hname : dispatch (.imports false .start :: .simpleTail :: Position.frames ⟨read, blocks⟩)
          none (.name first.text)
          = [.imports false .named :: .simpleTail :: Position.frames ⟨read, blocks⟩] := by
        rw [dispatch]
        show ((if isReserved first.text then [] else [Move.shift [.imports false .named]]).flatMap _)
          = _
        rw [first.free]
        rfl
      refine ⟨.imports false .named :: .simpleTail :: Position.frames ⟨read, blocks⟩, ?_, ?_, rfl, rfl⟩
      · show advance [Position.frames ⟨read, blocks⟩] (.name "import" :: .name first.text :: _) = _
        rw [advance_step (g := .imports false .start :: .simpleTail
          :: Position.frames ⟨read, blocks⟩) (by cases blocks <;> rfl), advance_step hname]
        exact advance_dotted rest _
      · cases blocks <;> rfl

/-- A decorator leaves frames that wait for the end of its line, and then for a definition. -/
theorem advance_decoration (d : Identifier) (p : Position) :
    ∃ fs, advance [p.frames] (Head.decoration d).symbols = [fs]
      ∧ LineEnd fs (.decorated :: p.frames) := by
  obtain ⟨read, blocks⟩ := p
  refine ⟨.expr (({} : Expr).settled .full .name) :: .symbol .newline :: .decorated
    :: Position.frames ⟨read, blocks⟩, ?_, rfl, rfl, rfl⟩
  show advance [Position.frames ⟨read, blocks⟩] [.op "@", .name d.text] = _
  rw [advance_step (g := .expr {} :: .symbol .newline :: .decorated
    :: Position.frames ⟨read, blocks⟩) (by cases blocks <;> rfl), advance_step (dispatch_operand d _ _)]
  rfl

/-- The frames after a header. -/
def Head.opened (h : Head) (fs : List Frame) : List Frame :=
  .suite :: .tail (if h.isConditional then .conditional else .none) h.kind h.name? [] :: fs

/-- The rest of a function's header after `def`. -/
theorem advance_function (name : Identifier) (isMethod : Bool) (fs : List Frame) :
    advance [.defName :: fs] (.name name.text
        :: (Head.parameters isMethod).map fun p => p.2.symbol)
      = [.suite :: .tail .none .functionDefinition (some name.text) [] :: fs] := by
  have hname : dispatch (.defName :: fs) none (.name name.text)
      = [.defSignature name.text false :: fs] := by
    rw [dispatch]
    show ((if isReserved name.text then [] else [Move.shift [.defSignature name.text false]]).flatMap _)
      = _
    rw [name.free]
    rfl
  rw [advance_step hname]
  cases isMethod <;> rfl

/-- The rest of a class's header after `class`. -/
theorem advance_class (name : Identifier) (base? : Option (Identifier × Identifier))
    (fs : List Frame) :
    advance [.className :: fs] (.name name.text :: (Head.bases base?).map fun p => p.2.symbol)
      = [.suite :: .tail .none .classDefinition (some name.text) [] :: fs] := by
  have hname : dispatch (.className :: fs) none (.name name.text)
      = [.classSignature name.text false :: fs] := by
    rw [dispatch]
    show ((if isReserved name.text then []
      else [Move.shift [.classSignature name.text false]]).flatMap _) = _
    rw [name.free]
    rfl
  rw [advance_step hname]
  cases base? with
  | none => rfl
  | some base =>
      obtain ⟨m, c⟩ := base
      let after := Frame.symbol (.op ":") :: .suite
        :: .tail .none .classDefinition (some name.text) [] :: fs
      have hmodule : dispatch (.arguments { generator := false } :: after) none (.name m.text)
          = [.expr (({} : Expr).settled .full .name)
              :: .arguments { generator := false, place := .item, plain := true } :: after] := by
        rw [dispatch]
        show (((Expr.operandStep {} .full (.name m.text)).map (Move.above _)).flatMap _) = _
        rw [operandStep_name m.free]
        rfl
      have hmember : dispatch (.expr { phase := .attribute .full }
            :: .arguments { generator := false, place := .item, plain := true } :: after) none
            (.name c.text)
          = [.expr (({} : Expr).settled .full .member)
              :: .arguments { generator := false, place := .item, plain := true } :: after] := by
        rw [dispatch]
        show ((if isReserved c.text then [] else (Expr.settled { phase := .attribute .full } .full
          .member).stay).flatMap _) = _
        rw [c.free]
        rfl
      show advance [.classSignature name.text false :: fs]
        [.op "(", .name m.text, .op ".", .name c.text, .op ")", .op ":"] = _
      rw [advance_step (g := .arguments { generator := false } :: after) rfl, advance_step hmodule,
        advance_step (g := .expr { phase := .attribute .full }
          :: .arguments { generator := false, place := .item, plain := true } :: after) rfl,
        advance_step hmember]
      rfl

/-- **A header** leaves the frames of its block, below a decorator and without one. -/
theorem advance_head (h : Head) (p : Position) :
    advance [p.frames] h.line.symbols = [h.opened p.frames]
      ∧ (h.decorator?.isSome = true →
        advance [.decorated :: p.frames] h.line.symbols = [h.opened p.frames]) := by
  obtain ⟨read, blocks⟩ := p
  cases h with
  | conditional test =>
      refine ⟨?_, fun hsome => by simp [Head.decorator?] at hsome⟩
      let after := Frame.symbol (.op ":") :: (Head.conditional test).opened
        (Position.frames ⟨read, blocks⟩)
      show advance [Position.frames ⟨read, blocks⟩] [.name "if", .name test.text, .op ":"] = _
      rw [advance_step (g := .expr {} :: after) (by cases blocks <;> rfl),
        advance_step (dispatch_operand test _ _)]
      rfl
  | function decorator? isAsync name isMethod =>
      have hrest := advance_function name isMethod (Position.frames ⟨read, blocks⟩)
      cases isAsync with
      | false =>
          refine ⟨?_, fun _ => ?_⟩
          · refine Eq.trans ?_ hrest
            exact advance_step (by cases blocks <;> rfl) _
          · refine Eq.trans ?_ hrest
            exact advance_step rfl _
      | true =>
          refine ⟨?_, fun _ => ?_⟩
          · -- `async` may be a name or a keyword; `def` decides
            refine Eq.trans ?_ hrest
            show advance (([Position.frames ⟨read, blocks⟩].flatMap fun fs =>
              dispatch fs none (.name "async")).flatMap fun fs => dispatch fs none (.name "def")) _ = _
            have hdef : ([Position.frames ⟨read, blocks⟩].flatMap fun fs =>
                dispatch fs none (.name "async")).flatMap (fun fs => dispatch fs none (.name "def"))
                = [.defName :: Position.frames ⟨read, blocks⟩] := by
              cases blocks <;> rfl
            rw [hdef]
            rfl
          · refine Eq.trans ?_ hrest
            refine (advance_step (g := .symbol (.name "def") :: .defName
              :: Position.frames ⟨read, blocks⟩) rfl _).trans ?_
            exact advance_step rfl _
  | klass decorator? name base? =>
      have hrest := advance_class name base? (Position.frames ⟨read, blocks⟩)
      refine ⟨?_, fun _ => ?_⟩
      · refine Eq.trans ?_ hrest
        exact advance_step (by cases blocks <;> rfl) _
      · refine Eq.trans ?_ hrest
        exact advance_step rfl _

end Outline

end TestScaffold.Python
