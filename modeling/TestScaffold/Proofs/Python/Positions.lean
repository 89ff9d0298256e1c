/-
  TestScaffold.Proofs.Python.Positions — where a reading stands between two lines.

  Between two lines a reading is known by its open blocks: for each of them its column, its
  header and the statements before it.  What stands on the stack can lag behind, since a
  block is closed only when the next line shows its column.  So stacks are compared by what
  they do next:

    * `Position` — open blocks, and the stack and columns that belong to them;
    * `Position.unwind` — the blocks to the right of a column closed;
    * `settle_position` — a line closes the blocks to the right of its column;
    * `ends_of_newline`, `feed_header`, `feed_decorated` — what the next line does after a
      simple line, after a header and after a decorator;
    * `take_line` — the words of one line.
-/
import TestScaffold.Proofs.Python.Words

namespace TestScaffold.Python

/-! ## §1. Positions -/

/-- An open block. -/
structure OpenBlock where
  /-- Whether clauses such as `else` may follow it. -/
  conditional : Bool
  /-- The kind of its statement. -/
  kind : Kind
  /-- The name that its statement defines. -/
  name? : Option String
  /-- The column of its lines. -/
  column : Nat
  /-- The statements before it in the block around, last first. -/
  read : List Node

namespace OpenBlock

/-- The clauses that may follow the block. -/
def tail (l : OpenBlock) : Tail :=
  if l.conditional then .conditional else .none

/-- The statement of the block, once it is closed; its own statements are given last first. -/
def node (l : OpenBlock) (read : List Node) : Node :=
  Node.build l.kind l.name? [Node.build .block none read.reverse]

end OpenBlock

/-- Where a reading stands between two lines. -/
structure Position where
  /-- The statements of the innermost block, last first. -/
  read : List Node
  /-- The open blocks, innermost first. -/
  blocks : List OpenBlock

namespace Position

/-- The frame that reads the statements of a block, or of the whole source. -/
def base : List OpenBlock → List Node → Frame
  | [], read => .program read
  | _ :: _, read => .block read

/-- The frames below that frame. -/
def beneath : List OpenBlock → List Frame
  | [] => []
  | l :: ls => .tail l.tail l.kind l.name? [] :: base ls l.read :: beneath ls

/-- The stack of a position. -/
def frames (p : Position) : List Frame :=
  base p.blocks p.read :: beneath p.blocks

/-- The columns of the open blocks. -/
def columns (p : Position) : List Nat :=
  p.blocks.map OpenBlock.column

/-- The column of the lines that go on here. -/
def column (p : Position) : Nat :=
  p.columns.headD 0

/-- The reading at a position. -/
def thread (p : Position) : Thread :=
  ⟨p.frames, p.columns⟩

/-- The position after more statements. -/
def add (nodes : List Node) (p : Position) : Position :=
  { p with read := nodes.reverse ++ p.read }

/-- The position inside a block that opens here. -/
def enter (conditional : Bool) (kind : Kind) (name? : Option String) (column : Nat)
    (p : Position) : Position :=
  ⟨[], ⟨conditional, kind, name?, column, p.read⟩ :: p.blocks⟩

/-- The position once the blocks to the right of a column are closed. -/
def unwindFrom (column : Nat) : List Node → List OpenBlock → Position
  | read, [] => ⟨read, []⟩
  | read, l :: ls =>
    if column < l.column then unwindFrom column (l.node read :: l.read) ls else ⟨read, l :: ls⟩

/-- `unwindFrom` on positions. -/
def unwind (column : Nat) (p : Position) : Position :=
  unwindFrom column p.read p.blocks

/-- A line in its column closes nothing. -/
theorem unwind_column (p : Position) : p.unwind p.column = p := by
  obtain ⟨read, blocks⟩ := p
  cases blocks with
  | nil => rfl
  | cons l ls =>
      show (if l.column < l.column then _ else _) = _
      rw [if_neg (Nat.lt_irrefl _)]

/-- A line to the left of a block closes it. -/
theorem unwind_enter {p : Position} {conditional : Bool} {kind : Kind} {name? : Option String}
    {inner c : Nat} (hc : c < inner) (nodes : List Node) :
    ((p.enter conditional kind name? inner).add nodes).unwind c
      = (p.add [Node.build kind name? [Node.build .block none nodes]]).unwind c := by
  show (if c < inner then _ else _) = _
  rw [if_pos hc]
  simp [unwind, add, OpenBlock.node, enter]

theorem add_add (first later : List Node) (p : Position) :
    (p.add first).add later = p.add (first ++ later) := by
  simp [add]

theorem resume_base (blocks : List OpenBlock) (read : List Node) (r : Result) :
    (base blocks read).resume r = base blocks (r.nodes.reverse ++ read) := by
  cases blocks <;> rfl

end Position

/-! ## §2. Stacks that act alike -/

/-- Symbols that continue no statement and are not taken apart. -/
def Symbol.isOrdinary (s : Symbol) : Bool :=
  s != .name "elif" && s != .name "else" && (Thread.operatorParts? s).isNone

/-- Two stacks do the same on ordinary symbols. -/
def ActsAs (fs gs : List Frame) : Prop :=
  ∀ s, s.isOrdinary = true → dispatch fs none s = dispatch gs none s

theorem dispatch_some (f : Frame) (fs : List Frame) (r : Result) (s : Symbol) :
    dispatch (f :: fs) (some r) s = dispatch (f.resume r :: fs) none s := by
  rw [dispatch, dispatch]

/-- **A closed block acts as its statement**: the end of the statement is done before any ordinary
    symbol. -/
theorem tail_actsAs (l : OpenBlock) (blocks : List OpenBlock) (read : List Node) :
    ActsAs (.tail l.tail l.kind l.name? [Node.build .block none read.reverse]
        :: Position.base blocks l.read :: Position.beneath blocks)
      (Position.frames ⟨l.node read :: l.read, blocks⟩) := by
  intro s hs
  have hstep : tailStep l.tail l.kind l.name? [Node.build .block none read.reverse] s
      = [.pop { nodes := [l.node read] }] := by
    unfold Symbol.isOrdinary at hs
    simp only [Bool.and_eq_true, bne_iff_ne, ne_eq] at hs
    obtain ⟨⟨helif, helse⟩, -⟩ := hs
    unfold OpenBlock.tail
    cases l.conditional with
    | false => rfl
    | true =>
        simp only [if_true]
        unfold tailStep
        split
        · exact absurd rfl helif
        · exact absurd rfl helse
        all_goals first | contradiction | rfl
  rw [dispatch]
  show ((tailStep l.tail l.kind l.name? _ s).flatMap _) = _
  rw [hstep]
  simp only [List.flatMap_cons, List.flatMap_nil, List.append_nil]
  rw [dispatch_some, Position.resume_base]
  rfl

/-! ## §3. Layout -/

/-- The token is the first of a line in the given column, or the end of the source after the last
    line. -/
def Token.AtColumn (tok : Token) (column : Nat) : Prop :=
  tok.muted = false
    ∧ (∃ n, tok.gap = List.replicate n '\n' ++ List.replicate column ' '
      ∧ (0 < n ∨ tok.symbol = .eof))
    ∧ (tok.symbol = .eof → column = 0)

theorem scanGap_spaces (comments atEnd : Bool) (n : Nat) (g : GapScan) :
    scanGap comments atEnd false g (List.replicate n ' ')
      = some (if atEnd then { g with eol := true, column := 0, whole := true }
          else { g with column := g.column + n, whole := true }) := by
  induction n generalizing g with
  | zero => rfl
  | succ n ih =>
      rw [List.replicate_succ]
      show scanGap comments atEnd false { g with column := g.column + 1 } _ = _
      rw [ih]
      cases atEnd <;> simp [Nat.add_comm, Nat.add_left_comm]

theorem scanGap_lines (comments atEnd : Bool) (n column : Nat) (g : GapScan) :
    scanGap comments atEnd false g (List.replicate n '\n' ++ List.replicate column ' ')
      = some (if atEnd then { g with eol := true, column := 0, whole := true }
          else if n = 0 then { g with column := g.column + column, whole := true }
          else { g with eol := true, column := column, whole := true }) := by
  induction n generalizing g with
  | zero => exact scanGap_spaces comments atEnd column g
  | succ n ih =>
      rw [List.replicate_succ, List.cons_append]
      show scanGap comments atEnd false { g with eol := true, column := 0 } _ = _
      rw [ih]
      cases n <;> simp

section Layout

variable {tok : Token} {c : Nat} (htok : tok.AtColumn c)
include htok

theorem hasLayout_atColumn : Thread.hasLayout tok tok.gap = true := by
  obtain ⟨-, ⟨n, hgap, hn | heof⟩, -⟩ := htok
  · simp [Thread.hasLayout, hgap, Nat.ne_of_gt hn]
  · simp [Thread.hasLayout, heof]

theorem afterRemark?_atColumn : afterRemark? tok.gap = none := by
  obtain ⟨-, ⟨n, hgap, hn⟩, -⟩ := htok
  have hspaces : ∀ m, afterRemark? (List.replicate m ' ') = none := by
    intro m
    induction m with
    | zero => rfl
    | succ m ih =>
        rw [List.replicate_succ]
        exact ih
  rw [hgap]
  clear hgap hn
  induction n with
  | zero => exact hspaces c
  | succ n ih =>
      rw [List.replicate_succ, List.cons_append]
      exact ih

/-- **What a new line means** depends on its column and on what the grammar allows. -/
theorem layout_atColumn (a : Allowed) (columns : List Nat) :
    layout a columns tok tok.gap
      = if a.indent && columns.headD 0 < c then some (.indent, c % columnModulus :: columns)
        else if (a.dedent || (!a.newline && !(a.text && tok.rest.head?.any isQuote) && !a.closer))
            && c < columns.headD 0 then some (.dedent, columns.tail)
        else if a.newline then some (.newline, columns) else none := by
  obtain ⟨hmuted, ⟨n, hgap, hn⟩, hend⟩ := htok
  have hscan : ∀ comments, scanGap comments (tok.symbol == .eof) false ⟨false, 0, none, false⟩ tok.gap
      = some ⟨true, c, none, true⟩ := by
    intro comments
    rw [hgap, scanGap_lines]
    cases heof : (tok.symbol == .eof) with
    | false =>
        have hlines : n ≠ 0 := by
          rcases hn with hn | hn
          · omega
          · simp [hn] at heof
        simp [hlines]
    | true =>
        rw [hend (by simpa using heof)]
        rfl
  unfold layout
  simp [hscan, hmuted]

end Layout

/-! ## §4. New lines -/

theorem takeWord_whole {t : Thread} {s : Symbol} (h : Thread.operatorParts? s = none) :
    t.takeWord s = t.take s := by
  unfold Thread.takeWord
  split
  · rename_i hnone
    rw [h, hnone]
  · rfl

theorem takeWord_ordinary {t : Thread} {s : Symbol} (h : s.isOrdinary = true) :
    t.takeWord s = t.take s := by
  unfold Symbol.isOrdinary at h
  simp only [Bool.and_eq_true, Option.isNone_iff_eq_none] at h
  exact takeWord_whole h.2

theorem take_congr {t u : Thread} (hframes : ActsAs t.frames u.frames)
    (hcolumns : t.columns = u.columns) {s : Symbol} (h : s.isOrdinary = true) :
    t.take s = u.take s := by
  unfold Thread.take
  rw [hframes s h, hcolumns]

theorem allowed_congr {t u : Thread} (h : ActsAs t.frames u.frames) : t.allowed = u.allowed := by
  unfold Thread.allowed Thread.accepts
  rw [h .newline rfl, h .indent rfl, h .dedent rfl, h .text rfl, h (.op ")") rfl, h (.op "]") rfl,
    h (.op "\x7d") rfl, h .fieldClose rfl, h (.name "except") rfl]

/-- Between two lines the grammar allows a statement, or the end of the block. -/
theorem allowed_position (p : Position) :
    p.thread.allowed
      = { newline := false, indent := false, dedent := !p.blocks.isEmpty, text := true,
          closer := false, handler := false } := by
  obtain ⟨read, blocks⟩ := p
  cases blocks <;> rfl

/-- The end of a block leaves the end of its statement. -/
theorem dispatch_dedent (l : OpenBlock) (blocks : List OpenBlock) (read : List Node) :
    dispatch (Position.frames ⟨read, l :: blocks⟩) none .dedent
      = [.tail l.tail l.kind l.name? [Node.build .block none read.reverse]
          :: Position.base blocks l.read :: Position.beneath blocks] := rfl

section NewLine

variable {tok : Token} {c : Nat} (htok : tok.AtColumn c) (hsymbol : tok.symbol.isOrdinary = true)
include htok hsymbol

/-- **A new line closes the blocks to the right of its column.**  The stack may lag behind the
    position by the ends of statements. -/
theorem settle_position (blocks : List OpenBlock) (read : List Node) (t : Thread)
    (hcolumns : t.columns = blocks.map OpenBlock.column)
    (hframes : ActsAs t.frames (Position.frames ⟨read, blocks⟩)) (fuel : Nat)
    (hfuel : blocks.length < fuel) :
    (Thread.settle tok fuel tok.gap t).flatMap (·.takeWord tok.symbol)
      = (Position.unwindFrom c read blocks).thread.take tok.symbol := by
  induction blocks generalizing read t fuel with
  | nil =>
      -- nothing is open, so no column is left of the current one
      obtain ⟨fuel, rfl⟩ : ∃ n, fuel = n + 1 := ⟨fuel - 1, by omega⟩
      have hlayout : layout t.allowed t.columns tok tok.gap = none := by
        rw [layout_atColumn htok, allowed_congr hframes (u := Position.thread ⟨read, []⟩),
          allowed_position, hcolumns]
        simp
      rw [Thread.settle, hasLayout_atColumn htok, hlayout, afterRemark?_atColumn htok]
      simp only [Bool.not_true, Bool.false_eq_true, if_false, List.flatMap_cons, List.flatMap_nil,
        List.append_nil]
      rw [takeWord_ordinary hsymbol]
      exact take_congr hframes hcolumns hsymbol
  | cons l blocks ih =>
      obtain ⟨fuel, rfl⟩ : ∃ n, fuel = n + 1 := ⟨fuel - 1, by omega⟩
      have hallowed := (allowed_congr hframes (u := Position.thread ⟨read, l :: blocks⟩)).trans
        (allowed_position _)
      have hcurrent : t.columns.headD 0 = l.column := by
        rw [hcolumns]
        rfl
      rw [Thread.settle, hasLayout_atColumn htok]
      simp only [Bool.not_true, Bool.false_eq_true, if_false]
      by_cases hleft : c < l.column
      · have hlayout : layout t.allowed t.columns tok tok.gap = some (.dedent, t.columns.tail) := by
          rw [layout_atColumn htok, hallowed, hcurrent]
          simp [hleft]
        have htake : t.take .dedent
            = [⟨.tail l.tail l.kind l.name? [Node.build .block none read.reverse]
                :: Position.base blocks l.read :: Position.beneath blocks, t.columns⟩] := by
          unfold Thread.take
          rw [hframes .dedent rfl, dispatch_dedent]
          rfl
        have hunwind : Position.unwindFrom c read (l :: blocks)
            = Position.unwindFrom c (l.node read :: l.read) blocks := by
          show (if c < l.column then _ else _) = _
          rw [if_pos hleft]
        simp only [hlayout, htake, List.flatMap_cons, List.flatMap_nil, List.append_nil]
        rw [hunwind]
        refine ih (l.node read :: l.read) _ ?_ (tail_actsAs l blocks read) fuel ?_
        · rw [hcolumns]
          rfl
        · simp only [List.length_cons] at hfuel
          omega
      · have hlayout : layout t.allowed t.columns tok tok.gap = none := by
          rw [layout_atColumn htok, hallowed, hcurrent]
          simp [hleft]
        have hunwind : Position.unwindFrom c read (l :: blocks) = ⟨read, l :: blocks⟩ := by
          show (if c < l.column then _ else _) = _
          rw [if_neg hleft]
        simp only [hlayout, afterRemark?_atColumn htok, List.flatMap_cons, List.flatMap_nil,
          List.append_nil]
        rw [hunwind, takeWord_ordinary hsymbol]
        exact take_congr hframes hcolumns hsymbol

omit hsymbol in
/-- Where a line can only end, a new line ends it first. -/
theorem settle_newline {t : Thread} {fs : List Frame}
    (hnewline : dispatch t.frames none .newline = [fs])
    (hindent : dispatch t.frames none .indent = []) (hdedent : dispatch t.frames none .dedent = [])
    (fuel : Nat) :
    Thread.settle tok (fuel + 1) tok.gap t = Thread.settle tok fuel tok.gap ⟨fs, t.columns⟩ := by
  have hlayout : layout t.allowed t.columns tok tok.gap = some (.newline, t.columns) := by
    rw [layout_atColumn htok]
    simp [Thread.allowed, Thread.accepts, hnewline, hindent, hdedent]
  have htake : t.take .newline = [⟨fs, t.columns⟩] := by
    unfold Thread.take
    rw [hnewline]
    rfl
  rw [Thread.settle, hasLayout_atColumn htok, hlayout]
  simp [htake]

/-- After a header a line further right opens its block. -/
theorem feed_header {p : Position} (hright : p.column < c) (hbound : c < columnModulus)
    (conditional : Bool) (kind : Kind) (name? : Option String) :
    Thread.feed ⟨.suite :: .tail (if conditional then .conditional else .none) kind name? []
        :: p.frames, p.columns⟩ tok
      = (p.enter conditional kind name? c).thread.take tok.symbol := by
  have hlayout : layout (Thread.allowed ⟨.suite :: .tail (if conditional then .conditional else .none)
        kind name? [] :: p.frames, p.columns⟩) p.columns tok tok.gap
      = some (.indent, c :: p.columns) := by
    rw [layout_atColumn htok, Nat.mod_eq_of_lt hbound]
    have hallowed : (Thread.allowed ⟨.suite :: .tail (if conditional then .conditional else .none)
        kind name? [] :: p.frames, p.columns⟩).indent = true := rfl
    simp only [hallowed, Bool.true_and]
    exact if_pos (decide_eq_true hright)
  unfold Thread.feed Thread.settleToken
  rw [Thread.settle, hasLayout_atColumn htok, hlayout]
  simp only [Bool.not_true, Bool.false_eq_true, if_false]
  have htake : Thread.take ⟨.suite :: .tail (if conditional then .conditional else .none) kind name? []
        :: p.frames, p.columns⟩ .indent
      = [⟨(p.enter conditional kind name? c).frames, p.columns⟩] := rfl
  rw [htake]
  simp only [List.flatMap_cons, List.flatMap_nil, List.append_nil]
  rw [settle_position htok hsymbol (p.enter conditional kind name? c).blocks [] _ rfl
    (fun _ _ => rfl)]
  · exact congrArg (fun q => q.thread.take tok.symbol)
      (p.enter conditional kind name? c).unwind_column
  · have hblocks : (p.enter conditional kind name? c).blocks.length = p.columns.length + 1 := by
      simp [Position.enter, Position.columns]
    show _ < tok.gap.length + p.columns.length + 2
    omega

/-- After a decorator a line in the same column goes on with the decorated definition. -/
theorem feed_decorated {t : Thread} {p : Position} (hcolumns : t.columns = p.columns)
    (hnewline : dispatch t.frames none .newline = [.decorated :: p.frames])
    (hindent : dispatch t.frames none .indent = []) (hdedent : dispatch t.frames none .dedent = [])
    (hc : c = p.column) :
    t.feed tok = Thread.take ⟨.decorated :: p.frames, p.columns⟩ tok.symbol := by
  have hlayout : layout (Thread.allowed ⟨.decorated :: p.frames, p.columns⟩) p.columns tok tok.gap
      = none := by
    rw [layout_atColumn htok]
    have hstay : ¬ c < p.columns.headD 0 := by
      rw [hc]
      exact Nat.lt_irrefl _
    simp only [hstay, decide_false, Bool.and_false, Bool.false_eq_true, if_false]
    rfl
  unfold Thread.feed Thread.settleToken
  rw [settle_newline htok hnewline hindent hdedent, Thread.settle, hasLayout_atColumn htok,
    hcolumns, hlayout, afterRemark?_atColumn htok]
  simp only [Bool.not_true, Bool.false_eq_true, if_false, List.flatMap_cons, List.flatMap_nil,
    List.append_nil]
  exact takeWord_ordinary hsymbol

end NewLine

/-- The reading stands at the end of a line: the next line goes on at the position, unless it is
    further right. -/
def Thread.Ends (t : Thread) (p : Position) : Prop :=
  ∀ tok c, tok.AtColumn c → c ≤ p.column → tok.symbol.isOrdinary = true →
    t.feed tok = (p.unwind c).thread.take tok.symbol

/-- After a simple line the next line goes on. -/
theorem ends_of_newline {t : Thread} {p : Position} (hcolumns : t.columns = p.columns)
    (hnewline : dispatch t.frames none .newline = [p.frames])
    (hindent : dispatch t.frames none .indent = []) (hdedent : dispatch t.frames none .dedent = []) :
    t.Ends p := by
  intro tok c htok hc hsymbol
  unfold Thread.feed Thread.settleToken
  rw [settle_newline htok hnewline hindent hdedent]
  refine settle_position htok hsymbol p.blocks p.read ⟨p.frames, t.columns⟩ hcolumns
    (fun _ _ => rfl) _ ?_
  rw [hcolumns]
  simp [Position.columns]
  omega

/-! ## §5. The words of a line -/

/-- The stacks after some symbols. -/
def advance : List (List Frame) → List Symbol → List (List Frame)
  | readings, [] => readings
  | readings, s :: ss => advance (readings.flatMap fun fs => dispatch fs none s) ss

/-- The readings after some tokens. -/
def feedAll (threads : List Thread) (toks : List Token) : List Thread :=
  toks.foldl (fun ts tok => ts.flatMap (·.feed tok)) threads

theorem feedAll_cons (threads : List Thread) (tok : Token) (toks : List Token) :
    feedAll threads (tok :: toks) = feedAll (threads.flatMap (·.feed tok)) toks := rfl

theorem feedAll_append (threads : List Thread) (first later : List Token) :
    feedAll threads (first ++ later) = feedAll (feedAll threads first) later :=
  List.foldl_append

/-- The symbols of a line. -/
def Line.symbols (l : Line) : List Symbol :=
  l.first.symbol :: l.rest.map fun p => p.2.symbol

theorem Word.symbol_whole (w : Word) :
    Thread.operatorParts? w.symbol = none ∧ w.symbol ≠ .eof := by
  cases w with
  | name text named => exact ⟨rfl, by simp [Word.symbol]⟩
  | mark m => cases m <;> exact ⟨rfl, by simp [Word.symbol, Mark.symbol]⟩
  | quoted content plain => exact ⟨rfl, by simp [Word.symbol]⟩

/-- Inside a line no layout is looked at. -/
theorem feed_inside {tok : Token} {space : Bool} {w : Word}
    (h : tok.piece = ⟨spacing space, w.symbol, false⟩) (t : Thread) : t.feed tok = t.take w.symbol := by
  have hgap : tok.gap = spacing space := congrArg Piece.gap h
  have hsymbol : tok.symbol = w.symbol := congrArg Piece.symbol h
  obtain ⟨hwhole, hend⟩ := w.symbol_whole
  have hlayout : Thread.hasLayout tok tok.gap = false := by
    unfold Thread.hasLayout
    rw [hgap, hsymbol]
    cases space <;> simp [spacing, hend]
  unfold Thread.feed Thread.settleToken
  rw [Thread.settle, hlayout]
  simp only [Bool.not_false, if_true, List.flatMap_cons, List.flatMap_nil, List.append_nil]
  rw [hsymbol]
  exact takeWord_whole hwhole

theorem feedAll_words {rest : List (Bool × Word)} {toks : List Token}
    (h : toks.map Token.piece = Line.piecesAfter rest) (readings : List (List Frame))
    (columns : List Nat) :
    feedAll (readings.map (Thread.mk · columns)) toks
      = (advance readings (rest.map fun p => p.2.symbol)).map (Thread.mk · columns) := by
  induction rest generalizing toks readings with
  | nil =>
      cases List.map_eq_nil_iff.mp h
      rfl
  | cons p rest ih =>
      obtain ⟨space, w⟩ := p
      obtain ⟨tok, more, rfl, hpiece, hmore⟩ := List.map_eq_cons_iff.mp h
      rw [feedAll_cons]
      have hstep : (readings.map (Thread.mk · columns)).flatMap (·.feed tok)
          = (readings.flatMap fun fs => dispatch fs none w.symbol).map (Thread.mk · columns) := by
        rw [List.flatMap_map, List.map_flatMap]
        congr 1
        funext fs
        rw [feed_inside hpiece]
        rfl
      rw [hstep, ih hmore]
      rfl

/-- **One line**: once its first word is taken, its other words follow one by one. -/
theorem take_line {l : Line} {tok : Token} {more : List Token} (hfirst : tok.symbol = l.first.symbol)
    (hmore : more.map Token.piece = Line.piecesAfter l.rest) (fs : List Frame) (columns : List Nat) :
    feedAll (Thread.take ⟨fs, columns⟩ tok.symbol) more
      = (advance [fs] l.symbols).map (Thread.mk · columns) := by
  have htake : Thread.take ⟨fs, columns⟩ tok.symbol
      = (dispatch fs none l.first.symbol).map (Thread.mk · columns) := by
    rw [hfirst]
    rfl
  rw [htake, feedAll_words hmore]
  show _ = (advance ([fs].flatMap _) _).map _
  rw [List.flatMap_cons, List.flatMap_nil, List.append_nil]

end TestScaffold.Python
