/-
  TestScaffold.Proofs.Python.Outline — outlines of programs, written out and read back.

    * `Outline.Item`, `Outline.Items` — statements, and blocks, which are never empty;
    * `Items.chars` — the text of a block, with a fixed width per level;
    * `Items.spells` — the tokens of that text;
    * `Items.reads` — what a reading makes of them: the definitions of the outline, nested as
      they are nested there;
    * `parse_chars` — the tree of a whole outline.
-/
import TestScaffold.Proofs.Python.Lines

namespace TestScaffold.Python.Outline

/-! ## §1. Outlines -/

mutual

/-- A statement, with the number of blank lines before it. -/
inductive Item where
  /-- A simple line. -/
  | simple (blanks : Nat) (line : Simple)
  /-- A header and its block. -/
  | compound (blanks : Nat) (head : Head) (body : Items)

/-- The statements of a block; there is at least one. -/
inductive Items where
  /-- The last statement. -/
  | one (item : Item)
  /-- A statement and those after it. -/
  | more (item : Item) (rest : Items)

end

/-- Line ends, and spaces up to a column. -/
def gapTo (lines column : Nat) : List Char :=
  List.replicate lines '\n' ++ List.replicate column ' '

/-- A header as spelled, its decorator on a line before it. -/
def Head.chars (h : Head) (column : Nat) : List Char :=
  match h.decorator? with
  | none => h.line.chars
  | some d => (Head.decoration d).chars ++ '\n' :: (List.replicate column ' ' ++ h.line.chars)

/-- A header as pieces, with the gap before it. -/
def Head.pieces (h : Head) (column : Nat) (gap : List Char) : List Piece :=
  match h.decorator? with
  | none => h.line.pieces gap
  | some d => (Head.decoration d).pieces gap ++ h.line.pieces (gapTo 1 column)

mutual

/-- The text of a statement in a column, up to the end of its last line; each level is `width`
    columns further right. -/
def Item.chars (width column : Nat) : Item → List Char
  | .simple blanks line => gapTo blanks column ++ line.line.chars
  | .compound blanks head body =>
    gapTo blanks column ++ (head.chars column ++ '\n' :: body.chars width (column + width))

/-- The text of a block. -/
def Items.chars (width column : Nat) : Items → List Char
  | .one item => item.chars width column
  | .more item rest => item.chars width column ++ '\n' :: rest.chars width column

end

mutual

/-- The pieces of a statement after some line ends. -/
def Item.pieces (width column lead : Nat) : Item → List Piece
  | .simple blanks line => line.line.pieces (gapTo (lead + blanks) column)
  | .compound blanks head body =>
    head.pieces column (gapTo (lead + blanks) column) ++ body.pieces width (column + width) 1

/-- The pieces of a block. -/
def Items.pieces (width column lead : Nat) : Items → List Piece
  | .one item => item.pieces width column lead
  | .more item rest => item.pieces width column lead ++ rest.pieces width column 1

end

mutual

/-- The statements that have nodes of their own: those with blocks. -/
def Item.nodes : Item → List Node
  | .simple _ _ => []
  | .compound _ head body =>
    [Node.build head.kind head.name? [Node.build .block none body.nodes]]

/-- The nodes of a block. -/
def Items.nodes : Items → List Node
  | .one item => item.nodes
  | .more item rest => item.nodes ++ rest.nodes

end

mutual

/-- How many levels the lines of a statement are further right than its first. -/
def Item.depth : Item → Nat
  | .simple _ _ => 0
  | .compound _ _ body => body.depth + 1

/-- The depth of the deepest statement of a block. -/
def Items.depth : Items → Nat
  | .one item => item.depth
  | .more item rest => max item.depth rest.depth

end

namespace Items

/-- The block of a list of statements. -/
def ofList : (items : List Item) → items ≠ [] → Items
  | [], h => absurd rfl h
  | [item], _ => .one item
  | item :: next :: rest, _ => .more item (ofList (next :: rest) (List.cons_ne_nil _ _))

/-- Its text is that of each of them, on lines of their own. -/
theorem chars_ofList (width column : Nat) (items : List Item) (h : items ≠ []) :
    (ofList items h).chars width column
      = ['\n'].intercalate (items.map (·.chars width column)) := by
  induction items with
  | nil => exact absurd rfl h
  | cons item rest ih =>
      cases rest with
      | nil => simp [ofList, Items.chars, List.intercalate]
      | cons next rest =>
          rw [ofList, Items.chars, ih (List.cons_ne_nil _ _)]
          simp [List.intercalate]

/-- It is as deep as one of them. -/
theorem depth_ofList (items : List Item) (h : items ≠ []) :
    ∃ item ∈ items, (ofList items h).depth = item.depth := by
  induction items with
  | nil => exact absurd rfl h
  | cons item rest ih =>
      cases rest with
      | nil => exact ⟨item, List.mem_cons_self, rfl⟩
      | cons next rest =>
          obtain ⟨deepest, hmem, hdepth⟩ := ih (List.cons_ne_nil _ _)
          rw [ofList, Items.depth, hdepth]
          rcases Nat.le_total item.depth deepest.depth with hle | hle
          · exact ⟨deepest, List.mem_cons_of_mem _ hmem, Nat.max_eq_right hle⟩
          · exact ⟨item, List.mem_cons_self, Nat.max_eq_left hle⟩

end Items

/-! ## §2. Tokens -/

theorem isBreak_gapTo (lines column : Nat) : (gapTo lines column).all Word.isBreak = true := by
  have hspace : Word.isBreak ' ' = true := rfl
  have hline : Word.isBreak '\n' = true := rfl
  simp [gapTo, List.all_replicate, hspace, hline]

theorem replicate_append_gapTo (lead lines column : Nat) (cs : List Char) :
    List.replicate lead '\n' ++ (gapTo lines column ++ cs) = gapTo (lead + lines) column ++ cs := by
  unfold gapTo
  simp [← List.append_assoc, List.replicate_append_replicate]

theorem spells_head {gap : List Char} (hgap : gap.all Word.isBreak = true) (h : Head) (column : Nat)
    {cs : List Char} {pieces : List Piece} (hcs : Spells ('\n' :: cs) pieces) :
    Spells (gap ++ (h.chars column ++ '\n' :: cs)) (h.pieces column gap ++ pieces) := by
  unfold Head.chars Head.pieces
  split
  · exact spells_line hgap h.line rfl hcs
  · rename_i d hd
    have hline := spells_line (isBreak_gapTo 1 column) h.line rfl hcs
    have hboth := spells_line hgap (Head.decoration d) rfl hline
    simpa [gapTo] using hboth

mutual

theorem Item.spells (width column lead : Nat) (item : Item) {cs : List Char}
    (hcs : cs.head?.all Word.isBreak = true) {pieces : List Piece} (h : Spells cs pieces) :
    Spells (List.replicate lead '\n' ++ (item.chars width column ++ cs))
      (item.pieces width column lead ++ pieces) := by
  cases item with
  | simple blanks line =>
      have hline := spells_line (isBreak_gapTo (lead + blanks) column) line.line hcs h
      simpa [Item.chars, Item.pieces, replicate_append_gapTo] using hline
  | compound blanks head body =>
      have hbody := Items.spells width (column + width) 1 body hcs h
      have hhead := spells_head (isBreak_gapTo (lead + blanks) column) head column hbody
      simpa [Item.chars, Item.pieces, replicate_append_gapTo] using hhead

theorem Items.spells (width column lead : Nat) (items : Items) {cs : List Char}
    (hcs : cs.head?.all Word.isBreak = true) {pieces : List Piece} (h : Spells cs pieces) :
    Spells (List.replicate lead '\n' ++ (items.chars width column ++ cs))
      (items.pieces width column lead ++ pieces) := by
  cases items with
  | one item => exact Item.spells width column lead item hcs h
  | more item rest =>
      have hrest := Items.spells width column 1 rest hcs h
      have hitem := Item.spells width column lead item rfl hrest
      simpa [Items.chars, Items.pieces] using hitem

end

/-! ## §3. Readings -/

/-- The token begins a line, after at least `lead` line ends. -/
structure OnLine (tok : Token) (lead column : Nat) : Prop where
  /-- It is in no replacement field. -/
  loud : tok.muted = false
  /-- The gap before it. -/
  gap : ∃ n, tok.gap = gapTo (lead + n) column
  /-- It continues no statement. -/
  ordinary : tok.symbol.isOrdinary = true
  /-- It is not the end of the source. -/
  goes : tok.symbol ≠ .eof

theorem OnLine.atColumn {tok : Token} {column : Nat} (h : OnLine tok 1 column) :
    tok.AtColumn column := by
  obtain ⟨n, hgap⟩ := h.gap
  exact ⟨h.loud, ⟨1 + n, hgap, by omega⟩, fun heof => absurd heof h.goes⟩

/-- The tokens of whole lines lead from one position to another: they are read without a choice, and
    the end of the last line is at the second position. -/
def Reads (p : Position) (lead : Nat) (toks : List Token) (q : Position) : Prop :=
  ∃ tok more t, toks = tok :: more ∧ OnLine tok lead p.column
    ∧ feedAll (p.thread.take tok.symbol) more = [t] ∧ t.Ends q

/-- What begins the lines of an outline continues no statement. -/
theorem first_ordinary :
    (∀ s : Simple, s.line.first.symbol.isOrdinary = true)
      ∧ (∀ h : Head, h.line.first.symbol.isOrdinary = true)
      ∧ ∀ d, (Head.decoration d).first.symbol.isOrdinary = true := by
  refine ⟨?_, ?_, fun d => rfl⟩
  · intro s
    cases s with
    | asserting value => cases value <;> rfl
    | _ => rfl
  · intro h
    cases h with
    | function decorator? isAsync name isMethod => cases isAsync <;> rfl
    | _ => rfl

theorem onLine_of_piece {tok : Token} {l : Line} {lead blanks column : Nat}
    (h : tok.piece = ⟨gapTo (lead + blanks) column, l.first.symbol, false⟩)
    (hordinary : l.first.symbol.isOrdinary = true) : OnLine tok lead column := by
  have hsymbol : tok.symbol = l.first.symbol := congrArg Piece.symbol h
  refine ⟨congrArg Piece.muted h, ⟨blanks, congrArg Piece.gap h⟩, ?_, ?_⟩
  · rw [hsymbol]
    exact hordinary
  · rw [hsymbol]
    exact l.first.symbol_whole.2

/-- A simple line is read where it stands. -/
theorem reads_simple (s : Simple) (p : Position) {lead blanks : Nat} {toks : List Token}
    (h : toks.map Token.piece = s.line.pieces (gapTo (lead + blanks) p.column)) :
    Reads p lead toks p := by
  obtain ⟨tok, more, rfl, hpiece, hmore⟩ := List.map_eq_cons_iff.mp h
  obtain ⟨fs, hadvance, hend⟩ := advance_simple s p
  refine ⟨tok, more, ⟨fs, p.columns⟩, rfl, onLine_of_piece hpiece (first_ordinary.1 s), ?_, ?_⟩
  · rw [Position.thread, take_line (congrArg Piece.symbol hpiece) hmore, hadvance]
    rfl
  · exact ends_of_newline rfl hend.newline hend.indent hend.dedent

/-- A header is read up to its block. -/
theorem reads_head (h : Head) (p : Position) {lead blanks : Nat} {toks : List Token}
    (hpieces : toks.map Token.piece = h.pieces p.column (gapTo (lead + blanks) p.column)) :
    ∃ tok more, toks = tok :: more ∧ OnLine tok lead p.column
      ∧ feedAll (p.thread.take tok.symbol) more = [⟨h.opened p.frames, p.columns⟩] := by
  obtain ⟨hplain, hbelow⟩ := advance_head h p
  unfold Head.pieces at hpieces
  split at hpieces
  · obtain ⟨tok, more, rfl, hpiece, hmore⟩ := List.map_eq_cons_iff.mp hpieces
    refine ⟨tok, more, rfl, onLine_of_piece hpiece (first_ordinary.2.1 h), ?_⟩
    rw [Position.thread, take_line (congrArg Piece.symbol hpiece) hmore, hplain]
    rfl
  · rename_i d hd
    obtain ⟨decorator, header, rfl, hdecorator, hheader⟩ := List.map_eq_append_iff.mp hpieces
    obtain ⟨tok, more, rfl, hpiece, hmore⟩ := List.map_eq_cons_iff.mp hdecorator
    obtain ⟨tok', more', rfl, hpiece', hmore'⟩ := List.map_eq_cons_iff.mp hheader
    obtain ⟨fs, hadvance, hend⟩ := advance_decoration d p
    have honline : OnLine tok' 1 p.column :=
      onLine_of_piece (show tok'.piece = ⟨gapTo (1 + 0) p.column, h.line.first.symbol, false⟩ from hpiece')
        (first_ordinary.2.1 h)
    refine ⟨tok, more ++ tok' :: more', rfl, onLine_of_piece hpiece (first_ordinary.2.2 d), ?_⟩
    -- the decorator's line, then the header in the same column
    rw [feedAll_append, Position.thread, take_line (congrArg Piece.symbol hpiece) hmore, hadvance]
    show feedAll ((Thread.mk fs p.columns).feed tok' ++ []) more' = _
    rw [List.append_nil, feed_decorated honline.atColumn honline.ordinary rfl hend.newline hend.indent
      hend.dedent rfl, take_line (congrArg Piece.symbol hpiece') hmore', hbelow (by rw [hd]; rfl)]
    rfl

/-- Lines that follow in the same column go on. -/
theorem Reads.append {p q r : Position} {lead : Nat} {first later : List Token}
    (hfirst : Reads p lead first q) (hlater : Reads q 1 later r) :
    Reads p lead (first ++ later) r := by
  obtain ⟨tok, more, t, rfl, honline, hfeed, hends⟩ := hfirst
  obtain ⟨tok', more', u, rfl, honline', hfeed', hends'⟩ := hlater
  refine ⟨tok, more ++ tok' :: more', u, rfl, honline, ?_, hends'⟩
  rw [feedAll_append, hfeed]
  show feedAll (t.feed tok' ++ []) more' = [u]
  rw [List.append_nil, hends tok' q.column honline'.atColumn (Nat.le_refl _) honline'.ordinary,
    q.unwind_column]
  exact hfeed'

mutual

/-- **A statement** leads to the position with its nodes. -/
theorem Item.reads {width : Nat} (hwidth : 0 < width) (item : Item) (p : Position) (lead : Nat)
    (hdeep : p.column + width * item.depth < columnModulus) {toks : List Token}
    (h : toks.map Token.piece = item.pieces width p.column lead) :
    Reads p lead toks (p.add item.nodes) := by
  cases item with
  | simple blanks line => exact reads_simple line p h
  | compound blanks head body =>
      obtain ⟨header, block, rfl, hheader, hblock⟩ := List.map_eq_append_iff.mp h
      obtain ⟨tok, more, rfl, honline, hfeed⟩ := reads_head head p hheader
      have hinner : p.column + width + width * body.depth < columnModulus := by
        have hdepth : width * (body.depth + 1) = width * body.depth + width := Nat.mul_succ _ _
        simp only [Item.depth] at hdeep
        omega
      let inner := p.enter head.isConditional head.kind head.name? (p.column + width)
      obtain ⟨tok', more', t, rfl, honline', hfeed', hends⟩ :=
        Items.reads hwidth body inner 1 hinner hblock
      refine ⟨tok, more ++ tok' :: more', t, rfl, honline, ?_, ?_⟩
      · rw [feedAll_append, hfeed]
        show feedAll (Thread.feed ⟨head.opened p.frames, p.columns⟩ tok' ++ []) more' = [t]
        rw [List.append_nil, Head.opened, feed_header honline'.atColumn honline'.ordinary
          (show p.column < p.column + width by omega) (show p.column + width < columnModulus by omega)]
        exact hfeed'
      · -- any line that is not further right than the header closes the block
        intro tok c htok hc hsymbol
        have hc' : c ≤ p.column := hc
        have hleft : c < p.column + width := by omega
        rw [hends tok c htok (Nat.le_of_lt hleft) hsymbol, Position.unwind_enter hleft]
        rfl

/-- **A block** leads to the position with the nodes of its statements. -/
theorem Items.reads {width : Nat} (hwidth : 0 < width) (items : Items) (p : Position) (lead : Nat)
    (hdeep : p.column + width * items.depth < columnModulus) {toks : List Token}
    (h : toks.map Token.piece = items.pieces width p.column lead) :
    Reads p lead toks (p.add items.nodes) := by
  cases items with
  | one item => exact Item.reads hwidth item p lead hdeep h
  | more item rest =>
      obtain ⟨first, later, rfl, hfirst, hlater⟩ := List.map_eq_append_iff.mp h
      have hmax : width * max item.depth rest.depth
          = max (width * item.depth) (width * rest.depth) := Nat.mul_max_mul_left ..|>.symm
      simp only [Items.depth, hmax] at hdeep
      have hitem := Item.reads hwidth item p lead (by omega) hfirst
      have hrest := Items.reads hwidth rest (p.add item.nodes) 1
        (show p.column + width * rest.depth < columnModulus by omega) hlater
      have hboth := hitem.append hrest
      rw [Position.add_add] at hboth
      exact hboth

end

/-! ## §4. Whole outlines -/

theorem readTokens_cons {threads ts : List Thread} {t : Thread} {tok : Token} {toks : List Token}
    (h : threads.flatMap (·.feed tok) = t :: ts) :
    readTokens threads (tok :: toks) = readTokens (t :: ts) toks := by
  rw [readTokens, h]

theorem readTokens_feedAll {threads : List Thread} {toks : List Token}
    (h : feedAll threads toks ≠ []) : readTokens threads toks = readTokens (feedAll threads toks) [] := by
  induction toks generalizing threads with
  | nil => rfl
  | cons tok toks ih =>
      rw [feedAll_cons] at h ⊢
      cases hnext : threads.flatMap (·.feed tok) with
      | nil =>
          -- no reading comes back
          rw [hnext] at h
          have hnone : ∀ toks, feedAll [] toks = [] := by
            intro toks
            induction toks with
            | nil => rfl
            | cons tok toks ih => exact ih
          exact absurd (hnone toks) h
      | cons t ts =>
          rw [hnext] at h
          rw [readTokens_cons hnext]
          exact ih h

/-- A source that all its tokens lead through has the tree that they lead to. -/
theorem parse_of_feedAll {cs : List Char} {nodes : List Node}
    (h : feedAll [Thread.initial] (tokens cs) = [⟨[.accepted nodes], []⟩]) :
    parse cs = Node.build .module none nodes cs := by
  have hreading : readTokens [Thread.initial] (tokens cs) = .complete nodes := by
    rw [readTokens_feedAll (by rw [h]; simp), h]
    rfl
  unfold parse
  rw [hreading]

/-- At the begin of a source line ends do not matter. -/
theorem feed_initial_atColumn {tok : Token} (htok : tok.AtColumn 0)
    (hsymbol : tok.symbol.isOrdinary = true) :
    Thread.initial.feed tok = Thread.initial.take tok.symbol :=
  settle_position htok hsymbol [] [] Thread.initial rfl (fun _ _ => rfl) _ (by show 0 < _; omega)

theorem feed_initial {tok : Token} (h : OnLine tok 0 0) :
    Thread.initial.feed tok = Thread.initial.take tok.symbol := by
  obtain ⟨n, hgap⟩ := h.gap
  cases n with
  | zero =>
      -- the source begins with the token
      have hnil : tok.gap = [] := hgap
      have hlayout : Thread.hasLayout tok tok.gap = false := by
        simp [Thread.hasLayout, hnil, h.goes]
      unfold Thread.feed Thread.settleToken
      rw [Thread.settle, hlayout]
      simp only [Bool.not_false, if_true, List.flatMap_cons, List.flatMap_nil, List.append_nil]
      exact takeWord_ordinary h.ordinary
  | succ n =>
      exact feed_initial_atColumn ⟨h.loud, ⟨0 + (n + 1), hgap, by omega⟩, fun _ => rfl⟩ h.ordinary

section Ends

variable (ends : Nat)

theorem isBreak_ends : (List.replicate ends '\n').all Word.isBreak = true := by
  simpa [gapTo] using isBreak_gapTo ends 0

/-- The end of a source, after some line ends, is in the first column. -/
theorem atColumn_of_end {eof : Token} (h : eof.piece = ⟨List.replicate ends '\n', .eof, false⟩) :
    eof.symbol = .eof ∧ eof.AtColumn 0 := by
  have hsymbol : eof.symbol = .eof := congrArg Piece.symbol h
  have hgap : eof.gap = List.replicate ends '\n' := congrArg Piece.gap h
  refine ⟨hsymbol, congrArg Piece.muted h, ⟨ends, ?_, .inr hsymbol⟩, fun _ => rfl⟩
  simpa using hgap

/-- Line ends alone are an empty source. -/
theorem parse_blank :
    parse (List.replicate ends '\n') = Node.build .module none [] (List.replicate ends '\n') := by
  obtain ⟨eof, none, htokens, heof, hnone⟩ :=
    List.map_eq_cons_iff.mp (spells_end (isBreak_ends ends)).tokens
  cases List.map_eq_nil_iff.mp hnone
  obtain ⟨hsymbol, hatend⟩ := atColumn_of_end ends heof
  refine parse_of_feedAll ?_
  rw [htokens]
  show Thread.initial.feed eof ++ [] = _
  rw [List.append_nil, feed_initial_atColumn hatend (by rw [hsymbol]; rfl), hsymbol]
  rfl

/-- **The tree of an outline**: what its text is read as, whether or not its last line is ended. -/
theorem parse_chars {width : Nat} (hwidth : 0 < width) (items : Items)
    (hdeep : width * items.depth < columnModulus) :
    parse (items.chars width 0 ++ List.replicate ends '\n')
      = Node.build .module none items.nodes (items.chars width 0 ++ List.replicate ends '\n') := by
  have hspells : Spells (items.chars width 0 ++ List.replicate ends '\n')
      (items.pieces width 0 0 ++ [⟨List.replicate ends '\n', .eof, false⟩]) := by
    refine Items.spells width 0 0 items ?_ (spells_end (isBreak_ends ends))
    cases ends <;> rfl
  obtain ⟨toks, rest, htokens, htoks, hrest⟩ := List.map_eq_append_iff.mp hspells.tokens
  obtain ⟨eof, none, rfl, heof, hnone⟩ := List.map_eq_cons_iff.mp hrest
  cases List.map_eq_nil_iff.mp hnone
  obtain ⟨hsymbol, hatend⟩ := atColumn_of_end ends heof
  obtain ⟨tok, more, t, rfl, honline, hfeed, hends⟩ :=
    Items.reads hwidth items ⟨[], []⟩ 0 (by simpa [Position.column, Position.columns] using hdeep) htoks
  have hread : feedAll (Thread.initial.take tok.symbol) more = [t] := hfeed
  refine parse_of_feedAll ?_
  rw [htokens]
  show feedAll (Thread.initial.feed tok ++ []) (more ++ [eof]) = _
  rw [List.append_nil, feed_initial honline, feedAll_append, hread]
  show t.feed eof ++ [] = _
  rw [List.append_nil, hends eof 0 hatend (Nat.zero_le _) (by rw [hsymbol]; rfl), hsymbol]
  show [Thread.mk [.accepted (items.nodes.reverse ++ []).reverse] []] = _
  simp

end Ends

end TestScaffold.Python.Outline
