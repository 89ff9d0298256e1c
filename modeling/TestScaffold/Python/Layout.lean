/-
  TestScaffold.Python.Layout — what a gap between two tokens means.

  Line ends and indentation are tokens only where the grammar can use them.
  Elsewhere a line end is white space, except that a line to the left of the
  open block closes that block, which the grammar then refuses.

    * `Allowed` — what the grammar could accept next;
    * `scanGap` — the line end, the column and the first comment of a gap;
    * `layout` — the layout symbol of a gap, if it has one.
-/
import TestScaffold.Python.Token

namespace TestScaffold.Python

/-- The symbols that matter to layout, and whether the grammar accepts them next. -/
structure Allowed where
  /-- The end of a statement. -/
  newline : Bool
  /-- The begin of a block. -/
  indent : Bool
  /-- The end of a block. -/
  dedent : Bool
  /-- A string literal. -/
  text : Bool
  /-- A closing bracket. -/
  closer : Bool
  /-- The keyword `except`. -/
  handler : Bool
  deriving DecidableEq, Repr

/-- What a gap holds. -/
structure GapScan where
  /-- Whether a line ends in it. -/
  eol : Bool
  /-- The column reached on the last line. -/
  column : Nat
  /-- The column of its first comment on a line of its own. -/
  comment? : Option Nat
  /-- Whether the whole gap was read. -/
  whole : Bool
  deriving DecidableEq, Repr

/-- The width of a tab stop. -/
def tabWidth : Nat := 8

/-- Reads a gap.  Comments are passed over if `comments` holds; `none` means that the gap has no
    layout: it has a comment before its first line end, or a backslash that continues no line.
    `skipping` tells that a comment is being passed over, `atEnd` that the source ends here. -/
def scanGap (comments atEnd : Bool) : (skipping : Bool) → GapScan → List Char → Option GapScan
  | _, g, [] => some (if atEnd then { g with eol := true, column := 0, whole := true }
      else { g with whole := true })
  | true, g, c :: cs =>
    scanGap comments atEnd (c != '\n' && c != '\x00') { g with column := 0 } cs
  | false, g, '\\' :: '\n' :: cs => scanGap comments atEnd false g cs
  | false, g, '\\' :: '\r' :: '\n' :: cs => scanGap comments atEnd false g cs
  | false, g, c :: cs =>
    if c == '\n' then scanGap comments atEnd false { g with eol := true, column := 0 } cs
    else if c == ' ' then scanGap comments atEnd false { g with column := g.column + 1 } cs
    else if c == '\r' || c == '\x0c' then scanGap comments atEnd false { g with column := 0 } cs
    else if c == '\t' then scanGap comments atEnd false { g with column := g.column + tabWidth } cs
    else if c == '#' && comments then
      if g.eol then
        scanGap comments atEnd true { g with comment? := some (g.comment?.getD g.column) } cs
      else none
    else if c == '\\' then
      if cs.isEmpty && atEnd then scanGap comments atEnd false g cs else none
    else some g

/-- The columns of open blocks are kept modulo this number. -/
def columnModulus : Nat := 256

/-- The layout symbol of a gap, with the columns of the blocks open after it. -/
def layout (a : Allowed) (columns : List Nat) (t : Token) (gap : List Char) :
    Option (Symbol × List Nat) :=
  let comments := a.newline || a.indent || a.dedent || a.handler
  match scanGap comments (t.symbol == .eof) false ⟨false, 0, none, false⟩ gap with
  | none => none
  | some g =>
    if !g.eol then none
    else
      let current := columns.headD 0
      let quoted := g.whole && (t.rest.head?.any isQuote)
      let closes := a.dedent || (!a.newline && !(a.text && quoted) && !a.closer)
      if a.indent && current < g.column then
        some (.indent, g.column % columnModulus :: columns)
      else if closes && g.column < current && !t.muted && g.comment?.all (· < current) then
        some (.dedent, columns.tail)
      else if a.newline then some (.newline, columns)
      else none

/-- The gap after its first comment or continued line end, if it has one. -/
def afterRemark? : List Char → Option (List Char)
  | [] => none
  | '\\' :: '\r' :: '\n' :: cs => some cs
  | '\\' :: '\n' :: cs => some cs
  | c :: cs =>
    if c == '\\' then some cs
    else if c == '#' then some (cs.dropWhile (· != '\n'))
    else afterRemark? cs

end TestScaffold.Python
