/-
  TestScaffold.Yaml.Place — a position in a YAML text.

    * character classes of the format;
    * `Place` — the text from a position on, with line and column;
    * `Place.lineBreak?` — a line break, whatever its spelling;
    * `Blanks` — white space and line breaks between words, and how they fold.
-/

namespace TestScaffold.Yaml

/-! ## §1. Characters -/

/-- Whether a character may occur in a YAML text. -/
def isAllowed (c : Char) : Bool :=
  let n := c.toNat
  n == 0x09 || n == 0x0A || n == 0x0D || (0x20 ≤ n && n ≤ 0x7E) || n == 0x85
    || (0xA0 ≤ n && n ≤ 0xD7FF) || (0xE000 ≤ n && n ≤ 0xFFFD) || 0x10000 ≤ n

/-- Line breaks. -/
def isBreak (c : Char) : Bool :=
  c == '\n' || c == '\r' || c == Char.ofNat 0x85 || c == Char.ofNat 0x2028 || c == Char.ofNat 0x2029

/-- Space and tab. -/
def isBlank (c : Char) : Bool := c == ' ' || c == '\t'

/-- Letters of anchors and tag handles. -/
def isWordChar (c : Char) : Bool := c.isAlphanum || c == '_' || c == '-'

/-- Brackets and commas, which end a plain word inside brackets. -/
def isFlowMark (c : Char) : Bool :=
  c == ',' || c == '[' || c == ']' || c == '\x7b' || c == '\x7d'

/-- Whether a text is at its end or at a line break. -/
def atBreak (cs : List Char) : Bool :=
  match cs with
  | [] => true
  | c :: _ => isBreak c

/-- Whether a text is at its end, at a line break, or at white space. -/
def atGap (cs : List Char) : Bool :=
  match cs with
  | [] => true
  | c :: _ => isBreak c || isBlank c

/-! ## §2. Places -/

/-- A position in a text. -/
structure Place where
  /-- The text from here on. -/
  rest : List Char
  /-- Characters before it. -/
  index : Nat := 0
  /-- Lines before it. -/
  line : Nat := 0
  /-- Characters before it in its line. -/
  column : Nat := 0
  deriving Inhabited

namespace Place

/-- The place after one more character of the line. -/
def skip (p : Place) : Place :=
  match p.rest with
  | [] => p
  | _ :: rest => { p with rest, index := p.index + 1, column := p.column + 1 }

/-- The place after some more characters of the line. -/
def skipMany : Nat → Place → Place
  | 0, p => p
  | n + 1, p => skipMany n p.skip

/-- The characters of the line for which a test holds, and the place after them. -/
def takeWhile (p : Place) (test : Char → Bool) : List Char × Place :=
  let found := p.rest.takeWhile test
  (found, p.skipMany found.length)

/-- The place after the characters of the line for which a test holds. -/
def skipWhile (p : Place) (test : Char → Bool) : Place :=
  (p.takeWhile test).2

/-- A line break as it counts in a scalar, and the begin of the next line. -/
def lineBreak? (p : Place) : Option (Char × Place) :=
  match p.rest with
  | '\r' :: '\n' :: rest =>
    some ('\n', { rest, index := p.index + 2, line := p.line + 1, column := 0 })
  | c :: rest =>
    if isBreak c then
      let kept := if c == '\r' || c == Char.ofNat 0x85 then '\n' else c
      some (kept, { rest, index := p.index + 1, line := p.line + 1, column := 0 })
    else none
  | [] => none

/-- Whether the line begins with `---` or `...` and a gap. -/
def atDocumentMark (p : Place) : Bool :=
  p.column == 0 &&
    match p.rest with
    | '-' :: '-' :: '-' :: rest => atGap rest
    | '.' :: '.' :: '.' :: rest => atGap rest
    | _ => false

end Place

/-! ## §3. White space between words -/

/-- White space and line breaks between two words of a scalar. -/
structure Blanks where
  /-- Whether a line break was passed. -/
  broken : Bool := false
  /-- White space before the first line break. -/
  spaces : List Char := []
  /-- The first line break. -/
  first : List Char := []
  /-- Further line breaks. -/
  more : List Char := []
  deriving Inhabited

namespace Blanks

/-- What stands for the white space in the scalar: one line break is a space, and of several all
    but the first are kept. -/
def folded (b : Blanks) : List Char :=
  if b.broken then
    if b.first.head? == some '\n' then
      if b.more.isEmpty then [' '] else b.more
    else b.first ++ b.more
  else b.spaces

/-- Takes white space and line breaks; `tabFault` says where a tab is a fault. -/
def take (tabFault : Bool → Place → Bool) : (fuel : Nat) → Blanks → Place → Option (Blanks × Place)
  | 0, b, p => some (b, p)
  | fuel + 1, b, p =>
    match p.lineBreak? with
    | some (c, next) =>
      if b.broken then take tabFault fuel { b with more := b.more ++ [c] } next
      else take tabFault fuel { b with broken := true, spaces := [], first := [c] } next
    | none =>
      match p.rest with
      | c :: _ =>
        if isBlank c then
          if tabFault b.broken p && c == '\t' then none
          else if b.broken then take tabFault fuel b p.skip
          else take tabFault fuel { b with spaces := b.spaces ++ [c] } p.skip
        else some (b, p)
      | [] => some (b, p)

end Blanks

end TestScaffold.Yaml
