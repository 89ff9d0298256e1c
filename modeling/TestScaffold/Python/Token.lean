/-
  TestScaffold.Python.Token — the words of Python source.

  A token keeps the white space and comments before it (its *gap*): whether a
  line end there closes a statement depends on what the grammar allows at that
  point, so the decision is left to `TestScaffold.Python.Layout`.

    * `Symbol` — what the grammar sees, layout included;
    * `Token` — a symbol with its gap and the text from it on.
-/
import TestScaffold.Text.Lower
import TestScaffold.Python.IdentifierTable

namespace TestScaffold.Python

/-! ## §1. Symbols -/

/-- What the grammar sees of a word, or of the layout between two words. -/
inductive Symbol where
  /-- The end of a logical line. -/
  | newline
  /-- The begin of an indented block. -/
  | indent
  /-- The end of an indented block. -/
  | dedent
  /-- The end of the source. -/
  | eof
  /-- An identifier or keyword. -/
  | name (text : String)
  /-- A number. -/
  | number
  /-- A string literal without replacement fields. -/
  | text
  /-- The opening quotes of a format string. -/
  | formatOpen
  /-- The closing quotes of a format string. -/
  | formatClose
  /-- The brace that opens a replacement field. -/
  | fieldOpen
  /-- The brace that closes a replacement field. -/
  | fieldClose
  /-- A conversion such as `!r` in a replacement field. -/
  | conversion
  /-- The colon before a format specification. -/
  | formatSpec
  /-- An operator, bracket or punctuation mark. -/
  | op (text : String)
  /-- A character that begins no word. -/
  | invalid
  deriving DecidableEq, Repr, Inhabited

/-- A symbol of the source with what stands before it. -/
structure Token where
  /-- White space, comments and line continuations before the symbol. -/
  gap : List Char
  /-- Whether a replacement field is open, so that lines do not close blocks. -/
  muted : Bool
  /-- The symbol. -/
  symbol : Symbol
  /-- The source from the symbol on. -/
  rest : List Char
  deriving Repr, Inhabited

/-! ## §2. Characters -/

/-- Characters that begin an identifier. -/
def isIdentifierStart (c : Char) : Bool :=
  if c.toNat < 0x80 then c.isAlpha || c == '_'
  else Text.inRanges identifierStartRanges c.toNat

/-- Characters that continue an identifier. -/
def isIdentifierContinue (c : Char) : Bool :=
  if c.toNat < 0x80 then c.isAlphanum || c == '_'
  else Text.inRanges identifierContinueRanges c.toNat

/-- White space between words. -/
def isSpace (c : Char) : Bool :=
  let n := c.toNat
  (9 ≤ n && n ≤ 13) || n == 0x20 || n == 0xFEFF || n == 0x2060 || n == 0x200B

/-- Characters that open a string literal. -/
def isQuote (c : Char) : Bool :=
  c == '\'' || c == '"' || c == '`'

/-- Words that are never identifiers. -/
def reservedWords : List String :=
  ["False", "None", "True", "and", "as", "assert", "async", "await", "break", "class", "continue",
    "def", "del", "elif", "else", "except", "finally", "for", "from", "global", "if", "import",
    "in", "is", "lambda", "nonlocal", "not", "or", "pass", "raise", "return", "try", "while",
    "with", "yield"]

/-- Whether a word is a keyword everywhere. -/
def isReserved (word : String) : Bool :=
  reservedWords.contains word

/-- Operators and marks, longer before shorter. -/
def operators : List String :=
  ["**=", "//=", ">>=", "<<=", "...",
    "**", "//", ">>", "<<", "<=", ">=", "==", "!=", "<>", "->", "+=", "-=", "*=", "/=", "%=",
    "@=", "&=", "|=", "^=", ":=",
    "+", "-", "*", "/", "%", "@", "&", "|", "^", "~", "<", ">", "(", ")", "[", "]", "\x7b", "\x7d",
    ",", ":", ".", ";", "="]

end TestScaffold.Python
