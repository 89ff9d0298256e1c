/-
  TestScaffold.Text.Blank — white space, trimming, lines and separated lists.

  Everything is defined on `List Char`, with `String` wrappers for callers, so
  that the laws of trimming and splitting are laws about lists.
-/

namespace TestScaffold.Text

/-! ## §1. White space -/

/-- The Unicode property `White_Space`. -/
def isBlank (c : Char) : Bool :=
  let n := c.toNat
  (9 ≤ n && n ≤ 13) || n == 0x20 || n == 0x85 || n == 0xA0 || n == 0x1680
    || (0x2000 ≤ n && n ≤ 0x200A) || n == 0x2028 || n == 0x2029 || n == 0x202F
    || n == 0x205F || n == 0x3000

/-- The text without its trailing white space. -/
def trimEndChars (cs : List Char) : List Char :=
  (cs.reverse.dropWhile isBlank).reverse

/-- The text without the white space at both ends. -/
def trimChars (cs : List Char) : List Char :=
  trimEndChars (cs.dropWhile isBlank)

/-- `trimChars` on strings. -/
def trim (s : String) : String :=
  String.ofList (trimChars s.toList)

/-- Whether nothing is left after trimming. -/
def isBlankText (s : String) : Bool :=
  s.toList.all isBlank

/-! ## §2. Splitting -/

/-- The pieces between separators; `n` separators give `n + 1` pieces. -/
def splitSep {α : Type} [DecidableEq α] (sep : α) : List α → List (List α)
  | [] => [[]]
  | c :: cs =>
    if c = sep then [] :: splitSep sep cs
    else
      match splitSep sep cs with
      | [] => [[c]]
      | p :: ps => (c :: p) :: ps

/-- The separator of list answers. -/
def listSeparator : Char := ';'

/-- The trimmed, non-blank entries of a `;`-separated answer. -/
def splitList (s : String) : List String :=
  ((splitSep listSeparator s.toList).map trimChars).filterMap fun cs =>
    if cs.isEmpty then none else some (String.ofList cs)

/-- One line without the carriage return of a two-character line end. -/
def dropReturn (cs : List Char) : List Char :=
  match cs.reverse with
  | '\r' :: rest => rest.reverse
  | _ => cs

/-- The lines of a text: each ends at a line feed, a carriage return before that
    line feed is dropped, and a last line needs no line feed but must not be empty. -/
def lineChars : List Char → List (List Char)
  | cs =>
    let pieces := splitSep '\n' cs
    let ended := pieces.dropLast.map dropReturn
    match pieces.getLast? with
    | some [] | none => ended
    | some last => ended ++ [last]

/-- `lineChars` on strings. -/
def lines (s : String) : List String :=
  (lineChars s.toList).map String.ofList

/-! ## §3. Keeping first occurrences -/

/-- The items that do not occur earlier in the list, in order; `seen` are those met before. -/
def dedupeFrom {α : Type} [BEq α] (seen : List α) : List α → List α
  | [] => []
  | a :: as => if seen.contains a then dedupeFrom seen as else a :: dedupeFrom (a :: seen) as

/-- Each item once, at the place of its first occurrence. -/
def dedupe {α : Type} [BEq α] (items : List α) : List α :=
  dedupeFrom [] items

/-- The trimmed, non-blank entries of a list, each once, in first-occurrence order. -/
def cleanList (items : List String) : List String :=
  dedupe ((items.map trim).filter fun s => !s.isEmpty)

/-! ## §4. Names with double underscores -/

/-- Names that begin and end with two underscores; `__` itself is one. -/
def isDunder (name : String) : Bool :=
  let cs := name.toList
  ['_', '_'].isPrefixOf cs && ['_', '_'].isSuffixOf cs

/-- Whether `part` occurs somewhere in `text`. -/
def occursInChars (part : List Char) : List Char → Bool
  | [] => part.isEmpty
  | c :: cs => part.isPrefixOf (c :: cs) || occursInChars part cs

/-- `occursInChars` on strings. -/
def occursIn (part text : String) : Bool :=
  occursInChars part.toList text.toList

end TestScaffold.Text
