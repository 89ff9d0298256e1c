/-
  TestScaffold.Python.Lexer — from characters to tokens.

    * `takeGap` — the white space, comments and continued line ends before a word;
    * `afterNumber?`, `scanText` — the extent of numbers and string literals;
    * `tokens` — all tokens of a source, ending in `eof` or in an `invalid` symbol.

  Format strings are read with a stack of modes: literal text, replacement
  field, format specification.
-/
import TestScaffold.Python.Token

namespace TestScaffold.Python

/-! ## §1. Gaps -/

/-- Splits off what may stand between two words; `comment` tells whether the text is inside a
    comment. -/
def takeGap (comment : Bool) : List Char → List Char × List Char
  | [] => ([], [])
  | '\\' :: '\n' :: cs =>
    let (gap, rest) := takeGap false cs
    ('\\' :: '\n' :: gap, rest)
  | '\\' :: '\r' :: '\n' :: cs =>
    let (gap, rest) := takeGap false cs
    ('\\' :: '\r' :: '\n' :: gap, rest)
  | c :: cs =>
    if comment then
      let (gap, rest) := takeGap (c != '\n') cs
      (c :: gap, rest)
    else if isSpace c then
      let (gap, rest) := takeGap false cs
      (c :: gap, rest)
    else if c == '#' then
      let (gap, rest) := takeGap true cs
      (c :: gap, rest)
    else if c == '\\' && cs.isEmpty then ([c], [])
    else ([], c :: cs)

/-! ## §2. Numbers -/

/-- The rest after decimal digits, where one underscore may follow each digit. -/
def afterDigits (underscore : Bool) : List Char → List Char
  | [] => []
  | c :: cs =>
    if c.isDigit then afterDigits false cs
    else if c == '_' && !underscore then afterDigits true cs
    else c :: cs

/-- The rest after digits of a base, where one underscore may precede each digit. -/
def afterBaseDigits (digit : Char → Bool) : List Char → List Char
  | [] => []
  | '_' :: d :: cs => if digit d then afterBaseDigits digit cs else '_' :: d :: cs
  | c :: cs => if digit c then afterBaseDigits digit cs else c :: cs

/-- Whether the text begins with a decimal digit. -/
def startsWithDigit : List Char → Bool
  | c :: _ => c.isDigit
  | [] => false

/-- The rest after an optional exponent. -/
def afterExponent (cs : List Char) : List Char :=
  match cs with
  | e :: sign :: rest =>
    if e == 'e' || e == 'E' then
      if sign == '+' || sign == '-' then
        if startsWithDigit rest then afterDigits false rest else cs
      else if sign.isDigit then afterDigits false (sign :: rest)
      else cs
    else cs
  | _ => cs

/-- The rest after one optional suffix letter. -/
def afterSuffix (suffixes : List Char) : List Char → List Char
  | c :: cs => if suffixes.contains c then cs else c :: cs
  | [] => []

/-- Marks of long and imaginary numbers. -/
def numberSuffixes : List Char := ['l', 'L', 'j', 'J']

/-- The digits of the base that a letter after `0` announces. -/
def baseDigit? (letter : Char) : Option (Char → Bool) :=
  if letter == 'x' || letter == 'X' then
    some fun c => c.isDigit || ('a' ≤ c && c ≤ 'f') || ('A' ≤ c && c ≤ 'F')
  else if letter == 'o' || letter == 'O' then some fun c => '0' ≤ c && c ≤ '7'
  else if letter == 'b' || letter == 'B' then some fun c => c == '0' || c == '1'
  else none

/-- The rest after a number with a base, such as `0xFF`. -/
def afterBased? : List Char → Option (List Char)
  | '0' :: letter :: cs =>
    match baseDigit? letter with
    | some digit =>
      let rest := afterBaseDigits digit cs
      if rest.length < cs.length then some (afterSuffix ['l', 'L'] rest) else none
    | none => none
  | _ => none

/-- The rest after a number, if one stands here. -/
def afterNumber? (cs : List Char) : Option (List Char) :=
  match afterBased? cs with
  | some rest => some rest
  | none =>
    if startsWithDigit cs then
      let rest := match afterDigits false cs with
        | '.' :: more => afterExponent (if startsWithDigit more then afterDigits false more else more)
        | more => afterExponent more
      some (afterSuffix numberSuffixes rest)
    else
      match cs with
      | '.' :: more =>
        if startsWithDigit more then
          some (afterSuffix numberSuffixes (afterExponent (afterDigits false more)))
        else none
      | _ => none

/-! ## §3. String literals -/

/-- The opening of a string literal. -/
structure Delimiter where
  /-- The quote. -/
  quote : Char
  /-- Whether the quote is tripled. -/
  triple : Bool
  /-- Whether backslashes stand for themselves. -/
  raw : Bool
  /-- Whether braces open replacement fields. -/
  format : Bool
  /-- Whether the literal is a bytes literal. -/
  bytes : Bool
  deriving Repr, Inhabited, DecidableEq

/-- Letters that may stand before the quote. -/
def prefixLetters : List Char :=
  ['f', 'F', 't', 'T', 'r', 'R', 'b', 'B', 'u', 'U']

/-- The delimiter that a run of letters before a quote gives. -/
def Delimiter.ofLetters (letters : List Char) (quote : Char) (triple : Bool) : Delimiter :=
  { quote, triple
    raw := letters.any fun c => c == 'r' || c == 'R'
    format := letters.any fun c => c == 'f' || c == 'F' || c == 't' || c == 'T'
    bytes := letters.any fun c => c == 'b' || c == 'B' }

/-- A string literal that opens here, with the text after its opening quotes. -/
def openString? (cs : List Char) : Option (Delimiter × List Char) :=
  let letters := cs.takeWhile prefixLetters.contains
  match cs.dropWhile prefixLetters.contains with
  | q :: rest =>
    if !isQuote q then none
    else if q == '`' then some (Delimiter.ofLetters letters q false, rest)
    else
      match rest with
      | a :: b :: more =>
        if a == q && b == q then some (Delimiter.ofLetters letters q true, more)
        else some (Delimiter.ofLetters letters q false, rest)
      | _ => some (Delimiter.ofLetters letters q false, rest)
  | [] => none

/-- Hexadecimal digits. -/
def isHex (c : Char) : Bool :=
  c.isDigit || ('a' ≤ c && c ≤ 'f') || ('A' ≤ c && c ≤ 'F')

/-- How many characters after a backslash belong to its escape sequence. -/
def escapeLength (cs : List Char) : Nat :=
  let hex (n : Nat) (rest : List Char) : Nat :=
    if (rest.take n).length == n && (rest.take n).all isHex then n + 1 else 0
  match cs with
  | '\r' :: '\n' :: _ => 2
  | 'N' :: '{' :: rest =>
    let inner := rest.takeWhile (· != '}')
    if inner.isEmpty || inner.length == rest.length then 0 else inner.length + 3
  | 'u' :: rest => hex 4 rest
  | 'U' :: rest => hex 8 rest
  | 'x' :: rest => hex 2 rest
  | c :: rest =>
    if c.isDigit then 1 + ((rest.take 2).takeWhile Char.isDigit).length
    else if ['\n', '\'', '"', 'a', 'b', 'f', 'r', 'n', 't', 'v', '\\'].contains c then 1
    else 0
  | [] => 0

/-- How many characters a backslash of a raw literal takes along. -/
def rawLength (quote : Char) (cs : List Char) : Nat :=
  let n := match cs with
    | c :: _ => if c == quote || c == '\\' then 1 else 0
    | [] => 0
  match cs.drop n with
  | '\r' :: '\n' :: _ => n + 2
  | '\r' :: _ => n + 1
  | '\n' :: _ => n + 1
  | _ => n

/-- How the literal text of a string ends. -/
inductive TextEnd where
  /-- With the closing quotes; the rest follows. -/
  | closed (rest : List Char)
  /-- With the brace of a replacement field; the rest follows. -/
  | field (rest : List Char)
  /-- Not at all. -/
  | broken
  deriving Repr

/-- Reads literal text up to its end.  `skip` characters are taken as they are; `fresh` tells that
    no character has been read since the opening, an escape or a field, where a line end is
    tolerated even in a literal of one line. -/
def scanText (d : Delimiter) : (skip : Nat) → (fresh : Bool) → List Char → TextEnd
  | _, _, [] => .broken
  | skip + 1, fresh, _ :: cs => scanText d skip fresh cs
  | 0, fresh, c :: cs =>
    if c == '\x00' then .broken
    else if d.format && c == '{' then
      if cs.head? == some '{' then scanText d 1 true cs else .field cs
    else if d.format && c == '}' then
      if cs.head? == some '}' then scanText d 1 true cs else .broken
    else if c == '\\' then
      if d.raw then scanText d (rawLength d.quote cs) fresh cs
      else if d.bytes && (cs.head? == some 'N' || cs.head? == some 'u' || cs.head? == some 'U') then
        scanText d 2 false cs
      else scanText d (escapeLength cs) true cs
    else if c == d.quote then
      if !d.triple then .closed cs
      else if cs.take 2 == [c, c] then .closed (cs.drop 2)
      else if cs.head? == some c then scanText d 1 true cs
      else scanText d 0 true cs
    else if c == '\n' && !fresh && !d.triple then .broken
    else scanText d 0 false cs

/-! ## §4. The token loop -/

/-- What the words read so far in a replacement field amount to. -/
inductive FieldText where
  /-- Nothing yet. -/
  | nothing
  /-- One name. -/
  | oneName
  /-- More than that. -/
  | more
  deriving DecidableEq, Repr

/-- Where in a format string the lexer stands. -/
inductive Mode where
  /-- In literal text. -/
  | literal (d : Delimiter)
  /-- In a replacement field, with that many open brackets and unfinished lambdas. -/
  | field (depth lambdas : Nat) (read : FieldText)
  /-- In a format specification. -/
  | spec
  deriving DecidableEq, Repr

/-- The operator at the front of the text. -/
def operator? (cs : List Char) : Option (String × List Char) :=
  (operators.find? fun o => o.toList.isPrefixOf cs).map fun o => (o, cs.drop o.length)

/-- One word outside of literal text, with the rest after it. -/
def word (cs : List Char) : Symbol × List Char :=
  match cs with
  | [] => (.eof, [])
  | c :: _ =>
    if isIdentifierStart c then
      (.name (String.ofList (cs.takeWhile isIdentifierContinue)), cs.dropWhile isIdentifierContinue)
    else
      match afterNumber? cs with
      | some rest => (.number, rest)
      | none =>
        match operator? cs with
        | some (o, rest) => (.op o, rest)
        | none => (.invalid, [])

/-- A word inside a replacement field: a brace, colon or conversion outside of brackets ends the
    expression. -/
def fieldWord (depth lambdas : Nat) (read : FieldText) (cs : List Char) :
    Symbol × List Char × Option Mode :=
  let walrus := cs.take 2 == [':', '='] && read == .oneName
  if depth == 0 && cs.head? == some '}' then (.fieldClose, cs.drop 1, none)
  else if depth == 0 && lambdas == 0 && cs.head? == some ':' && !walrus then
    (.formatSpec, cs.drop 1, some .spec)
  else
    match cs with
    | '!' :: c :: rest =>
      if c.isLower then (.conversion, rest, some (.field depth lambdas .more))
      else
        let (s, rest) := word cs
        (s, rest, some (.field depth lambdas .more))
    | _ =>
      let (s, rest) := word cs
      let next := match s with
        | .op "(" | .op "[" | .op "\x7b" => Mode.field (depth + 1) lambdas .more
        | .op ")" | .op "]" | .op "\x7d" => .field (depth - 1) lambdas .more
        | .op ":" => .field depth (if depth == 0 then lambdas - 1 else lambdas) .more
        | .name "lambda" => .field depth (if depth == 0 then lambdas + 1 else lambdas) .more
        | .name _ => .field depth lambdas (if read == .nothing then .oneName else .more)
        | _ => .field depth lambdas .more
      (s, rest, some next)

/-- The tokens from a point on; each step reads at least one character, so a fuel of one more than
    the characters left suffices. -/
def tokensFrom : (fuel : Nat) → List Mode → (muted : Bool) → List Char → List Token
  | 0, _, _, _ => []
  | fuel + 1, .literal d :: modes, muted, cs =>
    match scanText d 0 true cs with
    | .closed rest => ⟨[], muted, .formatClose, cs⟩ :: tokensFrom fuel modes false rest
    | .field rest =>
      ⟨[], muted, .fieldOpen, cs⟩ :: tokensFrom fuel (.field 0 0 .nothing :: .literal d :: modes) muted rest
    | .broken => [⟨[], muted, .invalid, cs⟩]
  | fuel + 1, .spec :: modes, muted, cs =>
    match cs.dropWhile fun c => c != '{' && c != '}' with
    | '}' :: rest => ⟨[], muted, .fieldClose, cs⟩ :: tokensFrom fuel modes muted rest
    | '{' :: rest =>
      ⟨[], muted, .fieldOpen, cs⟩ :: tokensFrom fuel (.field 0 0 .nothing :: .spec :: modes) muted rest
    | _ => [⟨[], muted, .invalid, cs⟩]
  | fuel + 1, modes, muted, cs =>
    let (gap, rest) := takeGap false cs
    match openString? rest with
    | some (d, inner) =>
      let modes := match modes with
        | .field depth lambdas _ :: outer => .field depth lambdas .more :: outer
        | _ => modes
      if d.format then
        ⟨gap, muted, .formatOpen, rest⟩ :: tokensFrom fuel (.literal d :: modes) true inner
      else
        match scanText d 0 true inner with
        | .closed after => ⟨gap, muted, .text, rest⟩ :: tokensFrom fuel modes false after
        | _ => [⟨gap, muted, .invalid, rest⟩]
    | none =>
      match modes with
      | .field depth lambdas read :: outer =>
        let (s, after, next) := fieldWord depth lambdas read rest
        ⟨gap, muted, s, rest⟩ ::
          (if s == .eof || s == .invalid then []
           else tokensFrom fuel (next.toList ++ outer) muted after)
      | _ =>
        let (s, after) := word rest
        ⟨gap, muted, s, rest⟩ ::
          (if s == .eof || s == .invalid then [] else tokensFrom fuel modes muted after)

/-- The tokens of a source. -/
def tokens (source : List Char) : List Token :=
  tokensFrom (source.length + 1) [] false source

end TestScaffold.Python
