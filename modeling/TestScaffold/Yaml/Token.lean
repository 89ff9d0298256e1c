/-
  TestScaffold.Yaml.Token — the tokens of a YAML text.

  A key of a mapping is known as one only at the colon after it, so tokens wait in a
  queue while one of them may still turn out to begin a key.

    * `Token` — what the grammar sees;
    * `Scanner` — the place in the text, the open blocks and brackets, and the queue;
    * `Scanner.fetch` — the next token, put into the queue;
    * `Scanner.peek` — the token that is certain to come first.

  Every function that returns nothing has met a malformed text.
-/
import TestScaffold.Yaml.Scalar

namespace TestScaffold.Yaml

/-! ## §1. Tokens and scanners -/

/-- How a scalar is written. -/
inductive Style where
  /-- Without quotes. -/
  | plain
  /-- As lines after `|`. -/
  | literal
  /-- In quotes, or as folded lines. -/
  | quoted
  deriving DecidableEq, Repr, Inhabited

/-- One token. -/
inductive Token where
  /-- The end of the text. -/
  | streamEnd
  /-- `%YAML`, with its two numbers. -/
  | version (major minor : Nat)
  /-- `%TAG`, with a handle and what it stands for. -/
  | tagHandle (handle : String) (meaning : String)
  /-- `---` -/
  | documentStart
  /-- `...` -/
  | documentEnd
  /-- An indented list begins. -/
  | blockSequence
  /-- Indented members begin. -/
  | blockMapping
  /-- An indented block ends. -/
  | blockEnd
  /-- `[` -/
  | openBracket
  /-- `]` -/
  | closeBracket
  /-- An opening brace. -/
  | openBrace
  /-- A closing brace. -/
  | closeBrace
  /-- `-` -/
  | entry
  /-- `,` -/
  | comma
  /-- A key begins. -/
  | key
  /-- A value begins. -/
  | value
  /-- `*name` -/
  | alias (name : String)
  /-- `&name` -/
  | anchor (name : String)
  /-- A tag, with its handle. -/
  | tag (handle suffix : String)
  /-- A scalar. -/
  | scalar (style : Style) (text : String)
  deriving DecidableEq, Repr, Inhabited

/-- A token that may begin a key. -/
structure PossibleKey where
  /-- Its number among all tokens. -/
  number : Nat
  /-- Whether nothing but a key can stand there. -/
  required : Bool
  /-- Where it stands. -/
  place : Place

/-- The state of reading tokens. -/
structure Scanner where
  /-- Where the text goes on. -/
  place : Place
  /-- The number of open brackets. -/
  flow : Nat := 0
  /-- The column of the innermost block. -/
  indent : Int := -1
  /-- The columns of the blocks around it. -/
  outer : List Int := []
  /-- Whether a key may begin here. -/
  keyAllowed : Bool := true
  /-- What may be a key, for every bracket and the block outside, innermost first. -/
  keys : List (Option PossibleKey) := [none]
  /-- The tokens read and not yet taken. -/
  queue : List Token := []
  /-- The number of tokens taken. -/
  taken : Nat := 0

namespace Scanner

/-! ## §2. Keys and blocks -/

/-- Adds a token. -/
def push (s : Scanner) (t : Token) : Scanner :=
  { s with queue := s.queue ++ [t] }

/-- Adds a token before the one with a given number. -/
def insert (s : Scanner) (number : Nat) (t : Token) : Scanner :=
  let before := number - s.taken
  { s with queue := s.queue.take before ++ t :: s.queue.drop before }

/-- The longest key. -/
def maxKeyLength : Nat := 1024

/-- Gives up the keys that the place has left behind: a key stands in one line and is short. -/
def dropStaleKeys (s : Scanner) : Option Scanner :=
  let isStale (k : PossibleKey) : Bool :=
    k.place.line < s.place.line || k.place.index + maxKeyLength < s.place.index
  if s.keys.any fun k? => k?.any fun k => isStale k && k.required then none
  else some { s with keys := s.keys.map fun k? => k?.filter fun k => !isStale k }

/-- Gives up the possible key inside the innermost bracket. -/
def dropKey (s : Scanner) : Option Scanner :=
  match s.keys with
  | some k :: rest => if k.required then none else some { s with keys := none :: rest }
  | _ => some s

/-- Remembers that the next token may begin a key. -/
def saveKey (s : Scanner) : Option Scanner :=
  if s.keyAllowed then do
    let s ← s.dropKey
    let k : PossibleKey :=
      { number := s.taken + s.queue.length
        required := s.flow == 0 && s.indent == (s.place.column : Int)
        place := s.place }
    return { s with keys := some k :: s.keys.tail }
  else some s

/-- Opens a block at a column, unless one is open there; `number` is where its token goes. -/
def openBlock (s : Scanner) (column : Nat) (number : Nat) (t : Token) : Scanner :=
  if s.flow == 0 && s.indent < (column : Int) then
    { s.insert number t with indent := column, outer := s.indent :: s.outer }
  else s

/-- Closes the blocks right of a column. -/
def closeBlocksFrom (column : Int) : List Int → Scanner → Scanner
  | [], s => s
  | up :: outer, s =>
    if column < s.indent then
      closeBlocksFrom column outer { s.push .blockEnd with indent := up, outer }
    else s

/-- Closes the blocks right of a column, outside of brackets. -/
def closeBlocks (s : Scanner) (column : Int) : Scanner :=
  if s.flow == 0 then closeBlocksFrom column s.outer s else s

/-- The place moved on. -/
def moved (s : Scanner) (place : Place) : Scanner := { s with place }

/-- The place moved over some characters. -/
def skip (s : Scanner) (n : Nat) : Scanner := s.moved (s.place.skipMany n)

/-! ## §3. White space -/

/-- Goes to the next token.  A tab is white space only where no key may begin. -/
def toToken : (fuel : Nat) → Scanner → Scanner
  | 0, s => s
  | fuel + 1, s =>
    let p := s.place.skipWhile fun c =>
      c == ' ' || (c == '\t' && (0 < s.flow || !s.keyAllowed))
    let p := if p.rest.head? == some '#' then p.skipWhile fun c => !isBreak c else p
    match p.lineBreak? with
    | some (_, next) =>
      toToken fuel { s with place := next, keyAllowed := s.flow == 0 || s.keyAllowed }
    | none => s.moved p

/-! ## §4. Directives, anchors and tags -/

/-- A number. -/
def number? (p : Place) : Option (Nat × Place) :=
  let (digits, p) := p.takeWhile Char.isDigit
  if digits.isEmpty || 9 < digits.length then none
  else some (digits.foldl (fun n c => n * 10 + (c.toNat - '0'.toNat)) 0, p)

/-- The rest of a directive's line. -/
def endOfDirective? (p : Place) : Option Place :=
  let p := p.skipWhile isBlank
  let p := if p.rest.head? == some '#' then p.skipWhile fun c => !isBreak c else p
  match p.lineBreak? with
  | some (_, next) => some next
  | none => if p.rest.isEmpty then some p else none

/-- The handle of a tag: `!`, `!name!`, or `!name` without its end. -/
def handle? (p : Place) : Option (List Char × Place) :=
  match p.rest with
  | '!' :: _ =>
    let (name, p) := p.skip.takeWhile isWordChar
    match p.rest with
    | '!' :: _ => some ('!' :: name ++ ['!'], p.skip)
    | _ => some ('!' :: name, p)
  | _ => none

/-- Characters of a tag outside of angle brackets. -/
def isTagChar (c : Char) : Bool :=
  isWordChar c || [';', '/', '?', ':', '@', '&', '=', '+', '$', '.', '%', '!', '~', '*', '\'', '(',
    ')'].contains c

/-- Characters of a tag in angle brackets. -/
def isUriChar (c : Char) : Bool :=
  isTagChar c || c == ',' || c == '[' || c == ']'

/-- The bytes that a tag stands for: `%41` is one byte. -/
def unescape? : List Char → Option (List UInt8)
  | [] => some []
  | '%' :: a :: b :: rest => do
    return UInt8.ofNat ((← hexDigit? a) * 16 + (← hexDigit? b)) :: (← unescape? rest)
  | '%' :: _ => none
  | c :: rest => do return c.toString.toUTF8.data.toList ++ (← unescape? rest)

/-- The text that the characters of a tag stand for. -/
def uriText? (cs : List Char) : Option String := do
  String.fromUTF8? ⟨(← unescape? cs).toArray⟩

/-- The characters of a tag. -/
def uri? (test : Char → Bool) (head : List Char) (p : Place) : Option (String × Place) := do
  let (found, p) := p.takeWhile test
  return (← uriText? (head ++ found), p)

/-- A directive line. -/
def directive? (p : Place) : Option (Token × Place) := do
  let (name, p) := p.skip.takeWhile isWordChar
  if name.isEmpty || !atGap p.rest then none
  else
    let p := p.skipWhile isBlank
    if name == "YAML".toList then
      let (major, p) ← number? p
      if p.rest.head? != some '.' then none
      else
        let (minor, p) ← number? p.skip
        return (.version major minor, ← endOfDirective? p)
    else if name == "TAG".toList then
      let (handle, p) ← handle? p
      if handle != ['!'] && handle.getLast? != some '!' then none
      else if !p.rest.head?.any isBlank then none
      else
        let (meaning, p) ← uri? isUriChar [] (p.skipWhile isBlank)
        if meaning.isEmpty || !atGap p.rest then none
        else return (.tagHandle (String.ofList handle) meaning, ← endOfDirective? p)
    else none

/-- A character that is kept for later use. -/
def backtick : Char := Char.ofNat 0x60

/-- The name of an anchor or alias. -/
def anchorName? (p : Place) : Option (String × Place) :=
  let (name, p) := p.skip.takeWhile isWordChar
  let ends := atGap p.rest
    || (p.rest.head?.any fun c => ['?', ':', ',', ']', '\x7d', '%', '@', backtick].contains c)
  if name.isEmpty || !ends then none else some (String.ofList name, p)

/-- A tag. -/
def tag? (flow : Bool) (p : Place) : Option (Token × Place) := do
  let (t, p) ← match p.rest with
    | '!' :: '<' :: _ => do
      let (text, p) ← uri? isUriChar [] (p.skipMany 2)
      if text.isEmpty || p.rest.head? != some '>' then none else some (Token.tag "" text, p.skip)
    | _ => do
      let (handle, p) ← handle? p
      if 1 < handle.length && handle.getLast? == some '!' then
        let (suffix, p) ← uri? isTagChar [] p
        if suffix.isEmpty then none else some (Token.tag (String.ofList handle) suffix, p)
      else
        let (suffix, p) ← uri? isTagChar handle.tail p
        if suffix.isEmpty then some (Token.tag "" "!", p) else some (Token.tag "!" suffix, p)
  if atGap p.rest || (flow && p.rest.head? == some ',') then return (t, p) else none

/-! ## §5. Fetching -/

/-- The end of the text. -/
def fetchEnd (s : Scanner) : Option Scanner := do
  let p := s.place
  let s := if p.column == 0 then s else s.moved { p with line := p.line + 1, column := 0 }
  let s ← (s.closeBlocks (-1)).dropKey
  return { s.push .streamEnd with keyAllowed := false }

/-- A directive. -/
def fetchDirective (s : Scanner) : Option Scanner := do
  let s ← (s.closeBlocks (-1)).dropKey
  let (t, p) ← directive? s.place
  return { (s.push t).moved p with keyAllowed := false }

/-- `---` or `...` -/
def fetchDocumentMark (s : Scanner) (t : Token) : Option Scanner := do
  let s ← (s.closeBlocks (-1)).dropKey
  return { (s.push t).skip 3 with keyAllowed := false }

/-- An opening bracket or brace. -/
def fetchOpen (s : Scanner) (t : Token) : Option Scanner := do
  let s ← s.saveKey
  return { (s.push t).skip 1 with keys := none :: s.keys, flow := s.flow + 1, keyAllowed := true }

/-- A closing bracket or brace. -/
def fetchClose (s : Scanner) (t : Token) : Option Scanner := do
  let s ← s.dropKey
  let keys := if 0 < s.flow then s.keys.tail else s.keys
  return { (s.push t).skip 1 with keys, flow := s.flow - 1, keyAllowed := false }

/-- A comma. -/
def fetchComma (s : Scanner) : Option Scanner := do
  let s ← s.dropKey
  return { (s.push .comma).skip 1 with keyAllowed := true }

/-- The number of the token to come. -/
def nextNumber (s : Scanner) : Nat := s.taken + s.queue.length

/-- A dash. -/
def fetchEntry (s : Scanner) : Option Scanner := do
  if s.flow == 0 && !s.keyAllowed then none
  else
    let s ← (s.openBlock s.place.column s.nextNumber .blockSequence).dropKey
    return { (s.push .entry).skip 1 with keyAllowed := true }

/-- A question mark. -/
def fetchKey (s : Scanner) : Option Scanner := do
  if s.flow == 0 && !s.keyAllowed then none
  else
    let s ← (s.openBlock s.place.column s.nextNumber .blockMapping).dropKey
    return { (s.push .key).skip 1 with keyAllowed := s.flow == 0 }

/-- A colon: what may have been a key is one. -/
def fetchValue (s : Scanner) : Option Scanner :=
  match s.keys with
  | some k :: rest =>
    let s := (s.insert k.number .key).openBlock k.place.column k.number .blockMapping
    some { (s.push .value).skip 1 with keys := none :: rest, keyAllowed := false }
  | _ =>
    if s.flow == 0 && !s.keyAllowed then none
    else
      let s := s.openBlock s.place.column s.nextNumber .blockMapping
      some { (s.push .value).skip 1 with keyAllowed := s.flow == 0 }

/-- An anchor or an alias. -/
def fetchAnchor (s : Scanner) (make : String → Token) : Option Scanner := do
  let s ← s.saveKey
  let (name, p) ← anchorName? s.place
  return { (s.push (make name)).moved p with keyAllowed := false }

/-- A tag. -/
def fetchTag (s : Scanner) : Option Scanner := do
  let s ← s.saveKey
  let (t, p) ← tag? (0 < s.flow) s.place
  return { (s.push t).moved p with keyAllowed := false }

/-- A block scalar. -/
def fetchBlock (s : Scanner) (literal : Bool) : Option Scanner := do
  let s ← s.dropKey
  let (text, p) ← block literal s.indent s.place
  let style := if literal then Style.literal else .quoted
  return { (s.push (.scalar style (String.ofList text))).moved p with keyAllowed := true }

/-- A quoted scalar. -/
def fetchQuoted (s : Scanner) (single : Bool) : Option Scanner := do
  let s ← s.saveKey
  let (text, p) ← quoted single s.place
  return { (s.push (.scalar .quoted (String.ofList text))).moved p with keyAllowed := false }

/-- A plain scalar. -/
def fetchPlain (s : Scanner) : Option Scanner := do
  let s ← s.saveKey
  let found ← plain (0 < s.flow) s.indent s.place
  return { (s.push (.scalar .plain (String.ofList found.text))).moved found.place with
    keyAllowed := found.broken }

/-- Characters that begin something other than a plain scalar. -/
def isIndicator (c : Char) : Bool :=
  ['-', '?', ':', ',', '[', ']', '\x7b', '\x7d', '#', '&', '*', '!', '|', '>', '\'', '"', '%', '@',
    backtick].contains c

/-- Whether a plain scalar begins. -/
def beginsPlain (flow : Bool) : List Char → Bool
  | [] => false
  | c :: rest =>
    !(isBreak c || isBlank c || isIndicator c)
      || (c == '-' && !rest.head?.any isBlank)
      || (!flow && (c == '?' || c == ':') && !atGap rest)

/-- The token at the place, by its first characters. -/
def fetchHere (s : Scanner) : Option Scanner :=
  let flow := 0 < s.flow
  match s.place.rest with
  | [] => s.fetchEnd
  | c :: rest =>
    if s.place.column == 0 && c == '%' then s.fetchDirective
    else if s.place.atDocumentMark then
      s.fetchDocumentMark (if c == '-' then .documentStart else .documentEnd)
    else if c == '[' then s.fetchOpen .openBracket
    else if c == '\x7b' then s.fetchOpen .openBrace
    else if c == ']' then s.fetchClose .closeBracket
    else if c == '\x7d' then s.fetchClose .closeBrace
    else if c == ',' then s.fetchComma
    else if c == '-' && atGap rest then s.fetchEntry
    else if c == '?' && (flow || atGap rest) then s.fetchKey
    else if c == ':' && (flow || atGap rest) then s.fetchValue
    else if c == '*' then s.fetchAnchor .alias
    else if c == '&' then s.fetchAnchor .anchor
    else if c == '!' then s.fetchTag
    else if c == '|' && !flow then s.fetchBlock true
    else if c == '>' && !flow then s.fetchBlock false
    else if c == '\'' then s.fetchQuoted true
    else if c == '"' then s.fetchQuoted false
    else if beginsPlain flow (c :: rest) then s.fetchPlain
    else none

/-- Reads one more token. -/
def fetch (s : Scanner) : Option Scanner := do
  let s := toToken (s.place.rest.length + 1) s
  let s ← s.dropStaleKeys
  (s.closeBlocks s.place.column).fetchHere

/-- The token that comes first: more are read while it may still begin a key.  Every round takes a
    character or comes to the end. -/
def peekFrom : (fuel : Nat) → Scanner → Option (Token × Scanner)
  | 0, _ => none
  | fuel + 1, s =>
    match s.queue with
    | [] => do peekFrom fuel (← s.fetch)
    | t :: _ => do
      let s ← s.dropStaleKeys
      if s.keys.any fun k? => k?.any fun k => k.number == s.taken then peekFrom fuel (← s.fetch)
      else return (t, s)

/-- The token that comes first. -/
def peek (s : Scanner) : Option (Token × Scanner) :=
  peekFrom (s.place.rest.length + 3) s

/-- Takes the token that comes first. -/
def drop (s : Scanner) : Scanner :=
  { s with queue := s.queue.tail, taken := s.taken + 1 }

/-- The begin of a text; a mark of the byte order in front does not count. -/
def ofText (text : String) : Scanner :=
  { place := { rest := match text.toList with
      | c :: rest => if c == Char.ofNat 0xFEFF then rest else c :: rest
      | [] => [] } }

end Scanner

end TestScaffold.Yaml
