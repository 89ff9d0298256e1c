/-
  TestScaffold.SettingsFile.Json — settings written as JSON.

  The text is read from left to right by what is expected next, so data of the
  wrong form is remarked on before a later fault of the text.

    * strings, numbers and white space;
    * `readSlot` — the value of one field;
    * `readGroup` — an object with known fields, or an array with the values in field order;
    * `readSettings` — a whole text.
-/
import TestScaffold.SettingsFile.Schema
import TestScaffold.Decimal.Shortest

namespace TestScaffold.SettingsFile.Json

/-- A step through the text. -/
abbrev Reader := StateT (List Char) (Except Trouble)

/-- The text is no JSON. -/
def malformed : Reader α := throw .malformed

/-- The data does not fit. -/
def unfit (what : Mismatch) : Reader α := throw (.mismatch none what)

/-! ## §1. Characters -/

/-- White space between tokens. -/
def isSpace (c : Char) : Bool := c == ' ' || c == '\n' || c == '\t' || c == '\r'

/-- Skips white space and looks at the next character. -/
def look : Reader (Option Char) := fun cs =>
  let rest := cs.dropWhile isSpace
  .ok (rest.head?, rest)

/-- Skips white space and a given character. -/
def eat (c : Char) : Reader Unit := fun cs =>
  match cs.dropWhile isSpace with
  | d :: rest => if d = c then .ok ((), rest) else .error .malformed
  | [] => .error .malformed

/-- Reads the letters of a word. -/
def word (letters : String) : Reader Unit := fun cs =>
  if letters.toList.isPrefixOf cs then .ok ((), cs.drop letters.length) else .error .malformed

/-! ## §2. Strings -/

/-- The value of a hexadecimal digit. -/
def hexValue? (c : Char) : Option Nat :=
  if '0' ≤ c ∧ c ≤ '9' then some (c.toNat - '0'.toNat)
  else if 'a' ≤ c ∧ c ≤ 'f' then some (c.toNat - 'a'.toNat + 10)
  else if 'A' ≤ c ∧ c ≤ 'F' then some (c.toNat - 'A'.toNat + 10)
  else none

/-- The value of four hexadecimal digits. -/
def unit? (a b c d : Char) : Option Nat := do
  return (((← hexValue? a) * 16 + (← hexValue? b)) * 16 + (← hexValue? c)) * 16 + (← hexValue? d)

/-- The character after a backslash. -/
def escape? : Char → Option Char
  | '"' => some '"'
  | '\\' => some '\\'
  | '/' => some '/'
  | 'b' => some (Char.ofNat 8)
  | 'f' => some (Char.ofNat 12)
  | 'n' => some '\n'
  | 'r' => some '\r'
  | 't' => some '\t'
  | _ => none

/-- Whether a unit is the first half of a pair. -/
def isHigh (n : Nat) : Bool := 0xD800 ≤ n && n ≤ 0xDBFF

/-- Whether a unit is the second half of a pair. -/
def isLow (n : Nat) : Bool := 0xDC00 ≤ n && n ≤ 0xDFFF

/-- The character of a pair of units. -/
def pair (high low : Nat) : Char :=
  Char.ofNat (0x10000 + (high - 0xD800) * 0x400 + (low - 0xDC00))

/-- One character in front of the rest of a string. -/
def consChar (c : Char) (r : Except Trouble (List Char × List Char)) :
    Except Trouble (List Char × List Char) :=
  r.map fun (cs, rest) => (c :: cs, rest)

/-- The characters up to the closing quote, and the text after it. -/
def stringBody : List Char → Except Trouble (List Char × List Char)
  | [] => .error .malformed
  | '"' :: rest => .ok ([], rest)
  | '\\' :: 'u' :: a :: b :: c :: d :: rest =>
    match unit? a b c d with
    | none => .error .malformed
    | some n =>
      if isHigh n then
        match rest with
        | '\\' :: 'u' :: e :: f :: g :: h :: left =>
          match unit? e f g h with
          | some low => if isLow low then consChar (pair n low) (stringBody left) else .error .malformed
          | none => .error .malformed
        | _ => .error .malformed
      else if isLow n then .error .malformed
      else consChar (Char.ofNat n) (stringBody rest)
  | '\\' :: c :: rest =>
    match escape? c with
    | some d => consChar d (stringBody rest)
    | none => .error .malformed
  | c :: rest => if c.toNat < 0x20 then .error .malformed else consChar c (stringBody rest)

/-- A string at the next character. -/
def readString : Reader String := fun cs =>
  match cs.dropWhile isSpace with
  | '"' :: rest => (stringBody rest).map fun (text, left) => (String.ofList text, left)
  | _ => .error .malformed

/-! ## §3. Numbers -/

/-- A number as a machine keeps it. -/
inductive Number where
  /-- From zero, below `2^64`. -/
  | natural (value : Nat)
  /-- Below zero, at least `-2^63`. -/
  | negative (value : Int)
  /-- Any other. -/
  | float (value : Float)

/-- What a number is, for a remark. -/
def Number.found : Number → Found
  | natural n => .integer n
  | negative n => .integer n
  | float x => .float (Decimal.Shortest.ofFloat x).compact

/-- The digits at the begin of a text. -/
def takeDigits (cs : List Char) : List Char × List Char :=
  cs.span Char.isDigit

/-- The value of a digit. -/
def digitValue (c : Char) : Nat := c.toNat - '0'.toNat

/-- As many digits as fit into a word, onto `acc`, and the digits that are left. -/
def significand (acc : Nat) : List Char → Nat × List Char
  | [] => (acc, [])
  | d :: ds =>
    let next := acc * 10 + digitValue d
    if next < sizeBound then significand next ds else (acc, d :: ds)

/-- The largest power of ten that a double holds. -/
def maxPower : Nat := 308

/-- `m · 10^e`, one multiplication or division at a time; `none` if it is out of range.  A division
    by the largest power comes first where the exponent is below it. -/
def scaled? : (fuel : Nat) → (x : Float) → (e : Int) → Option Float
  | 0, x, _ => some x
  | fuel + 1, x, e =>
    if e.natAbs ≤ maxPower then
      let power := Float.ofScientific 1 false e.natAbs
      if 0 ≤ e then
        let y := x * power
        if y.isInf then none else some y
      else some (x / power)
    else if x == 0.0 then some x
    else if 0 ≤ e then none
    else scaled? fuel (x / Float.ofScientific 1 false maxPower) (e + maxPower)

/-- A number with a point or an exponent, or one too long for a word. -/
def floatOf (minus : Bool) (m : Nat) (e : Int) : Except Trouble Number :=
  match scaled? (e.natAbs / maxPower + 1) m.toUInt64.toFloat e with
  | some x => .ok (.float (if minus then -x else x))
  | none => .error .malformed

/-- The largest exponent that is looked at. -/
def maxExponent : Nat := Nat.pow 2 31 - 1

/-- The exponent after its mark: a sign and digits. -/
def readExponent (cs : List Char) : Except Trouble (Int × List Char) :=
  let (minus, cs) := match cs with
    | '+' :: rest => (false, rest)
    | '-' :: rest => (true, rest)
    | _ => (false, cs)
  match takeDigits cs with
  | ([], _) => .error .malformed
  | (ds, rest) =>
    let n : Int := min (ds.foldl (fun n d => n * 10 + digitValue d) 0) maxExponent
    .ok (if minus then -n else n, rest)

/-- A number without its sign. -/
def numberBody (minus : Bool) (cs : List Char) : Except Trouble (Number × List Char) := do
  let (whole, cs) := takeDigits cs
  match whole with
  | [] => throw .malformed
  | '0' :: _ :: _ => throw .malformed
  | _ => pure ()
  let (m, dropped) := significand 0 whole
  let (m, e, exact, cs) ← match cs with
    | '.' :: rest =>
      match takeDigits rest with
      | ([], _) => throw .malformed
      | (ds, rest) =>
        let (n, left) := significand m ds
        pure (n, (dropped.length : Int) - (ds.length - left.length : Nat), false, rest)
    | _ => pure (m, (dropped.length : Int), dropped.isEmpty, cs)
  match cs with
  | c :: rest =>
    if c == 'e' || c == 'E' then
      let (more, rest) ← readExponent rest
      return (← floatOf minus m (e + more), rest)
  | [] => pure ()
  if exact then
    if !minus then return (.natural m, cs)
    else if 0 < m && m ≤ Nat.pow 2 63 then return (.negative (-(m : Int)), cs)
    else return (.float (-m.toUInt64.toFloat), cs)
  else return (← floatOf minus m e, cs)

/-- A number at the next character. -/
def readNumber : Reader Number := fun cs =>
  match cs.dropWhile isSpace with
  | '-' :: rest => numberBody true rest
  | rest => numberBody false rest

/-! ## §4. Values -/

/-- Remarks on the value that stands where something else was expected. -/
def misfit (expected : String) : Reader α := do
  match ← look with
  | some 'n' => word "null"; unfit (.invalidType (.nothing "null") expected)
  | some 't' => word "true"; unfit (.invalidType (.flag true) expected)
  | some 'f' => word "false"; unfit (.invalidType (.flag false) expected)
  | some '"' => unfit (.invalidType (.text (← readString)) expected)
  | some '[' => unfit (.invalidType .sequence expected)
  | some '\x7b' => unfit (.invalidType .map expected)
  | some c =>
    if c == '-' || c.isDigit then unfit (.invalidType (← readNumber).found expected) else malformed
  | none => malformed

/-- A text. -/
def readText (expected : String) : Reader String := do
  match ← look with
  | some '"' => readString
  | _ => misfit expected

/-- A truth value. -/
def readFlag : Reader Bool := do
  match ← look with
  | some 't' => word "true"; return true
  | some 'f' => word "false"; return false
  | _ => misfit "a boolean"

/-- How sizes are called in remarks. -/
def sizeTitle : String := "usize"

/-- A number from zero. -/
def readSize : Reader Nat := do
  match ← look with
  | some c =>
    if c == '-' || c.isDigit then
      match ← readNumber with
      | .natural n => return n
      | .negative n => unfit (.invalidValue (.integer n) sizeTitle)
      | x => unfit (.invalidType x.found sizeTitle)
    else misfit sizeTitle
  | none => misfit sizeTitle

/-- Whether an array goes on.  After its first element a comma has to come. -/
def hasElement (first : Bool) : Reader Bool := do
  match ← look with
  | some ']' => eat ']'; return false
  | some ',' =>
    if first then malformed
    else
      eat ','
      match ← look with
      | some ']' => malformed
      | _ => return true
  | some _ => if first then return true else malformed
  | none => malformed

/-- The texts of an array that is open; every round takes a character. -/
def readTextsFrom : (fuel : Nat) → (first : Bool) → Reader (List String)
  | 0, _ => malformed
  | fuel + 1, first => do
    if ← hasElement first then
      let text ← readText "a string"
      let more ← readTextsFrom fuel false
      return text :: more
    else return []

/-- A list of texts. -/
def readTexts : Reader (List String) := do
  match ← look with
  | some '[' =>
    eat '['
    readTextsFrom ((← get).length + 1) true
  | _ => misfit "a sequence"

/-- The content of a choice in an object. -/
def readContent (v : Variant σ) (s : σ) : Reader σ := do
  match v with
  | .unit choose =>
    match ← look with
    | some 'n' => word "null"; return choose s
    | _ => misfit "unit"
  | .text choose => return choose (← readText "a string") s

/-- The choice of a name. -/
def findVariant (variants : List (String × Variant σ)) (name : String) : Reader (Variant σ) :=
  match variants.lookup name with
  | some v => return v
  | none => unfit (.unknownVariant name (names variants))

/-- One of several choices: its name, or an object with its name and its content. -/
def readChoice (variants : List (String × Variant σ)) (s : σ) : Reader σ := do
  match ← look with
  | some '"' =>
    match ← findVariant variants (← readString) with
    | .unit choose => return choose s
    | .text _ => unfit (.invalidType .unitVariant "newtype variant")
  | some '\x7b' =>
    eat '\x7b'
    let v ← findVariant variants (← readText "variant identifier")
    eat ':'
    let s ← readContent v s
    eat '\x7d'
    return s
  | _ => malformed

/-- The value of one field. -/
def readSlot (slot : Slot σ) (s : σ) : Reader σ := do
  match slot with
  | .text put => return put (← readText "a string") s
  | .flag put => return put (← readFlag) s
  | .size put => return put (← readSize) s
  | .texts put => return put (← readTexts) s
  | .choice variants => readChoice variants s

/-! ## §5. Groups -/

/-- Whether an object goes on, with the next character its quote. -/
def hasMember (first : Bool) : Reader Bool := do
  match ← look with
  | some '\x7d' => eat '\x7d'; return false
  | some ',' =>
    if first then malformed
    else
      eat ','
      match ← look with
      | some '"' => return true
      | _ => malformed
  | some '"' => if first then return true else malformed
  | _ => malformed

/-- The members of an object that is open; every round takes a character. -/
def readMembers (known : List String) (readField : String → σ → Reader σ) :
    (fuel : Nat) → (seen : List String) → σ → Reader σ
  | 0, _, _ => malformed
  | fuel + 1, seen, s => do
    if ← hasMember seen.isEmpty then
      let name ← readString
      if !known.contains name then unfit (.unknownField name known)
      else if seen.contains name then unfit (.duplicateField name)
      else
        eat ':'
        let s ← readField name s
        readMembers known readField fuel (name :: seen) s
    else return s

/-- The elements of an array that stands for an object, in field order; it may end early. -/
def readElements (readField : String → σ → Reader σ) :
    (fields : List String) → (first : Bool) → σ → Reader σ
  | [], _, s => do eat ']'; return s
  | name :: rest, first, s => do
    if ← hasElement first then
      let s ← readField name s
      readElements readField rest false s
    else return s

/-- An object with known fields, or an array of their values. -/
def readGroup (title : String) (known : List String) (readField : String → σ → Reader σ) (s : σ) :
    Reader σ := do
  match ← look with
  | some '\x7b' =>
    eat '\x7b'
    readMembers known readField ((← get).length + 1) [] s
  | some '[' =>
    eat '['
    readElements readField known true s
  | _ => misfit title

/-- The value of a field by its name. -/
def readNamed (fields : Fields σ) (name : String) (s : σ) : Reader σ :=
  match fields.lookup name with
  | some slot => readSlot slot s
  | none => unfit (.unknownField name (names fields))

/-- One of the two groups of settings. -/
def readPart (name : String) (s : Settings) : Reader Settings := do
  if name = "filter" then
    let filter ← readGroup filterTitle (names filterFields) (readNamed filterFields) {}
    return { s with filter }
  else
    let render ← readGroup renderTitle (names renderFields) (readNamed renderFields) {}
    return { s with render }

/-- The settings of a whole text. -/
def readSettings (text : String) : Except Trouble Settings := do
  let (s, rest) ← (readGroup settingsTitle groupNames readPart {}).run text.toList
  if rest.all isSpace then return s else throw .malformed

end TestScaffold.SettingsFile.Json
