/-
  TestScaffold.SettingsFile.Yaml — settings written as YAML.

  The events of the first document are read by what is expected next, so data of the
  wrong form is remarked on before a later fault of the text.

    * `scalarFound` — what a scalar is when nothing in particular is expected;
    * `readSlot` — the value of one field;
    * `readGroup` — members with known names;
    * `readSettings` — a whole text.
-/
import TestScaffold.SettingsFile.Schema
import TestScaffold.Decimal.Shortest
import TestScaffold.Yaml.Event

namespace TestScaffold.SettingsFile.Yaml

open TestScaffold.Yaml

/-! ## §1. Plain scalars -/

/-- Whether a plain scalar is the value that is none. -/
def isNull (text : String) : Bool :=
  ["null", "Null", "NULL", "~"].contains text

/-- The truth value of a plain scalar. -/
def flag? (text : String) : Option Bool :=
  if ["true", "True", "TRUE"].contains text then some true
  else if ["false", "False", "FALSE"].contains text then some false
  else none

/-- The value of a digit of a base up to sixteen. -/
def digit? (base : Nat) (c : Char) : Option Nat :=
  (hexDigit? c).filter (· < base)

/-- The value of digits, at least one. -/
def digits? (base : Nat) : List Char → Option Nat
  | [] => none
  | cs => cs.foldlM (fun n c => (digit? base c).map (n * base + ·)) 0

/-- Digits after a sign that begin with a needless zero; they are a text. -/
def hasNeedlessZero (cs : List Char) : Bool :=
  let cs := match cs with
    | '+' :: rest => rest
    | '-' :: rest => rest
    | _ => cs
  match cs with
  | '0' :: c :: rest => (c :: rest).all Char.isDigit
  | _ => false

/-- The base that a number begins with, and its digits. -/
def based? : List Char → Option (Nat × List Char)
  | '0' :: 'x' :: rest => some (16, rest)
  | '0' :: 'o' :: rest => some (8, rest)
  | '0' :: 'b' :: rest => some (2, rest)
  | _ => none

/-- A number from zero, below a bound. -/
def natural? (bound : Nat) (cs : List Char) : Option Nat :=
  let body := match cs with
    | '+' :: rest => rest
    | _ => cs
  let n? := match based? body with
    | some (base, ds) => digits? base ds
    | none => if hasNeedlessZero cs then none else digits? 10 body
  n?.filter (· < bound)

/-- A number with a minus, at most `bound` below zero. -/
def negative? (bound : Nat) : List Char → Option Int
  | '-' :: rest =>
    let n? := match based? rest with
      | some (base, ds) => digits? base ds
      | none => if hasNeedlessZero rest then none else digits? 10 rest
    (n?.filter (· ≤ bound)).map fun n => -(n : Int)
  | _ => none

/-- A number without a point, for a remark. -/
def integer? (cs : List Char) : Option Found :=
  ((natural? (Nat.pow 2 64) cs).map fun n => .integer n)
    <|> ((negative? (Nat.pow 2 63) cs).map .integer)
    <|> ((natural? (Nat.pow 2 128) cs).map fun n => .wideInteger n "u128")
    <|> ((negative? (Nat.pow 2 127) cs).map fun n => .wideInteger n "i128")

/-- The exponent of a number with a point: a sign and digits. -/
def exponent? (cs : List Char) : Option Int :=
  match cs with
  | '+' :: ds => (digits? 10 ds).map fun n => (n : Int)
  | '-' :: ds => (digits? 10 ds).map fun n => -(n : Int)
  | ds => (digits? 10 ds).map fun n => (n : Int)

/-- A bound beyond which a number is infinite or zero whatever its digits. -/
def farExponent : Int := 1000

/-- `±m · 10^e` as a double; nothing if it is too large. -/
def double? (minus : Bool) (m : Nat) (e : Int) : Option Float :=
  let length : Int := (Nat.toDigits 10 m).length
  let x :=
    if m == 0 || e + length < -farExponent then some 0.0
    else if farExponent < e + length then none
    else some (Float.ofScientific m (e < 0) e.natAbs)
  match x with
  | some x => if x.isInf then none else some (if minus then -x else x)
  | none => none

/-- A number with a point or an exponent. -/
def float? (cs : List Char) : Option Float :=
  let (minus, body) := match cs with
    | '+' :: rest => (false, rest)
    | '-' :: rest => (true, rest)
    | _ => (false, cs)
  let (whole, rest) := body.span Char.isDigit
  let (part, rest) := match rest with
    | '.' :: more => more.span Char.isDigit
    | _ => ([], rest)
  let m := (whole ++ part).foldl (fun n c => n * 10 + (c.toNat - '0'.toNat)) 0
  if whole.isEmpty && part.isEmpty then none
  else
    match rest with
    | [] => double? minus m (-(part.length : Int))
    | c :: ds =>
      if c == 'e' || c == 'E' then do double? minus m ((← exponent? ds) - part.length) else none

/-- A number that is not whole, for a remark. -/
def floatFound? (text : String) : Option Found :=
  let bare := match text.toList with
    | '+' :: rest => String.ofList rest
    | _ => text
  if [".inf", ".Inf", ".INF"].contains bare then some (.float "inf.0")
  else if ["-.inf", "-.Inf", "-.INF"].contains text then some (.float "-inf.0")
  else if [".nan", ".NaN", ".NAN"].contains text then some (.float "NaN.0")
  else (float? text.toList).map fun x => .float (Decimal.Shortest.ofFloat x).plain

/-- What a plain scalar is when nothing in particular is expected. -/
def plainFound (text : String) : Found :=
  if text.isEmpty || isNull text then .nothing "unit value"
  else
    match flag? text with
    | some b => .flag b
    | none =>
      let number? := integer? text.toList
        <|> (if hasNeedlessZero text.toList then none else floatFound? text)
      number?.getD (.text text)

/-! ## §2. Tags -/

/-- The tag of the format's own kinds. -/
def coreTag (name : String) : String := "tag:yaml.org,2002:" ++ name

/-- Remarks on a scalar where something else was expected; a tag of the format's own kinds has to fit
    the scalar first. -/
def scalarMisfit (tag? : Option String) (style : Style) (text expected : String) : Mismatch :=
  let fits (found? : Option Found) (kind : String) : Mismatch :=
    match found? with
    | some found => .invalidType found expected
    | none => .invalidValue (.text text) kind
  let plain : Mismatch := .invalidType (plainFound text) expected
  let asText : Mismatch := .invalidType (.text text) expected
  match tag? with
  | some tag =>
    if tag = coreTag "bool" then fits ((flag? text).map .flag) "a boolean"
    else if tag = coreTag "int" then fits (integer? text.toList) "an integer"
    else if tag = coreTag "float" then fits (floatFound? text) "a float"
    else if tag = coreTag "null" then
      fits (if isNull text then some (.nothing "unit value") else none) "null"
    else if tag.toList.head? == some '!' && style == .plain then plain
    else asText
  | none => if style == .plain then plain else asText

/-- The name of a choice that a tag gives. -/
def choiceOf? (tag? : Option String) : Option String :=
  match tag?.map String.toList with
  | some ['!'] => some "!"
  | some ('!' :: name) => some (String.ofList name)
  | _ => none

/-! ## §3. Reading -/

/-- A step through the events; the state is the number of the next one. -/
abbrev Reader := ReaderT (Array TaggedEvent) (StateT Nat (Except Trouble))

/-- The data does not fit, at a place still to be told. -/
def unfit (what : Mismatch) : Reader α := throw (.mismatch none what)

/-- Tells the place of what does not fit, unless it is told. -/
def at_ (place : String) (x : Reader α) : Reader α :=
  tryCatch x fun
    | .mismatch none what => throw (.mismatch (some place) what)
    | t => throw t

/-- The next event, which stays the next. -/
def look : Reader TaggedEvent := do
  match (← read)[← get]? with
  | some e => return e
  | none => throw .malformed

/-- Takes the next event. -/
def next : Reader TaggedEvent := do
  let e ← look
  modify (· + 1)
  return e

/-- Takes the next event; an alias is read at what it names. -/
def resolved (x : TaggedEvent → Reader α) : Reader α := do
  let e ← next
  match e.event with
  | .alias target =>
    let back ← get
    set target
    let result ← x (← next)
    set back
    return result
  | _ => x e

/-- Remarks on an event where something else was expected. -/
def misfit (e : TaggedEvent) (expected : String) : Reader α :=
  match e.event with
  | .scalar style text => unfit (scalarMisfit e.tag? style text expected)
  | .sequenceStart => unfit (.invalidType .sequence expected)
  | .mappingStart => unfit (.invalidType .map expected)
  | _ => throw .malformed

/-- A text: any scalar as it is spelled. -/
def readText (place expected : String) : Reader String :=
  resolved fun e => at_ place do
    match e.event with
    | .scalar _ text => return text
    | _ => misfit e expected

/-- Whether a scalar is read for its value: without quotes, or as lines with the tag of its kind. -/
def isBare (e : TaggedEvent) (style : Style) (kind : String) : Bool :=
  style == .plain || (style == .literal && e.tag? == some (coreTag kind))

/-- A truth value. -/
def readFlag (place : String) : Reader Bool :=
  resolved fun e => at_ place do
    match e.event with
    | .scalar style text =>
      match if isBare e style "bool" then flag? text else none with
      | some b => return b
      | none => misfit e "a boolean"
    | _ => misfit e "a boolean"

/-- A number from zero. -/
def readSize (place : String) : Reader Nat :=
  resolved fun e => at_ place do
    match e.event with
    | .scalar style text =>
      match if isBare e style "int" then natural? sizeBound text.toList else none with
      | some n => return n
      | none => misfit e "usize"
    | _ => misfit e "usize"

/-- Whether an event is a value that is not there. -/
def isAbsent (e : TaggedEvent) : Bool :=
  e.event == .scalar .plain ""

/-- The texts of a list that has begun; every round takes an event. -/
def readTextsFrom (place : String) : (fuel : Nat) → (index : Nat) → Reader (List String)
  | 0, _ => throw .malformed
  | fuel + 1, index => do
    if (← look).event == .sequenceEnd then
      modify (· + 1)
      return []
    else
      let text ← readText (place ++ "[" ++ toString index ++ "]") "a string"
      let more ← readTextsFrom place fuel (index + 1)
      return text :: more

/-- A list of texts; a value that is not there is the empty list. -/
def readTexts (place : String) : Reader (List String) := do
  let fuel := (← read).size + 1
  resolved fun e => at_ place do
    if e.event == .sequenceStart then readTextsFrom place fuel 0
    else if isAbsent e then return []
    else misfit e "a sequence"

/-- The content of a choice without one. -/
def readNothing (place : String) : Reader Unit :=
  resolved fun e => at_ place do
    match e.event with
    | .scalar style text =>
      if style == .plain && (text.isEmpty || isNull text) then return ()
      else unfit (.invalidValue (.text text) "null")
    | _ => misfit e "unit"

/-- The choice of a name. -/
def findVariant (variants : List (String × Variant σ)) (name : String) : Reader (Variant σ) :=
  match variants.lookup name with
  | some v => return v
  | none => unfit (.unknownVariant name (names variants))

/-- A choice by its tag, with its content, or by its name. -/
def readChoiceAt (place : String) (variants : List (String × Variant σ)) (s : σ) : Reader σ := do
  let e ← look
  match choiceOf? e.tag? with
  | some name =>
    match ← findVariant variants name with
    | .unit choose => readNothing place; return choose s
    | .text choose => return choose (← readText place "a string") s
  | none =>
    match e.event with
    | .scalar _ text =>
      modify (· + 1)
      at_ place do
        match ← findVariant variants text with
        | .unit choose => return choose s
        | .text _ => unfit (.invalidType .unitVariant "newtype variant")
    | .sequenceStart => at_ place (unfit (.invalidType .sequence tagTitle))
    | .mappingStart => at_ place (unfit (.invalidType .map tagTitle))
    | _ => throw .malformed
where
  /-- What a list or members would need to be a choice. -/
  tagTitle : String := "a YAML tag starting with '!'"

/-- One of several choices. -/
def readChoice (place : String) (variants : List (String × Variant σ)) (s : σ) : Reader σ := do
  match (← look).event with
  | .alias target =>
    let back := (← get) + 1
    set target
    let s ← readChoiceAt place variants s
    set back
    return s
  | _ => readChoiceAt place variants s

/-- The value of one field. -/
def readSlot (slot : Slot σ) (place : String) (s : σ) : Reader σ := do
  match slot with
  | .text put => return put (← readText place "a string") s
  | .flag put => return put (← readFlag place) s
  | .size put => return put (← readSize place) s
  | .texts put => return put (← readTexts place) s
  | .choice variants => readChoice place variants s

/-! ## §4. Groups -/

/-- The place of a member; a key that is no scalar has no name in it. -/
def memberPlace (place : String) (key : TaggedEvent) : String :=
  let name := match key.event with
    | .scalar _ text => text
    | _ => "?"
  if place.isEmpty then name else place ++ "." ++ name

/-- The members that have begun; every round takes an event. -/
def readMembers (place : String) (known : List String)
    (readField : String → String → σ → Reader σ) :
    (fuel : Nat) → (seen : List String) → σ → Reader σ
  | 0, _, _ => throw .malformed
  | fuel + 1, seen, s => do
    let key ← look
    if key.event == .mappingEnd then
      modify (· + 1)
      return s
    else
      let name ← readText place "field identifier"
      if !known.contains name then unfit (.unknownField name known)
      else if seen.contains name then unfit (.duplicateField name)
      else
        let s ← readField name (memberPlace place key) s
        readMembers place known readField fuel (name :: seen) s

/-- Members with known names; a value that is not there has none. -/
def readGroup (title : String) (known : List String) (readField : String → String → σ → Reader σ)
    (place : String) (s : σ) : Reader σ := do
  let fuel := (← read).size + 1
  resolved fun e => at_ place do
    if e.event == .mappingStart then readMembers place known readField fuel [] s
    else if isAbsent e then return s
    else misfit e title

/-- The value of a field by its name. -/
def readNamed (fields : Fields σ) (name place : String) (s : σ) : Reader σ :=
  match fields.lookup name with
  | some slot => readSlot slot place s
  | none => unfit (.unknownField name (names fields))

/-- One of the two groups of settings. -/
def readPart (name place : String) (s : Settings) : Reader Settings := do
  if name = "filter" then
    let filter ← readGroup filterTitle (names filterFields) (readNamed filterFields) place {}
    return { s with filter }
  else
    let render ← readGroup renderTitle (names renderFields) (readNamed renderFields) place {}
    return { s with render }

/-- The settings of a whole text. -/
def readSettings (text : String) : Except Trouble Settings := do
  let document := Document.first text
  if document.events.isEmpty && document.isWhole then return {}
  else
    let (s, _) ← ((readGroup settingsTitle groupNames readPart "" {}).run document.events).run 0
    if document.isWhole then return s else throw .malformed

end TestScaffold.SettingsFile.Yaml
