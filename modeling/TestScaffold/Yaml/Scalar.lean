/-
  TestScaffold.Yaml.Scalar — the texts of scalars.

    * `quoted` — in single or double quotes, with escapes in double ones;
    * `plain` — without quotes;
    * `block` — indented lines after `|` or `>`.

  Every function returns the text and the place after it, or nothing if the scalar
  is malformed.
-/
import TestScaffold.Yaml.Place

namespace TestScaffold.Yaml

/-! ## §1. Quoted scalars -/

/-- The value of a hexadecimal digit. -/
def hexDigit? (c : Char) : Option Nat :=
  if c.isDigit then some (c.toNat - '0'.toNat)
  else if 'a' ≤ c ∧ c ≤ 'f' then some (c.toNat - 'a'.toNat + 10)
  else if 'A' ≤ c ∧ c ≤ 'F' then some (c.toNat - 'A'.toNat + 10)
  else none

/-- The character that a number names. -/
def charOf? (n : Nat) : Option Char :=
  if n ≤ 0xD7FF || (0xE000 ≤ n && n ≤ 0x10FFFF) then some (Char.ofNat n) else none

/-- The number of the first `count` hexadecimal digits. -/
def hexNumber? : (count : Nat) → (acc : Nat) → List Char → Option Nat
  | 0, acc, _ => some acc
  | count + 1, acc, c :: cs =>
    match hexDigit? c with
    | some d => hexNumber? count (acc * 16 + d) cs
    | none => none
  | _ + 1, _, [] => none

/-- Escapes of one letter. -/
def letterEscape? : Char → Option Nat
  | '0' => some 0
  | 'a' => some 7
  | 'b' => some 8
  | 't' => some 9
  | '\t' => some 9
  | 'n' => some 10
  | 'v' => some 11
  | 'f' => some 12
  | 'r' => some 13
  | 'e' => some 27
  | ' ' => some 32
  | '"' => some 34
  | '/' => some 47
  | '\\' => some 92
  | 'N' => some 0x85
  | '_' => some 0xA0
  | 'L' => some 0x2028
  | 'P' => some 0x2029
  | _ => none

/-- How many digits follow an escape by number. -/
def hexLength? : Char → Option Nat
  | 'x' => some 2
  | 'u' => some 4
  | 'U' => some 8
  | _ => none

/-- The character of an escape, and the number of characters after the backslash. -/
def escape? : List Char → Option (Char × Nat)
  | [] => none
  | c :: rest =>
    match letterEscape? c, hexLength? c with
    | some n, _ => some (Char.ofNat n, 1)
    | none, some count => do
      let n ← hexNumber? count 0 rest
      return (← charOf? n, count + 1)
    | none, none => none

/-- The characters of a quoted scalar up to a gap, its end, or an escaped line break.  The last part
    says whether a line break was escaped. -/
def quotedWord (single : Bool) : (fuel : Nat) → List Char → Place →
    Option (List Char × Place × Bool)
  | 0, acc, p => some (acc, p, false)
  | fuel + 1, acc, p =>
    if atGap p.rest then some (acc, p, false)
    else
      match p.rest with
      | '\'' :: '\'' :: _ =>
        if single then quotedWord single fuel (acc ++ ['\'']) (p.skipMany 2)
        else quotedWord single fuel (acc ++ ['\'']) p.skip
      | '\\' :: rest =>
        if single then quotedWord single fuel (acc ++ ['\\']) p.skip
        else
          match p.skip.lineBreak? with
          | some (_, next) => some (acc, next, true)
          | none =>
            match escape? rest with
            | some (c, count) => quotedWord single fuel (acc ++ [c]) (p.skipMany (count + 1))
            | none => none
      | c :: _ =>
        if c == (if single then '\'' else '"') then some (acc, p, false)
        else quotedWord single fuel (acc ++ [c]) p.skip
      | [] => some (acc, p, false)

/-- The words of a quoted scalar. -/
def quotedFrom (single : Bool) : (fuel : Nat) → List Char → Place → Option (List Char × Place)
  | 0, _, _ => none
  | fuel + 1, acc, p =>
    if p.atDocumentMark || p.rest.isEmpty then none
    else do
      let (acc, p, escaped) ← quotedWord single (p.rest.length + 1) acc p
      if p.rest.head? == some (if single then '\'' else '"') then return (acc, p.skip)
      else
        let (blanks, p) ← Blanks.take (fun _ _ => false) (p.rest.length + 1) { broken := escaped } p
        quotedFrom single fuel (acc ++ blanks.folded) p

/-- A quoted scalar from its opening quote on. -/
def quoted (single : Bool) (p : Place) : Option (List Char × Place) :=
  quotedFrom single (p.rest.length + 1) [] p.skip

/-! ## §2. Plain scalars -/

/-- One word of a plain scalar; nothing if a colon stands before a bracket or comma. -/
def plainWord (flow : Bool) : (fuel : Nat) → List Char → Place → Option (List Char × Place)
  | 0, acc, p => some (acc, p)
  | fuel + 1, acc, p =>
    if atGap p.rest then some (acc, p)
    else
      match p.rest with
      | ':' :: rest =>
        if flow && (rest.head?.any fun c => isFlowMark c || c == '?') then none
        else if atGap rest then some (acc, p)
        else plainWord flow fuel (acc ++ [':']) p.skip
      | c :: _ =>
        if flow && isFlowMark c then some (acc, p) else plainWord flow fuel (acc ++ [c]) p.skip
      | [] => some (acc, p)

/-- A plain scalar: its text, whether a line break follows it, and the place after it. -/
structure Plain where
  /-- The text. -/
  text : List Char
  /-- Whether a line break follows. -/
  broken : Bool
  /-- The place after it. -/
  place : Place

/-- The words of a plain scalar; `blanks` stands before the next one. -/
def plainFrom (flow : Bool) (indent : Int) : (fuel : Nat) → (acc : List Char) → Blanks → Place →
    Option Plain
  | 0, acc, blanks, p => some ⟨acc, blanks.broken, p⟩
  | fuel + 1, acc, blanks, p =>
    if p.atDocumentMark || p.rest.head? == some '#' then some ⟨acc, blanks.broken, p⟩
    else do
      let (word, q) ← plainWord flow (p.rest.length + 1) [] p
      let (acc, blanks) :=
        if word.isEmpty then (acc, blanks) else (acc ++ blanks.folded ++ word, {})
      if !q.rest.isEmpty && atGap q.rest then
        let tabFault := fun (broken : Bool) (p : Place) => broken && (p.column : Int) < indent
        let (blanks, q) ← Blanks.take tabFault (q.rest.length + 1) blanks q
        if !flow && (q.column : Int) < indent then some ⟨acc, blanks.broken, q⟩
        else plainFrom flow indent fuel acc blanks q
      else some ⟨acc, blanks.broken, q⟩

/-- A plain scalar inside a block of the given indentation. -/
def plain (flow : Bool) (indent : Int) (p : Place) : Option Plain :=
  plainFrom flow (indent + 1) (p.rest.length + 1) [] {} p

/-! ## §3. Block scalars -/

/-- What becomes of the line breaks at the end of a block scalar. -/
inductive Chomping where
  /-- None is kept. -/
  | strip
  /-- One is kept. -/
  | clip
  /-- All are kept. -/
  | keep
  deriving DecidableEq, Repr

/-- The chomping that a sign asks for. -/
def chomping? : Char → Option Chomping
  | '+' => some .keep
  | '-' => some .strip
  | _ => none

/-- The head of a block scalar: chomping and indentation, in either order. -/
def blockHead (p : Place) : Option (Chomping × Option Nat × Place) :=
  let digit (p : Place) : Option (Option Nat × Place) :=
    match p.rest with
    | c :: _ =>
      if c == '0' then none
      else if c.isDigit then some (some (c.toNat - '0'.toNat), p.skip)
      else some (none, p)
    | [] => some (none, p)
  match p.rest.head?.bind chomping? with
  | some sign => do
    let (width, p) ← digit p.skip
    return (sign, width, p)
  | none => do
    let (width, p) ← digit p
    match width, p.rest.head?.bind chomping? with
    | some _, some sign => return (sign, width, p.skip)
    | _, _ => return (.clip, width, p)

/-- Line breaks and indentation between the lines of a block scalar.  With no width known yet, `0`,
    the deepest indentation is remembered. -/
def blockGap (width : Nat) : (fuel : Nat) → (deepest : Nat) → List Char → Place →
    Option (Nat × List Char × Place)
  | 0, _, _, _ => none
  | fuel + 1, deepest, breaks, p =>
    let spaces := (p.rest.takeWhile (· == ' ')).length
    let p := p.skipMany (if width == 0 then spaces else min spaces (width - p.column))
    let deepest := max deepest p.column
    if (width == 0 || p.column < width) && p.rest.head? == some '\t' then none
    else
      match p.lineBreak? with
      | some (c, next) => blockGap width fuel deepest (breaks ++ [c]) next
      | none => some (deepest, breaks, p)

/-- The lines of a block scalar. -/
def blockLines (literal : Bool) (width : Nat) : (fuel : Nat) → (acc : List Char) →
    (last : List Char) → (lastBlank : Bool) → (breaks : List Char) → Place →
    Option (List Char × List Char × List Char × Place)
  | 0, _, _, _, _, _ => none
  | fuel + 1, acc, last, lastBlank, breaks, p =>
    if p.column == width && !p.rest.isEmpty then
      let blank := p.rest.head?.any isBlank
      let joint :=
        if !literal && last.head? == some '\n' && !lastBlank && !blank then
          if breaks.isEmpty then [' '] else []
        else last
      let (line, p) := p.takeWhile fun c => !isBreak c
      let (last, p) := match p.lineBreak? with
        | some (c, next) => ([c], next)
        | none => ([], p)
      do
        let (_, more, p) ← blockGap width (p.rest.length + 1) 0 [] p
        blockLines literal width fuel (acc ++ joint ++ breaks ++ line) last blank more p
    else some (acc, last, breaks, p)

/-- A block scalar from its indicator on, inside a block of the given indentation. -/
def block (literal : Bool) (indent : Int) (p : Place) : Option (List Char × Place) := do
  let (sign, width?, p) ← blockHead p.skip
  let p := p.skipWhile isBlank
  let p := if p.rest.head? == some '#' then p.skipWhile fun c => !isBreak c else p
  if !atBreak p.rest then none
  else
    let p := match p.lineBreak? with
      | some (_, next) => next
      | none => p
    let outer := indent.toNat
    let given := match width? with
      | some w => outer + w
      | none => 0
    let (deepest, breaks, p) ← blockGap given (p.rest.length + 1) 0 [] p
    let width := if given == 0 then max (max deepest (indent + 1).toNat) 1 else given
    let (text, last, breaks, p) ← blockLines literal width (p.rest.length + 2) [] [] false breaks p
    match sign with
    | .strip => return (text, p)
    | .clip => return (text ++ last, p)
    | .keep => return (text ++ last ++ breaks, p)

end TestScaffold.Yaml
