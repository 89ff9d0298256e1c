/-
  TestScaffold.Answer — how a line typed by a user is understood.

  Words are compared without surrounding white space and in small letters.  An
  answer that is not understood falls back, and a notice keeps what was typed.
-/
import TestScaffold.Text.Lower
import TestScaffold.Settings

namespace TestScaffold.Answer

/-- An answer as understood, with the remarks on it. -/
abbrev Understood (α : Type) := α × List Notice

/-- The form in which words are compared. -/
def normalize (input : String) : String :=
  Text.lower (Text.trim input)

/-- The framework; blank is `unittest`. -/
def framework (input : String) : Understood Framework :=
  match normalize input with
  | "" | "u" | "unittest" => (.unittest, [])
  | "p" | "pytest" => (.pytest, [])
  | other => (.unittest, [.unknownFramework other])

/-- Passing or failing tests; blank is passing. -/
def outcome (input : String) : Understood Outcome :=
  match normalize input with
  | "" | "p" | "pass" => (.pass, [])
  | "f" | "fail" => (.fail, [])
  | other => (.pass, [.unknownOutcome other])

/-- The docstring mode; blank is none. -/
def docstring (input : String) : Understood DocstringMode :=
  match normalize input with
  | "s" | "source" => (.source, [])
  | "e" | "empty" => (.empty, [])
  | "" | "n" | "none" => (.none, [])
  | other => (.none, [.unknownDocstring other])

/-- Where test modules go. -/
inductive Placement where
  /-- A folder of their own. -/
  | newFolder
  /-- The directory of the source module. -/
  | besideSource
  deriving DecidableEq, Repr

/-- The place of the tests; blank is a new folder. -/
def location (input : String) : Understood Placement :=
  match normalize input with
  | "" | "n" | "new" => (.newFolder, [])
  | "s" | "source" => (.besideSource, [])
  | other => (.newFolder, [.unknownLocation other])

/-- Yes or no; blank is the default. -/
def yesNo (input : String) (fallback : Bool) : Understood Bool :=
  match normalize input with
  | "" => (fallback, [])
  | "y" | "yes" => (true, [])
  | "n" | "no" => (false, [])
  | other => (fallback, [.notYesOrNo other fallback])

/-- The value of a run of decimal digits, read from the left onto `acc`; `none` if another
    character stands in it. -/
def digitsFrom (acc : Nat) : List Char → Option Nat
  | [] => some acc
  | c :: cs => if c.isDigit then digitsFrom (acc * 10 + (c.toNat - '0'.toNat)) cs else none

/-- A decimal number below `bound`: an optional `+` and at least one digit. -/
def decimal? (bound : Nat) (cs : List Char) : Option Nat :=
  let digits := match cs with
    | '+' :: rest => rest
    | _ => cs
  if digits.isEmpty then none
  else (digitsFrom 0 digits).filter (· < bound)

/-- One more than the largest indentation size. -/
def indentBound : Nat := Nat.pow 2 64

/-- A positive indentation size; blank is the default. -/
def indent (input : String) (fallback : Nat) : Understood Nat :=
  let text := Text.trim input
  if text.isEmpty then (fallback, [])
  else
    match (decimal? indentBound text.toList).filter (0 < ·) with
    | some n => (n, [])
    | none => (fallback, [.invalidIndent text fallback])

/-- The trimmed text, or the default if it is blank. -/
def text (input fallback : String) : String :=
  let t := Text.trim input
  if t.isEmpty then fallback else t

/-- The entries of a `;`-separated answer. -/
def list (input : String) : List String :=
  Text.splitList input

end TestScaffold.Answer
