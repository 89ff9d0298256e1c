/-
  TestScaffold.Text.Quoted — a text as it is shown inside a message.

  Quotes and backslashes get a backslash, the common control characters their
  letters, and characters that cannot be seen their number in braces.
-/
import TestScaffold.Text.HiddenTable
import TestScaffold.Text.Lower

namespace TestScaffold.Text

/-- Whether a character is shown by its number. -/
def isHidden (c : Char) : Bool :=
  c.toNat < 0x20 || inRanges hiddenRanges c.toNat

/-- One character inside quotes. -/
def quoteChar (c : Char) : List Char :=
  if c == Char.ofNat 0 then ['\\', '0']
  else if c == '\t' then ['\\', 't']
  else if c == '\r' then ['\\', 'r']
  else if c == '\n' then ['\\', 'n']
  else if c == '\\' then ['\\', '\\']
  else if c == '"' then ['\\', '"']
  else if isHidden c then "\\u\x7b".toList ++ Nat.toDigits 16 c.toNat ++ ['}']
  else [c]

/-- A text in double quotes. -/
def quote (s : String) : String :=
  String.ofList ('"' :: s.toList.flatMap quoteChar ++ ['"'])

end TestScaffold.Text
