/-
  TestScaffold.Proofs.SettingsFile.Grammar — the values of JSON and the texts that spell them.

  A value has many texts: white space may stand around every element, a character of a
  string has up to three spellings, and members come in any order.

    * `Digits`, `Numeral` — numbers as they are written;
    * `Body`, `Quoted` — the texts of a string;
    * `Value` — what a text stands for; members are a list, so names may come twice;
    * `Written`, `Element`, `Member` — which texts stand for a value.
-/
import TestScaffold.SettingsFile.Json

namespace TestScaffold.SettingsFile.Json

/-! ## §1. Numbers -/

/-- At least one decimal digit. -/
structure Digits where
  /-- The digits. -/
  chars : List Char
  /-- They are digits. -/
  decimal : chars.all Char.isDigit = true
  /-- There is one. -/
  nonempty : chars ≠ []

/-- The exponent of a number. -/
structure Exponent where
  /-- Whether its mark is an upper case letter. -/
  upper : Bool
  /-- Its sign, if it has one; `true` is a minus. -/
  minus? : Option Bool
  /-- Its digits. -/
  digits : Digits

/-- The exponent as spelled. -/
def Exponent.chars (e : Exponent) : List Char :=
  (if e.upper then 'E' else 'e')
    :: ((match e.minus? with
      | none => []
      | some minus => [if minus then '-' else '+']) ++ e.digits.chars)

/-- A number as it is written. -/
structure Numeral where
  /-- Whether a minus stands in front. -/
  minus : Bool
  /-- The digits before the point. -/
  whole : Digits
  /-- A zero stands in front only of nothing. -/
  leading : whole.chars.head? = some '0' → whole.chars = ['0']
  /-- The digits after the point. -/
  fraction? : Option Digits
  /-- The exponent. -/
  exponent? : Option Exponent

namespace Numeral

/-- What stands behind the whole part. -/
def tail (n : Numeral) : List Char :=
  (match n.fraction? with
    | none => []
    | some ds => '.' :: ds.chars)
    ++ (match n.exponent? with
      | none => []
      | some e => e.chars)

/-- The number as spelled. -/
def chars (n : Numeral) : List Char :=
  (if n.minus then ['-'] else []) ++ (n.whole.chars ++ n.tail)

/-- The value of a number without sign, point and exponent. -/
def natural? (n : Numeral) : Option Nat :=
  match n.minus, n.fraction?, n.exponent? with
  | false, none, none => some (Nat.ofDigitChars 10 n.whole.chars 0)
  | _, _, _ => none

end Numeral

/-- No natural number but zero is written with a zero in front. -/
theorem toDigits_leading (n : Nat) :
    (Nat.toDigits 10 n).head? = some '0' → Nat.toDigits 10 n = ['0'] := by
  intro hzero
  by_cases hn : n < 10
  · rw [Nat.toDigits_of_lt_base hn] at hzero ⊢
    exact congrArg (· :: []) (Option.some.inj hzero)
  · obtain ⟨d, ds, hcons⟩ :=
      List.exists_cons_of_ne_nil (Nat.toDigits_ne_nil (b := 10) (n := n / 10))
    rw [Nat.toDigits_of_base_le (by decide) (by omega), hcons] at hzero
    have hsmall := toDigits_leading (n / 10) (by rw [hcons]; exact hzero)
    have hvalue := congrArg (Nat.ofDigitChars 10 · 0) hsmall
    rw [Nat.ofDigitChars_ten_toDigits] at hvalue
    have hnone : n / 10 = 0 := hvalue
    omega

/-- A natural number as it is written. -/
def Numeral.ofNat (n : Nat) : Numeral where
  minus := false
  whole :=
    { chars := Nat.toDigits 10 n
      decimal := List.all_eq_true.mpr fun _ hc =>
        Nat.isDigit_of_mem_toDigits (by decide) (by decide) hc
      nonempty := Nat.toDigits_ne_nil }
  leading := toDigits_leading n
  fraction? := none
  exponent? := none

@[simp] theorem Numeral.natural?_ofNat (n : Nat) : (Numeral.ofNat n).natural? = some n :=
  congrArg some Nat.ofDigitChars_ten_toDigits

/-! ## §2. Strings -/

/-- Characters with a spelling of their own, by the letter of it. -/
def shortEscapes : List (Char × Char) :=
  [('"', '"'), ('\\', '\\'), ('/', '/'), ('b', '\x08'), ('f', '\x0c'), ('n', '\n'), ('r', '\r'),
    ('t', '\t')]

/-- A hexadecimal digit in one of its cases. -/
def hexDigit (upper : Bool) (digit : Nat) : Char :=
  if upper then (Nat.digitChar digit).toUpper else Nat.digitChar digit

/-- Four hexadecimal digits, each in one of its cases. -/
def hexUnit (a b c d : Bool) (n : Nat) : List Char :=
  [hexDigit a (n / 0x1000), hexDigit b (n / 0x100 % 0x10), hexDigit c (n / 0x10 % 0x10),
    hexDigit d (n % 0x10)]

/-- The first of the two units of a character. -/
def highUnit (c : Char) : Nat := 0xD800 + (c.toNat - 0x10000) / 0x400

/-- The second of the two units. -/
def lowUnit (c : Char) : Nat := 0xDC00 + (c.toNat - 0x10000) % 0x400

/-- The characters of a string, and a text for them. -/
inductive Body : List Char → List Char → Prop where
  /-- There are none. -/
  | nil : Body [] []
  /-- A character stands for itself. -/
  | plain {c : Char} {cs ds : List Char} : 0x20 ≤ c.toNat → c ≠ '"' → c ≠ '\\' → Body cs ds →
      Body (c :: cs) (c :: ds)
  /-- A character with a spelling of its own. -/
  | short {mark c : Char} {cs ds : List Char} : (mark, c) ∈ shortEscapes → Body cs ds →
      Body (c :: cs) ('\\' :: mark :: ds)
  /-- A character of one unit by its number. -/
  | unit (p q r s : Bool) {c : Char} {cs ds : List Char} : c.toNat < 0x10000 → Body cs ds →
      Body (c :: cs) ('\\' :: 'u' :: (hexUnit p q r s c.toNat ++ ds))
  /-- A character of two units by their numbers. -/
  | pair (p q r s p' q' r' s' : Bool) {c : Char} {cs ds : List Char} : 0x10000 ≤ c.toNat →
      Body cs ds →
      Body (c :: cs)
        ('\\' :: 'u' :: (hexUnit p q r s (highUnit c)
          ++ '\\' :: 'u' :: (hexUnit p' q' r' s' (lowUnit c) ++ ds)))

/-- A string, and a text for it. -/
def Quoted (text : String) (cs : List Char) : Prop :=
  ∃ body, Body text.toList body ∧ cs = '"' :: (body ++ ['"'])

/-- Characters that stand for themselves: no quotes, backslashes or controls. -/
def isPlain (c : Char) : Bool :=
  decide (0x20 ≤ c.toNat) && c != '"' && c != '\\'

/-- A string of such characters stands for itself. -/
theorem quoted_plain {text : String} (h : text.toList.all isPlain = true) :
    Quoted text ('"' :: (text.toList ++ ['"'])) := by
  refine ⟨text.toList, ?_, rfl⟩
  generalize text.toList = cs at h
  induction cs with
  | nil => exact .nil
  | cons c cs ih =>
      rw [List.all_cons, Bool.and_eq_true] at h
      have hc : (0x20 ≤ c.toNat ∧ c ≠ '"') ∧ c ≠ '\\' := by simpa [isPlain] using h.1
      exact .plain hc.1.1 hc.1.2 hc.2 (ih h.2)

/-! ## §3. Values -/

/-- What a text stands for. -/
inductive Value where
  /-- No value. -/
  | null
  /-- A truth value. -/
  | flag (value : Bool)
  /-- A number. -/
  | number (n : Numeral)
  /-- A string. -/
  | text (value : String)
  /-- A list of values. -/
  | array (elements : List Value)
  /-- A list of names with values. -/
  | object (members : List (String × Value))

/-- Only white space. -/
def White (cs : List Char) : Prop := ∀ c ∈ cs, isSpace c = true

theorem white_nil : White [] := by
  simp [White]

mutual

/-- The text stands for the value, with no white space around. -/
inductive Written : Value → List Char → Prop where
  /-- The word for no value. -/
  | null : Written .null "null".toList
  /-- The words for truth values. -/
  | flag (value : Bool) : Written (.flag value) (if value then "true" else "false").toList
  /-- A number. -/
  | number (n : Numeral) : Written (.number n) n.chars
  /-- A string. -/
  | text {value : String} {cs : List Char} : Quoted value cs → Written (.text value) cs
  /-- No elements. -/
  | emptyArray {space : List Char} : White space → Written (.array []) ('[' :: (space ++ [']']))
  /-- Elements with commas between them. -/
  | array {elements : List (Value × List Char)} : elements ≠ [] →
      (∀ e ∈ elements, Element e.1 e.2) →
      Written (.array (elements.map (·.1)))
        ('[' :: ([','].intercalate (elements.map (·.2)) ++ [']']))
  /-- No members. -/
  | emptyObject {space : List Char} : White space →
      Written (.object []) ('\x7b' :: (space ++ ['\x7d']))
  /-- Members with commas between them. -/
  | object {members : List ((String × Value) × List Char)} : members ≠ [] →
      (∀ m ∈ members, Member m.1 m.2) →
      Written (.object (members.map (·.1)))
        ('\x7b' :: ([','].intercalate (members.map (·.2)) ++ ['\x7d']))

/-- The text stands for the value. -/
inductive Element : Value → List Char → Prop where
  /-- White space may stand around. -/
  | mk {v : Value} {before cs after : List Char} : White before → Written v cs → White after →
      Element v (before ++ (cs ++ after))

/-- The text stands for the name and its value. -/
inductive Member : String × Value → List Char → Prop where
  /-- A colon stands between them. -/
  | mk {name : String} {v : Value} {before cs after ds : List Char} : White before →
      Quoted name cs → White after → Element v ds →
      Member (name, v) (before ++ (cs ++ (after ++ ':' :: ds)))

end

/-- Such a name and a value, with only the colon between them. -/
theorem member_plain {name : String} (h : name.toList.all isPlain = true) {v : Value}
    {cs : List Char} (hv : Written v cs) :
    Member (name, v) ('"' :: (name.toList ++ '"' :: ':' :: cs)) := by
  simpa using Member.mk white_nil (quoted_plain h) white_nil (Element.mk white_nil hv white_nil)

end TestScaffold.SettingsFile.Json
