/-
  TestScaffold.Proofs.Answer.Indentation — which answers are an indentation size.

  An answer is a number if it is written as one, with as many zeros in front as the user likes.
  It is a size if the number is not zero and fits into a word of 64 bits:

    * `Numeral` — how a number is written, its digits counted by their places;
    * `digitsFrom_eq_some_iff`, `decimal?_eq_some_iff` — what is read is what was written;
    * `wordFrom_eq` — a word is enough to read in, if every step is checked: the checks fail exactly
      for the numbers that do not fit, however many digits follow, and nothing wraps around;
    * `indent_exact` — a size, the default for a blank answer, or the default with a remark.
-/
import Mathlib.Data.Nat.Digits.Defs
import TestScaffold.Answer
import TestScaffold.Proofs.Text.Lists

namespace TestScaffold.Answer

/-! ## §1. Numerals -/

/-- The number that digits stand for, each counted by its place from the right. -/
def placeValue (digits : List Char) : Nat :=
  Nat.ofDigits 10 (digits.reverse.map fun c => c.toNat - '0'.toNat)

/-- How a number is written: at least one digit, perhaps after a plus sign. -/
inductive Numeral : List Char → Nat → Prop where
  /-- Digits alone. -/
  | plain {digits : List Char} (hne : digits ≠ []) (hdigits : ∀ c ∈ digits, c.isDigit = true) :
      Numeral digits (placeValue digits)
  /-- Digits after a plus sign. -/
  | plus {digits : List Char} (hne : digits ≠ []) (hdigits : ∀ c ∈ digits, c.isDigit = true) :
      Numeral ('+' :: digits) (placeValue digits)

/-- The first digit counts as many tens as digits follow it. -/
theorem placeValue_cons (c : Char) (digits : List Char) :
    placeValue (c :: digits) = (c.toNat - '0'.toNat) * 10 ^ digits.length + placeValue digits := by
  unfold placeValue
  rw [List.reverse_cons, List.map_append, List.map_singleton, Nat.ofDigits_append,
    Nat.ofDigits_singleton, List.length_map, List.length_reverse, Nat.mul_comm, Nat.add_comm]

/-! ## §2. Reading -/

/-- **Reading digits** one after the other gives the number that they stand for. -/
theorem digitsFrom_eq_some_iff {cs : List Char} {acc n : Nat} :
    digitsFrom acc cs = some n
      ↔ (∀ c ∈ cs, c.isDigit = true) ∧ acc * 10 ^ cs.length + placeValue cs = n := by
  induction cs generalizing acc with
  | nil => simp [digitsFrom, placeValue]
  | cons c cs ih =>
      rw [digitsFrom, List.forall_mem_cons, placeValue_cons]
      by_cases hc : c.isDigit = true
      · rw [if_pos hc, ih, List.length_cons, Nat.pow_succ]
        have hvalue : (acc * 10 + (c.toNat - '0'.toNat)) * 10 ^ cs.length + placeValue cs
            = acc * (10 ^ cs.length * 10)
              + ((c.toNat - '0'.toNat) * 10 ^ cs.length + placeValue cs) := by
          ring
        rw [hvalue]
        simp [hc]
      · rw [if_neg hc]
        simp [hc]

/-- The digits of a numeral: what stands after the plus sign, if there is one. -/
def unsigned : List Char → List Char
  | '+' :: digits => digits
  | cs => cs

theorem unsigned_cases (cs : List Char) :
    (∃ digits, cs = '+' :: digits ∧ unsigned cs = digits)
      ∨ ((∀ digits, cs ≠ '+' :: digits) ∧ unsigned cs = cs) := by
  unfold unsigned
  split
  · rename_i digits
    exact Or.inl ⟨digits, rfl, rfl⟩
  · rename_i hplus
    exact Or.inr ⟨hplus, rfl⟩

theorem decimal?_eq (bound : Nat) (cs : List Char) :
    decimal? bound cs
      = if (unsigned cs).isEmpty then none
        else (digitsFrom 0 (unsigned cs)).filter (· < bound) := by
  obtain ⟨digits, rfl, hself⟩ | ⟨hplus, hself⟩ := unsigned_cases cs
  · rw [hself]
    rfl
  · rw [hself, decimal?]
    exact hplus

theorem numeral_iff {cs : List Char} {n : Nat} :
    Numeral cs n
      ↔ unsigned cs ≠ [] ∧ (∀ c ∈ unsigned cs, c.isDigit = true) ∧ placeValue (unsigned cs) = n := by
  obtain ⟨digits, rfl, hself⟩ | ⟨hplus, hself⟩ := unsigned_cases cs
  · rw [hself]
    constructor
    · intro h
      cases h with
      | plain hne hdigits => exact absurd (hdigits '+' List.mem_cons_self) (by decide)
      | plus hne hdigits => exact ⟨hne, hdigits, rfl⟩
    · rintro ⟨hne, hdigits, rfl⟩
      exact .plus hne hdigits
  · rw [hself]
    constructor
    · intro h
      cases h with
      | plain hne hdigits => exact ⟨hne, hdigits, rfl⟩
      | plus hne hdigits => exact absurd rfl (hplus _)
    · rintro ⟨hne, hdigits, rfl⟩
      exact .plain hne hdigits

/-- **What is read are the numerals** of numbers below the bound. -/
theorem decimal?_eq_some_iff {bound n : Nat} {cs : List Char} :
    decimal? bound cs = some n ↔ Numeral cs n ∧ n < bound := by
  rw [decimal?_eq, numeral_iff]
  by_cases hempty : unsigned cs = []
  · simp [hempty]
  · rw [if_neg (by simpa using hempty), Option.filter_eq_some_iff, digitsFrom_eq_some_iff]
    simp [hempty]

/-! ## §3. Reading in a word -/

/-- One more digit in a word of 64 bits, checked with the means of the word alone: the product fits if
    the word is at most a tenth of the largest one, and the sum if it has not become smaller. -/
def pushDigit? (w digit : UInt64) : Option UInt64 :=
  if w ≤ UInt64.ofNat (indentBound - 1) / 10 ∧ w * 10 ≤ w * 10 + digit then
    some (w * 10 + digit)
  else none

/-- Digits read into a word from the left, until one does not fit. -/
def wordFrom (w : UInt64) : List Char → Option UInt64
  | [] => some w
  | c :: cs =>
    if c.isDigit then
      (pushDigit? w (UInt64.ofNat (c.toNat - '0'.toNat))).bind fun next => wordFrom next cs
    else none

/-- A number as it is read into a word. -/
def word? (cs : List Char) : Option UInt64 :=
  if (unsigned cs).isEmpty then none else wordFrom 0 (unsigned cs)

/-- **The checks of one digit fail** exactly if the number does not fit. -/
theorem pushDigit?_eq (w : UInt64) {digit : UInt64} (h : digit.toNat < 10) :
    (pushDigit? w digit).map UInt64.toNat
      = (some (w.toNat * 10 + digit.toNat)).filter (· < indentBound) := by
  have hw := w.toNat_lt
  have hbound : indentBound = 2 ^ 64 := rfl
  have htenth : (UInt64.ofNat (indentBound - 1) / 10).toNat = (2 ^ 64 - 1) / 10 := by decide
  have hten : (w * 10).toNat = w.toNat * 10 % 2 ^ 64 := UInt64.toNat_mul w 10
  have hsum : (w * 10 + digit).toNat = (w.toNat * 10 % 2 ^ 64 + digit.toNat) % 2 ^ 64 := by
    rw [UInt64.toNat_add, hten]
  have hchecks : (w ≤ UInt64.ofNat (indentBound - 1) / 10 ∧ w * 10 ≤ w * 10 + digit)
      ↔ w.toNat * 10 + digit.toNat < indentBound := by
    rw [UInt64.le_iff_toNat_le, UInt64.le_iff_toNat_le, htenth, hten, hsum, hbound]
    omega
  rw [pushDigit?, Option.filter_some]
  by_cases hfits : w.toNat * 10 + digit.toNat < indentBound
  · rw [if_pos (hchecks.mpr hfits), if_pos (decide_eq_true hfits), Option.map_some, hsum]
    rw [hbound] at hfits
    congr 1
    omega
  · rw [if_neg (mt hchecks.mp hfits), if_neg (by simpa using hfits), Option.map_none]

/-- What is read is not less than what was read before. -/
theorem le_of_digitsFrom {acc n : Nat} {cs : List Char} (h : digitsFrom acc cs = some n) : acc ≤ n := by
  obtain ⟨-, rfl⟩ := digitsFrom_eq_some_iff.mp h
  have hplace : acc ≤ acc * 10 ^ cs.length := Nat.le_mul_of_pos_right acc (Nat.pow_pos (by decide))
  omega

theorem toNat_digit {c : Char} (h : c.isDigit = true) :
    (UInt64.ofNat (c.toNat - '0'.toNat)).toNat = c.toNat - '0'.toNat
      ∧ c.toNat - '0'.toNat < 10 := by
  have hlt : c.toNat - 48 < 10 := by
    have hnine : c.toNat ≤ 57 := (Char.isDigit_iff_toNat.mp h).2
    omega
  exact ⟨UInt64.toNat_ofNat_of_lt' (Nat.lt_trans hlt (by decide)), hlt⟩

/-- **A word is enough to read in.**  A check that fails at some digit fails for the number, however
    many digits follow, and a number that passes all checks has not wrapped around. -/
theorem wordFrom_eq (w : UInt64) (cs : List Char) :
    (wordFrom w cs).map UInt64.toNat = (digitsFrom w.toNat cs).filter (· < indentBound) := by
  induction cs generalizing w with
  | nil =>
      have hw : w.toNat < indentBound := w.toNat_lt
      rw [wordFrom, digitsFrom, Option.filter_some, if_pos (decide_eq_true hw), Option.map_some]
  | cons c cs ih =>
      rw [wordFrom, digitsFrom]
      by_cases hc : c.isDigit = true
      · rw [if_pos hc, if_pos hc]
        obtain ⟨hdigit, hlt⟩ := toNat_digit hc
        have hpush := pushDigit?_eq w (hdigit ▸ hlt)
        rw [hdigit, Option.filter_some] at hpush
        by_cases hfits : w.toNat * 10 + (c.toNat - '0'.toNat) < indentBound
        · rw [if_pos (decide_eq_true hfits)] at hpush
          obtain ⟨next, hnext, hvalue⟩ := Option.map_eq_some_iff.mp hpush
          rw [hnext, Option.bind_some, ih, hvalue]
        · -- more digits do not make the number smaller
          rw [if_neg (by simpa using hfits), Option.map_eq_none_iff] at hpush
          rw [hpush, Option.bind_none, Option.map_none]
          refine (Option.filter_eq_none_iff.mpr fun n hn => ?_).symm
          have hle := le_of_digitsFrom hn
          simp only [decide_eq_true_eq]
          omega
      · rw [if_neg hc, if_neg hc]
        rfl

theorem word?_eq (cs : List Char) :
    (word? cs).map UInt64.toNat = decimal? indentBound cs := by
  rw [word?, decimal?_eq]
  split
  · rfl
  · exact wordFrom_eq 0 (unsigned cs)

/-! ## §4. Sizes -/

theorem isEmpty_trim (s : String) : (Text.trim s).isEmpty = Text.isBlankText s := by
  rw [Bool.eq_iff_iff, String.isEmpty_iff, ← String.toList_eq_nil_iff, Text.trim, String.toList_ofList,
    Text.trimChars_eq_nil_iff, Text.isBlankText, List.all_eq_true]

/-- **How an answer is understood**: as the default if it is blank, as its number if that is a size,
    and else as the default with a remark. -/
theorem indent_cases (s : String) (d : Nat) :
    (Text.isBlankText s = true ∧ indent s d = (d, []))
      ∨ (∃ n, Numeral (Text.trim s).toList n ∧ 0 < n ∧ n < indentBound ∧ indent s d = (n, []))
      ∨ (Text.isBlankText s = false
        ∧ (∀ n, Numeral (Text.trim s).toList n → n = 0 ∨ indentBound ≤ n)
        ∧ indent s d = (d, [.invalidIndent (Text.trim s) d])) := by
  unfold indent
  dsimp only
  rw [isEmpty_trim]
  cases hblank : Text.isBlankText s with
  | true => exact Or.inl ⟨rfl, rfl⟩
  | false =>
      refine Or.inr ?_
      rw [if_neg Bool.false_ne_true]
      cases hsize : (decimal? indentBound (Text.trim s).toList).filter (0 < ·) with
      | some n =>
          obtain ⟨hread, hpos⟩ := Option.filter_eq_some_iff.mp hsize
          obtain ⟨hnumeral, hlt⟩ := decimal?_eq_some_iff.mp hread
          exact Or.inl ⟨n, hnumeral, of_decide_eq_true hpos, hlt, rfl⟩
      | none =>
          refine Or.inr ⟨rfl, fun n hnumeral => ?_, rfl⟩
          -- a number between the two would have been read
          by_contra hsize'
          have hread := decimal?_eq_some_iff.mpr ⟨hnumeral, show n < indentBound by omega⟩
          have hzero := Option.filter_eq_none_iff.mp hsize n hread
          simp only [decide_eq_true_eq] at hzero
          omega

/-- A text is written for one number at most. -/
theorem Numeral.unique {cs : List Char} {m n : Nat} (hm : Numeral cs m) (hn : Numeral cs n) : m = n :=
  (numeral_iff.mp hm).2.2.symm.trans (numeral_iff.mp hn).2.2

/-- A blank answer is no number: nothing is left of it. -/
theorem not_blank_of_numeral {s : String} {n : Nat} (h : Numeral (Text.trim s).toList n) :
    Text.isBlankText s = false := by
  refine Bool.eq_false_iff.mpr fun hblank => ?_
  rw [← isEmpty_trim, String.isEmpty_iff, ← String.toList_eq_nil_iff] at hblank
  rw [hblank] at h
  exact (numeral_iff.mp h).1 rfl

/-- **Which answers are an indentation size.**  An answer is understood as a number, without a remark,
    exactly if it is written as that number, with a plus sign or without one and with any number of
    zeros in front, and the number lies between 1 and the largest word of 64 bits; or if it is
    blank, and the number is the default.  Every other answer gives the default, with one remark that
    repeats the trimmed answer.  So the size is positive if the default is.  The number can be read
    in a word of 64 bits, digit after digit, without being wrapped around. -/
theorem indent_exact (s : String) (d : Nat) :
    (∀ n, indent s d = (n, [])
        ↔ (Numeral (Text.trim s).toList n ∧ 1 ≤ n ∧ n ≤ 2 ^ 64 - 1)
          ∨ (Text.isBlankText s = true ∧ n = d))
      ∧ (Text.isBlankText s = false →
          (∀ n, Numeral (Text.trim s).toList n → n = 0 ∨ 2 ^ 64 ≤ n) →
          indent s d = (d, [.invalidIndent (Text.trim s) d]))
      ∧ (0 < d → 0 < (indent s d).1)
      ∧ (word? (Text.trim s).toList).map UInt64.toNat
        = decimal? indentBound (Text.trim s).toList := by
  have hbound : indentBound = 2 ^ 64 := rfl
  have hfits : ∀ n, n < indentBound ↔ n ≤ 2 ^ 64 - 1 := by
    intro n
    rw [hbound]
    omega
  refine ⟨?_, ?_, ?_, word?_eq _⟩
  · intro n
    obtain ⟨hblank, h⟩ | ⟨m, hnumeral, hpos, hlt, h⟩ | ⟨hblank, hnone, h⟩ := indent_cases s d <;> rw [h]
    · constructor
      · intro heq
        exact Or.inr ⟨hblank, (congrArg Prod.fst heq).symm⟩
      · rintro (⟨hnumeral, -⟩ | ⟨-, rfl⟩)
        · exact absurd hblank (Bool.eq_false_iff.mp (not_blank_of_numeral hnumeral))
        · rfl
    · constructor
      · intro heq
        obtain rfl : m = n := congrArg Prod.fst heq
        exact Or.inl ⟨hnumeral, hpos, (hfits m).mp hlt⟩
      · rintro (⟨hnumeral', -⟩ | ⟨hblank, -⟩)
        · rw [hnumeral.unique hnumeral']
        · exact absurd hblank (Bool.eq_false_iff.mp (not_blank_of_numeral hnumeral))
    · constructor
      · intro heq
        exact absurd (congrArg Prod.snd heq) (List.cons_ne_nil _ _)
      · rintro (⟨hnumeral, hpos, hle⟩ | ⟨hblank', -⟩)
        · have hlt := (hfits n).mpr hle
          have hout := hnone n hnumeral
          omega
        · exact absurd hblank' (Bool.eq_false_iff.mp hblank)
  · intro hblank hnone
    obtain ⟨hblank', -⟩ | ⟨m, hnumeral, hpos, hlt, -⟩ | ⟨-, -, h⟩ := indent_cases s d
    · exact absurd hblank' (Bool.eq_false_iff.mp hblank)
    · have hout := hnone m hnumeral
      omega
    · exact h
  · intro hd
    obtain ⟨-, h⟩ | ⟨m, -, hpos, -, h⟩ | ⟨-, -, h⟩ := indent_cases s d <;> rw [h]
    · exact hd
    · exact hpos
    · exact hd

/-- The largest size is still a size, after a plus sign and zeros; the number after it is none. -/
theorem indent_exact_limit :
    indent " +0018446744073709551615 " 2 = (18446744073709551615, [])
      ∧ indent "18446744073709551616" 2 = (2, [.invalidIndent "18446744073709551616" 2])
      ∧ 0 < (indent "18446744073709551616" 2).1 := by
  have hlargest : Numeral (Text.trim " +0018446744073709551615 ").toList 18446744073709551615 :=
    numeral_iff.mpr ⟨by decide, List.all_eq_true.mp (by decide), by decide⟩
  have hnext : Numeral (Text.trim "18446744073709551616").toList 18446744073709551616 :=
    numeral_iff.mpr ⟨by decide, List.all_eq_true.mp (by decide), by decide⟩
  obtain ⟨hsize, -, -, -⟩ := indent_exact " +0018446744073709551615 " 2
  obtain ⟨-, hrefused, hpositive, -⟩ := indent_exact "18446744073709551616" 2
  refine ⟨(hsize _).mpr (Or.inl ⟨hlargest, by decide, by decide⟩),
    hrefused (by decide) fun n hnumeral => Or.inr ?_, hpositive (by decide)⟩
  rw [hnumeral.unique hnext]
  decide

/-- Zero, a minus sign and a sign without digits are no sizes; a blank answer is the default. -/
example :
    ["0", "-3", "+", " "].map (fun s => indent s 4)
      = [(4, [.invalidIndent "0" 4]), (4, [.invalidIndent "-3" 4]), (4, [.invalidIndent "+" 4]),
        (4, [])] := by
  decide

end TestScaffold.Answer
