/-
  TestScaffold.Proofs.Text.ByteString — the bytes of texts, and the reading of bytes as a text.

    * `utf8_append`, `utf8_eq` — the bytes of a text, character by character;
    * `ByteString.text_ofText`, `ByteString.ofText_injective` — the bytes of a text are read as that text;
    * `utf8_split`, `ByteString.isText_of_append` — a byte below 128 cuts a text into two texts;
    * `ByteString.readFrom_ascii` — a byte below 128 is read as itself, whatever stands around it;
    * `ByteString.readBytes_intercalate` — a path is read segment by segment;
    * `ByteString.slash_mem_of_readFrom` — only a slash is read as one.
-/
import Mathlib.Algebra.Ring.Nat
import Mathlib.Data.List.Basic
import Mathlib.Tactic.SplitIfs
import TestScaffold.Text.ByteString
import TestScaffold.Proofs.Text.Split

namespace TestScaffold

@[simp] theorem dot_ne_slash : dot ≠ slash := by
  decide

@[simp] theorem slash_ne_dot : slash ≠ dot := by
  decide

/-! ## §1. The bytes of a text -/

theorem utf8_append (s t : String) : utf8 (s ++ t) = utf8 s ++ utf8 t := by
  simp only [utf8, String.toUTF8, String.toByteArray_append, ByteArray.data_append,
    Array.toList_append]

theorem utf8_eq (s : String) : utf8 s = s.toList.flatMap String.utf8EncodeChar := by
  rw [utf8, String.toUTF8, ← String.utf8Encode_toList, List.utf8Encode, List.data_toByteArray]

/-- A byte below 128 is the whole of a character. -/
theorem eq_of_ascii_mem {a : UInt8} (ha : a < 0x80) {c : Char} (h : a ∈ String.utf8EncodeChar c) :
    c = Char.ofNat a.toNat ∧ String.utf8EncodeChar c = [a] := by
  have hsmall : a.toNat < 128 := by
    rw [UInt8.lt_iff_toNat_lt] at ha
    exact ha
  -- the bytes of every other character are large
  have hlarge : ∀ n, a = UInt8.ofNat n → 128 ≤ n → n < 256 → False := by
    rintro n rfl hleast hlt
    rw [UInt8.toNat_ofNat_of_lt' hlt] at hsmall
    omega
  unfold String.utf8EncodeChar at h ⊢
  dsimp only at h ⊢
  split_ifs at h ⊢ with hone htwo hthree
  · have hlt : c.val.toNat < 256 := by omega
    obtain rfl := List.mem_singleton.mp h
    rw [UInt8.toNat_ofNat_of_lt' hlt]
    exact ⟨(Char.ofNat_toNat c).symm, rfl⟩
  · simp only [List.mem_cons, List.not_mem_nil, or_false] at h
    rcases h with h | h <;> exact (hlarge _ h (by omega) (by omega)).elim
  · simp only [List.mem_cons, List.not_mem_nil, or_false] at h
    rcases h with h | h | h <;> exact (hlarge _ h (by omega) (by omega)).elim
  · simp only [List.mem_cons, List.not_mem_nil, or_false] at h
    rcases h with h | h | h | h <;> exact (hlarge _ h (by omega) (by omega)).elim

/-- **A byte below 128 cuts a text into two.** -/
theorem utf8_split {a : UInt8} (ha : a < 0x80) {s : String} {xs ys : List UInt8}
    (h : utf8 s = xs ++ a :: ys) :
    ∃ before after : String, s.toList = before.toList ++ Char.ofNat a.toNat :: after.toList
      ∧ utf8 before = xs ∧ utf8 after = ys := by
  rw [utf8_eq] at h
  generalize s.toList = cs at h
  induction cs generalizing xs with
  | nil => simp at h
  | cons c cs ih =>
      rw [List.flatMap_cons] at h
      rcases List.append_eq_append_iff.mp h with ⟨more, hxs, hrest⟩ | ⟨more, hc, hrest⟩
      · -- the byte stands behind the first character
        obtain ⟨before, after, hcs, hbefore, hafter⟩ := ih hrest
        refine ⟨String.ofList (c :: before.toList), after, ?_, ?_, hafter⟩
        · rw [String.toList_ofList, hcs, List.cons_append]
        · rw [utf8_eq, String.toList_ofList, List.flatMap_cons, ← utf8_eq, hbefore, hxs]
      · cases more with
        | nil =>
            rw [List.append_nil] at hc
            obtain ⟨before, after, hcs, hbefore, hafter⟩ :=
              ih (show cs.flatMap String.utf8EncodeChar = [] ++ a :: ys from hrest.symm)
            refine ⟨String.ofList (c :: before.toList), after, ?_, ?_, hafter⟩
            · rw [String.toList_ofList, hcs, List.cons_append]
            · rw [utf8_eq, String.toList_ofList, List.flatMap_cons, ← utf8_eq, hbefore, hc, List.append_nil]
        | cons b more =>
            -- it is the first character
            obtain ⟨rfl, hys⟩ := List.cons.inj hrest
            obtain ⟨hchar, hbytes⟩ := eq_of_ascii_mem ha (c := c) (hc ▸ by simp)
            obtain ⟨rfl, rfl⟩ : xs = [] ∧ more = [] := by
              have hlen := congrArg List.length (hbytes.symm.trans hc)
              simp only [List.length_append, List.length_cons, List.length_nil] at hlen
              exact ⟨List.eq_nil_of_length_eq_zero (by omega), List.eq_nil_of_length_eq_zero (by omega)⟩
            refine ⟨"", String.ofList cs, ?_, rfl, ?_⟩
            · rw [hchar]
              simp
            · rw [utf8_eq, String.toList_ofList]
              exact hys.symm

namespace ByteString

/-! ## §2. Strings of bytes -/

theorem toList_inj {a b : ByteString} : a.toList = b.toList ↔ a = b :=
  ⟨fun h => by cases a; cases b; cases h; rfl, fun h => h ▸ rfl⟩

@[simp] theorem toList_ofList (bs : List UInt8) : (ofList bs).toList = bs := rfl

@[simp] theorem ofList_toList (b : ByteString) : ofList b.toList = b := rfl

@[simp] theorem toList_append (a b : ByteString) : (a ++ b).toList = a.toList ++ b.toList := rfl

@[simp] theorem toList_empty : (ofText "").toList = [] := rfl

@[simp] theorem toList_dot : (ofText ".").toList = [dot] := rfl

@[simp] theorem toList_dots : (ofText "..").toList = [dot, dot] := rfl

@[simp] theorem toList_slash : (ofText "/").toList = [slash] := rfl

theorem size_append (a b : ByteString) : (a ++ b).size = a.size + b.size :=
  List.length_append

theorem ofText_append (s t : String) : ofText (s ++ t) = ofText s ++ ofText t :=
  toList_inj.mp (utf8_append s t)

@[simp] theorem isEmpty_iff {b : ByteString} : b.isEmpty = true ↔ b = "" := by
  rw [isEmpty, List.isEmpty_iff, ← toList_inj, toList_empty]

@[simp] theorem isEmpty_eq_false_iff {b : ByteString} : b.isEmpty = false ↔ b ≠ "" := by
  rw [← Bool.not_eq_true, isEmpty_iff]

theorem lt_irrefl (a : ByteString) : ¬ a < a :=
  List.lt_irrefl a.toList

theorem lt_trans {a b c : ByteString} (h : a < b) (h' : b < c) : a < c :=
  List.lt_trans h h'

theorem eq_of_not_lt {a b : ByteString} (h : ¬ a < b) (h' : ¬ b < a) : a = b :=
  toList_inj.mp (List.le_antisymm h' h)

/-! ## §3. Reading -/

/-- The last byte of a character completes it. -/
theorem readFrom_last {p : Pending} (hmore : p.more = 0) {n : Nat} (hn : n < 256)
    (hleast : p.least.toNat ≤ n) (hgreatest : n ≤ p.greatest.toNat) (bs : List UInt8) :
    readFrom (some p) (UInt8.ofNat n :: bs)
      = Char.ofNat (p.value * 64 + n % 64) :: readFrom none bs := by
  have hb : (UInt8.ofNat n).toNat = n := UInt8.toNat_ofNat_of_lt' hn
  have hrange : p.least ≤ UInt8.ofNat n ∧ UInt8.ofNat n ≤ p.greatest := by
    rw [UInt8.le_iff_toNat_le, UInt8.le_iff_toNat_le, hb]
    exact ⟨hleast, hgreatest⟩
  simp only [readFrom, readByte, if_pos hrange, hmore, hb, List.cons_append, List.nil_append]

/-- Another byte brings a character further. -/
theorem readFrom_next {p : Pending} {more : Nat} (hmore : p.more = more + 1) {n : Nat} (hn : n < 256)
    (hleast : p.least.toNat ≤ n) (hgreatest : n ≤ p.greatest.toNat) (bs : List UInt8) :
    readFrom (some p) (UInt8.ofNat n :: bs)
      = readFrom (some ⟨more, 0x80, 0xBF, p.value * 64 + n % 64, by decide⟩) bs := by
  have hb : (UInt8.ofNat n).toNat = n := UInt8.toNat_ofNat_of_lt' hn
  have hrange : p.least ≤ UInt8.ofNat n ∧ UInt8.ofNat n ≤ p.greatest := by
    rw [UInt8.le_iff_toNat_le, UInt8.le_iff_toNat_le, hb]
    exact ⟨hleast, hgreatest⟩
  simp only [readFrom, readByte, if_pos hrange, hmore, hb, List.nil_append]

theorem readFrom_start {b : UInt8} {p : Pending} (h : start b = ([], some p)) (bs : List UInt8) :
    readFrom none (b :: bs) = readFrom (some p) bs := by
  simp only [readFrom, readByte, h, List.nil_append]

theorem start_one : ∀ n < 0x80, start (UInt8.ofNat n) = ([Char.ofNat n], none) := by
  decide

theorem start_two : ∀ n < 32, 2 ≤ n →
    start (UInt8.ofNat (n + 0xC0)) = ([], some ⟨0, 0x80, 0xBF, n, by decide⟩) := by
  decide

/-- The first byte of three excludes shorter characters and the surrogates. -/
theorem start_three : ∀ n < 16, start (UInt8.ofNat (n + 0xE0))
    = ([], some ⟨1, if n = 0 then 0xA0 else 0x80, if n = 13 then 0x9F else 0xBF, n,
        by split <;> decide⟩) := by
  decide

/-- The first byte of four excludes shorter characters and what is too great for one. -/
theorem start_four : ∀ n < 5, start (UInt8.ofNat (n + 0xF0))
    = ([], some ⟨2, if n = 0 then 0x90 else 0x80, if n = 4 then 0x8F else 0xBF, n,
        by split <;> decide⟩) := by
  decide

/-- **The bytes of a character** are read as that character. -/
theorem readFrom_char (c : Char) (bs : List UInt8) :
    readFrom none (String.utf8EncodeChar c ++ bs) = c :: readFrom none bs := by
  have hvalid := c.valid
  simp only [UInt32.isValidChar, Nat.isValidChar] at hvalid
  have hc : Char.ofNat c.val.toNat = c := Char.ofNat_toNat c
  unfold String.utf8EncodeChar
  dsimp only
  generalize c.val.toNat = n at hvalid hc
  -- by the number of bytes; each takes six bits more, and the first fixes the range of the second
  split_ifs with hone htwo hthree
  · rw [List.singleton_append, readFrom, readByte, start_one n (by omega), hc]
    rfl
  · have hvalue : n / 64 % 32 * 64 + (n % 64 + 128) % 64 = n := by omega
    rw [List.cons_append, List.singleton_append, readFrom_start (start_two _ (by omega) (by omega)),
      readFrom_last rfl (by omega) (by simp) (by simp; omega)]
    simp only [hvalue, hc]
  · have hsecond : (if n / 4096 % 16 = 0 then 0xA0 else 0x80 : UInt8).toNat ≤ n / 64 % 64 + 128 := by
      split_ifs <;> (simp only [UInt8.reduceToNat]; omega)
    have hsecond' : n / 64 % 64 + 128 ≤ (if n / 4096 % 16 = 13 then 0x9F else 0xBF : UInt8).toNat := by
      split_ifs <;> (simp only [UInt8.reduceToNat]; omega)
    have hvalue : (n / 4096 % 16 * 64 + (n / 64 % 64 + 128) % 64) * 64 + (n % 64 + 128) % 64 = n := by
      omega
    rw [List.cons_append, List.cons_append, List.singleton_append,
      readFrom_start (start_three _ (by omega)), readFrom_next rfl (by omega) hsecond hsecond',
      readFrom_last rfl (by omega) (by simp) (by simp; omega)]
    simp only [hvalue, hc]
  · have hsecond : (if n / 262144 % 8 = 0 then 0x90 else 0x80 : UInt8).toNat ≤ n / 4096 % 64 + 128 := by
      split_ifs <;> (simp only [UInt8.reduceToNat]; omega)
    have hsecond' :
        n / 4096 % 64 + 128 ≤ (if n / 262144 % 8 = 4 then 0x8F else 0xBF : UInt8).toNat := by
      split_ifs <;> (simp only [UInt8.reduceToNat]; omega)
    have hvalue : ((n / 262144 % 8 * 64 + (n / 4096 % 64 + 128) % 64) * 64
        + (n / 64 % 64 + 128) % 64) * 64 + (n % 64 + 128) % 64 = n := by omega
    rw [List.cons_append, List.cons_append, List.cons_append, List.singleton_append,
      readFrom_start (start_four _ (by omega)), readFrom_next rfl (by omega) hsecond hsecond',
      readFrom_next rfl (by omega) (by simp) (by simp; omega),
      readFrom_last rfl (by omega) (by simp) (by simp; omega)]
    simp only [hvalue, hc]

/-- **The bytes of a text** are read as that text. -/
theorem text_ofText (s : String) : (ofText s).text = s := by
  have hread : ∀ cs : List Char, readFrom none (cs.flatMap String.utf8EncodeChar) = cs := by
    intro cs
    induction cs with
    | nil => rfl
    | cons c cs ih => rw [List.flatMap_cons, readFrom_char, ih]
  rw [text, ofText, utf8_eq, hread, String.ofList_toList]

theorem ofText_injective {s t : String} (h : ofText s = ofText t) : s = t := by
  rw [← text_ofText s, h, text_ofText]

theorem isText_ofText (s : String) : (ofText s).isText = true := by
  rw [isText, text_ofText]
  exact beq_self_eq_true _

theorem ofText_text {b : ByteString} (h : b.isText = true) : ofText b.text = b :=
  (beq_iff_eq.mp h).symm

/-- The bytes that are those of some text are those of their reading. -/
theorem isText_iff {b : ByteString} : b.isText = true ↔ ∃ s : String, b = s :=
  ⟨fun h => ⟨b.text, (ofText_text h).symm⟩, fun ⟨s, hs⟩ => hs ▸ isText_ofText s⟩

/-- What stands before and behind a byte below 128 of a text are texts. -/
theorem isText_of_append {a : UInt8} (ha : a < 0x80) {xs ys : List UInt8}
    (h : (ofList (xs ++ a :: ys)).isText = true) :
    (ofList xs).isText = true ∧ (ofList ys).isText = true := by
  obtain ⟨s, hs⟩ := isText_iff.mp h
  obtain ⟨before, after, -, rfl, rfl⟩ := utf8_split ha (show utf8 s = xs ++ a :: ys from
    (congrArg ByteString.toList hs).symm)
  exact ⟨isText_ofText before, isText_ofText after⟩

/-! ## §4. Reading a path -/

/-- **A byte below 128 is read as itself**, and cuts off a character in front of it. -/
theorem readFrom_ascii {a : UInt8} (ha : a < 0x80) (pending : Option Pending) (bs cs : List UInt8) :
    readFrom pending (bs ++ a :: cs)
      = readFrom pending bs ++ Char.ofNat a.toNat :: readFrom none cs := by
  induction bs generalizing pending with
  | nil =>
      have hstart : start a = ([Char.ofNat a.toNat], none) := by
        simp only [start, if_pos ha]
      cases pending with
      | none => simp [readFrom, readByte, hstart, broken]
      | some p =>
          have hnot : ¬ (p.least ≤ a ∧ a ≤ p.greatest) := by
            rintro ⟨hleast, -⟩
            have hp := p.not_ascii
            rw [UInt8.le_iff_toNat_le] at hleast hp
            rw [UInt8.lt_iff_toNat_lt] at ha
            omega
          simp [readFrom, readByte, hstart, broken, hnot]
  | cons b bs ih => simp only [List.cons_append, readFrom, ih, List.append_assoc]

/-- The reading of some bytes, as characters. -/
def readBytes (bs : List UInt8) : List Char :=
  readFrom none bs

theorem toList_text (b : ByteString) : b.text.toList = readBytes b.toList :=
  String.toList_ofList

/-- Bytes are read one part after the other where a byte below 128 stands at the cut. -/
theorem readBytes_append {bs cs : List UInt8}
    (h : (∀ a ∈ bs.getLast?, a < 0x80) ∨ ∀ a ∈ cs.head?, a < 0x80) :
    readBytes (bs ++ cs) = readBytes bs ++ readBytes cs := by
  rcases h with hlast | hhead
  · rcases List.eq_nil_or_concat bs with rfl | ⟨front, a, rfl⟩
    · rfl
    · rw [List.concat_eq_append] at hlast ⊢
      have ha : a < 0x80 := hlast a (by simp)
      have hfront : readBytes (front ++ [a]) = readBytes front ++ [Char.ofNat a.toNat] :=
        readFrom_ascii ha none front []
      rw [List.append_assoc, hfront, List.append_assoc]
      exact readFrom_ascii ha none front cs
  · cases cs with
    | nil => exact (congrArg readBytes (List.append_nil bs)).trans (List.append_nil _).symm
    | cons a cs =>
        have ha : a < 0x80 := hhead a rfl
        have hbehind : readBytes (a :: cs) = Char.ofNat a.toNat :: readBytes cs :=
          readFrom_ascii ha none [] cs
        rw [hbehind]
        exact readFrom_ascii ha none bs cs

theorem readBytes_slash (bs cs : List UInt8) :
    readBytes (bs ++ slash :: cs) = readBytes bs ++ '/' :: readBytes cs :=
  readFrom_ascii (by decide) none bs cs

/-- **A path is read segment by segment.** -/
theorem readBytes_intercalate (segments : List (List UInt8)) :
    readBytes ([slash].intercalate segments) = ['/'].intercalate (segments.map readBytes) := by
  induction segments with
  | nil => rfl
  | cons s rest ih =>
      cases rest with
      | nil => rw [List.intercalate_singleton, List.map_singleton, List.intercalate_singleton]
      | cons t rest =>
          rw [List.intercalate_cons_cons, List.append_assoc, List.singleton_append, readBytes_slash, ih]
          simp only [List.map_cons, List.intercalate_cons_cons, List.append_assoc, List.singleton_append]

theorem text_segments (b : ByteString) :
    b.text.toList = ['/'].intercalate ((Text.splitSep slash b.toList).map readBytes) := by
  rw [toList_text, ← readBytes_intercalate, Text.intercalate_splitSep]

/-- The reading of a segment stands in the reading of the path. -/
theorem readBytes_infix {s : List UInt8} {b : ByteString} (h : s ∈ Text.splitSep slash b.toList) :
    readBytes s <:+: b.text.toList := by
  rw [text_segments]
  exact Text.infix_intercalate '/' (List.mem_map_of_mem h)

/-- A part without slashes occurs in the reading of a path exactly if it occurs in the reading of one of
    its segments. -/
theorem infix_text_iff {part : List Char} (hslash : '/' ∉ part) (b : ByteString) :
    part <:+: b.text.toList ↔ ∃ s ∈ Text.splitSep slash b.toList, part <:+: readBytes s := by
  have hne : (Text.splitSep slash b.toList).map readBytes ≠ [] := by
    simpa using Text.splitSep_ne_nil slash b.toList
  rw [text_segments, Text.infix_intercalate_iff hslash hne]
  simp

/-! ## §5. What is read as a slash -/

/-- What a begun character has read so far, and the least byte that continues it, make a number that
    needs more than one byte. -/
structure Pending.Large (p : Pending) : Prop where
  /-- The number is at least 128, if nothing but the least bytes follow. -/
  value : 128 ≤ (p.value * 64 + (p.least.toNat - 128)) * 64 ^ p.more
  /-- The bytes that continue it have six bits each. -/
  greatest : p.greatest.toNat < 192

theorem start_large : ∀ b : UInt8, ∀ p ∈ (start b).2, p.Large := by
  have hall : ∀ n < 256, ∀ p ∈ (start (UInt8.ofNat n)).2,
      128 ≤ (p.value * 64 + (p.least.toNat - 128)) * 64 ^ p.more ∧ p.greatest.toNat < 192 := by
    decide +kernel
  intro b p hp
  have hb := hall b.toNat b.toNat_lt p
  rw [UInt8.ofNat_toNat] at hb
  exact ⟨(hb hp).1, (hb hp).2⟩

theorem start_slash : ∀ b : UInt8, '/' ∈ (start b).1 → b = slash := by
  have hall : ∀ n < 256, '/' ∈ (start (UInt8.ofNat n)).1 → UInt8.ofNat n = slash := by
    decide +kernel
  intro b hb
  have hslash := hall b.toNat b.toNat_lt
  rw [UInt8.ofNat_toNat] at hslash
  exact hslash hb

theorem toNat_ofNat_or (n : Nat) : (Char.ofNat n).toNat = n ∨ (Char.ofNat n).toNat = 0 := by
  unfold Char.ofNat
  by_cases hn : n.isValidChar
  · rw [dif_pos hn]
    exact Or.inl rfl
  · rw [dif_neg hn]
    exact Or.inr rfl

/-- One byte is read as a slash only if it is one, and the character that it begins or continues needs
    more than one byte. -/
theorem readByte_slash {pending : Option Pending} (hpending : ∀ p ∈ pending, p.Large) (b : UInt8) :
    ('/' ∈ (readByte pending b).1 → b = slash) ∧ ∀ p ∈ (readByte pending b).2, p.Large := by
  cases pending with
  | none => exact ⟨start_slash b, start_large b⟩
  | some p =>
      have hp := hpending p rfl
      by_cases hrange : p.least ≤ b ∧ b ≤ p.greatest
      · have hleast := UInt8.le_iff_toNat_le.mp hrange.1
        have hgreatest := UInt8.le_iff_toNat_le.mp hrange.2
        have hlow := UInt8.le_iff_toNat_le.mp p.not_ascii
        have hsix : p.least.toNat - 128 ≤ b.toNat % 64 := by
          have hb := hp.greatest
          have hlow' : 128 ≤ p.least.toNat := hlow
          omega
        have hvalue : 128 ≤ (p.value * 64 + b.toNat % 64) * 64 ^ p.more :=
          Nat.le_trans hp.value (Nat.mul_le_mul_right _ (Nat.add_le_add_left hsix _))
        simp only [readByte, if_pos hrange]
        generalize p.value * 64 + b.toNat % 64 = value at hvalue ⊢
        cases hmore : p.more with
        | zero =>
            rw [hmore, Nat.pow_zero, Nat.mul_one] at hvalue
            refine ⟨fun hmem => ?_, fun q hq => by cases hq⟩
            have hchar := toNat_ofNat_or value
            rw [← List.mem_singleton.mp hmem] at hchar
            rcases hchar with hchar | hchar
            · rw [← hchar] at hvalue
              exact absurd hvalue (by decide)
            · exact absurd hchar (by decide)
        | succ more =>
            refine ⟨fun hmem => absurd hmem List.not_mem_nil, fun q hq => ?_⟩
            cases hq
            rw [hmore, Nat.pow_succ', ← Nat.mul_assoc] at hvalue
            exact ⟨by simpa using hvalue, show (0xBF : UInt8).toNat < 192 by decide⟩
      · simp only [readByte, if_neg hrange]
        refine ⟨fun hmem => ?_, start_large b⟩
        rcases List.mem_cons.mp hmem with hreplacement | hmem
        · exact absurd hreplacement (by decide)
        · exact start_slash b hmem

/-- **Only a slash is read as one.** -/
theorem slash_mem_of_readFrom {pending : Option Pending} (hpending : ∀ p ∈ pending, p.Large)
    {bs : List UInt8} (h : '/' ∈ readFrom pending bs) : slash ∈ bs := by
  induction bs generalizing pending with
  | nil =>
      -- what is begun is broken off
      cases pending with
      | none => exact absurd h List.not_mem_nil
      | some p => exact absurd (List.mem_singleton.mp h) (by decide)
  | cons b bs ih =>
      obtain ⟨hslash, hnext⟩ := readByte_slash hpending b
      rcases List.mem_append.mp h with h | h
      · rw [hslash h]
        exact List.mem_cons_self
      · exact List.mem_cons_of_mem b (ih hnext h)

theorem slash_mem_of_text {b : ByteString} (h : '/' ∈ b.text.toList) : slash ∈ b.toList := by
  rw [toList_text] at h
  exact slash_mem_of_readFrom (by simp) h

theorem slash_mem_of_ofText {s : String} (h : slash ∈ (ofText s).toList) : '/' ∈ s.toList := by
  rw [ofText, utf8_eq] at h
  obtain ⟨c, hc, hslash⟩ := List.mem_flatMap.mp h
  rw [(eq_of_ascii_mem (by decide) hslash).1] at hc
  exact hc

end ByteString

end TestScaffold
