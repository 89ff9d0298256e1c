/-
  TestScaffold.Proofs.SettingsFile.Scalars — strings and numbers are read as they are written.

    * `stringBody_body` — every spelling of a string gives its characters;
    * `readNumber_natural` — a natural number that fits into a word is read as such;
    * `natural?_of_readNumber` — and nothing else is.
-/
import Mathlib.Data.List.TakeDrop
import Mathlib.Data.List.TakeWhile
import TestScaffold.Proofs.SettingsFile.Grammar

namespace TestScaffold.SettingsFile.Json

/-! ## §1. Strings -/

theorem hexValue?_hexDigit (upper : Bool) {d : Nat} (h : d < 16) :
    hexValue? (hexDigit upper d) = some d := by
  have hall : ∀ upper, ∀ d < 16, hexValue? (hexDigit upper d) = some d := by decide
  exact hall upper d h

/-- Four digits give the unit back. -/
theorem unit?_hexUnit (p q r s : Bool) {n : Nat} (h : n < 0x10000) :
    unit? (hexDigit p (n / 0x1000)) (hexDigit q (n / 0x100 % 0x10)) (hexDigit r (n / 0x10 % 0x10))
      (hexDigit s (n % 0x10)) = some n := by
  unfold unit?
  rw [hexValue?_hexDigit p (by omega), hexValue?_hexDigit q (by omega),
    hexValue?_hexDigit r (by omega), hexValue?_hexDigit s (by omega)]
  refine congrArg some ?_
  omega

/-- The number of a character is no half of a pair. -/
theorem toNat_not_half (c : Char) : c.toNat < 0xD800 ∨ 0xDFFF < c.toNat ∧ c.toNat < 0x110000 := by
  have hvalid := c.valid
  simp only [UInt32.isValidChar, Nat.isValidChar] at hvalid
  exact hvalid

theorem isHigh_toNat (c : Char) : isHigh c.toNat = false := by
  have hnone := toNat_not_half c
  simp only [isHigh, Bool.and_eq_false_iff, decide_eq_false_iff_not]
  omega

theorem isLow_toNat (c : Char) : isLow c.toNat = false := by
  have hnone := toNat_not_half c
  simp only [isLow, Bool.and_eq_false_iff, decide_eq_false_iff_not]
  omega

theorem isHigh_highUnit {c : Char} (h : 0x10000 ≤ c.toNat) : isHigh (highUnit c) = true := by
  have hbound := toNat_not_half c
  have hrange : 0xD800 ≤ highUnit c ∧ highUnit c ≤ 0xDBFF := by
    unfold highUnit
    omega
  simpa [isHigh] using hrange

theorem isLow_lowUnit (c : Char) : isLow (lowUnit c) = true := by
  have hrange : 0xDC00 ≤ lowUnit c ∧ lowUnit c ≤ 0xDFFF := by
    unfold lowUnit
    omega
  simpa [isLow] using hrange

theorem pair_units {c : Char} (h : 0x10000 ≤ c.toNat) : pair (highUnit c) (lowUnit c) = c := by
  have hsum : 0x10000 + (highUnit c - 0xD800) * 0x400 + (lowUnit c - 0xDC00) = c.toNat := by
    simp only [highUnit, lowUnit]
    omega
  rw [pair, hsum, Char.ofNat_toNat]

theorem escape?_of_short {mark c : Char} (h : (mark, c) ∈ shortEscapes) :
    mark ≠ 'u' ∧ escape? mark = some c := by
  have hall : ∀ e ∈ shortEscapes, e.1 ≠ 'u' ∧ escape? e.1 = some e.2 := by decide
  exact hall _ h

theorem stringBody_short {mark c : Char} (h : (mark, c) ∈ shortEscapes) (cs : List Char) :
    stringBody ('\\' :: mark :: cs) = consChar c (stringBody cs) := by
  obtain ⟨hmark, hescape⟩ := escape?_of_short h
  rw [stringBody]
  · simp only [hescape]
  · intro _ _ _ _ _ hu
    exact absurd hu hmark

theorem stringBody_unit (p q r s : Bool) {c : Char} (h : c.toNat < 0x10000) (cs : List Char) :
    stringBody ('\\' :: 'u' :: (hexUnit p q r s c.toNat ++ cs)) = consChar c (stringBody cs) := by
  simp only [hexUnit, List.cons_append, List.nil_append]
  rw [stringBody, unit?_hexUnit p q r s h]
  simp only [isHigh_toNat, isLow_toNat, Char.ofNat_toNat, Bool.false_eq_true, if_false]

theorem stringBody_pair (p q r s p' q' r' s' : Bool) {c : Char} (h : 0x10000 ≤ c.toNat)
    (cs : List Char) :
    stringBody ('\\' :: 'u' :: (hexUnit p q r s (highUnit c)
        ++ '\\' :: 'u' :: (hexUnit p' q' r' s' (lowUnit c) ++ cs)))
      = consChar c (stringBody cs) := by
  have hbound := toNat_not_half c
  have hhigh : highUnit c < 0x10000 := by
    simp only [highUnit]
    omega
  have hlow : lowUnit c < 0x10000 := by
    simp only [lowUnit]
    omega
  simp only [hexUnit, List.cons_append, List.nil_append]
  rw [stringBody, unit?_hexUnit p q r s hhigh]
  simp only [isHigh_highUnit h, if_true, unit?_hexUnit p' q' r' s' hlow, isLow_lowUnit,
    pair_units h]

theorem stringBody_plain {c : Char} (hcontrol : 0x20 ≤ c.toNat) (hquote : c ≠ '"')
    (hback : c ≠ '\\') (cs : List Char) :
    stringBody (c :: cs) = consChar c (stringBody cs) := by
  rw [stringBody]
  · rw [if_neg (by omega)]
  all_goals simp_all

/-- **Every spelling of a string** gives its characters, up to the quote that ends it. -/
theorem stringBody_body {cs ds : List Char} (h : Body cs ds) (rest : List Char) :
    stringBody (ds ++ '"' :: rest) = .ok (cs, rest) := by
  induction h with
  | nil => rfl
  | plain hcontrol hquote hback _ ih =>
      rw [List.cons_append, stringBody_plain hcontrol hquote hback, ih]
      rfl
  | short hmark _ ih =>
      rw [List.cons_append, List.cons_append, stringBody_short hmark, ih]
      rfl
  | unit p q r s hsmall _ ih =>
      rw [List.cons_append, List.cons_append, List.append_assoc, stringBody_unit p q r s hsmall, ih]
      rfl
  | pair p q r s p' q' r' s' hlarge _ ih =>
      simp only [List.cons_append, List.append_assoc]
      rw [stringBody_pair p q r s p' q' r' s' hlarge, ih]
      rfl

/-! ## §2. Numbers -/

/-- Marks that may follow a value in an array or object. -/
def marks : List Char := [',', ':', ']', '\x7d']

/-- What may follow a value: white space, a mark or the end. -/
def Ends (rest : List Char) : Prop :=
  ∀ c ∈ rest.head?, isSpace c = true ∨ c ∈ marks

/-- What follows a value goes on with no number. -/
theorem Ends.not_number {rest : List Char} (h : Ends rest) :
    ∀ c ∈ rest.head?, c.isDigit = false ∧ c ≠ '.' ∧ c ≠ 'e' ∧ c ≠ 'E' := by
  intro c hc
  rcases h c hc with hspace | hmark
  · simp only [isSpace, Bool.or_eq_true, beq_iff_eq] at hspace
    rcases hspace with ((rfl | rfl) | rfl) | rfl <;> decide
  · have hall : ∀ c ∈ marks, c.isDigit = false ∧ c ≠ '.' ∧ c ≠ 'e' ∧ c ≠ 'E' := by
      simp [marks]
    exact hall c hmark

theorem takeDigits_append (d : Digits) {rest : List Char}
    (h : ∀ c ∈ rest.head?, c.isDigit = false) : takeDigits (d.chars ++ rest) = (d.chars, rest) := by
  have hall := List.all_eq_true.mp d.decimal
  rw [takeDigits, List.span_eq_takeWhile_dropWhile, List.takeWhile_append_of_pos hall,
    List.dropWhile_append_of_pos hall]
  cases rest with
  | nil => simp
  | cons c cs => simp [h c rfl]

theorem le_ofDigitChars (ds : List Char) (acc : Nat) : acc ≤ Nat.ofDigitChars 10 ds acc := by
  induction ds generalizing acc with
  | nil => exact Nat.le_refl acc
  | cons d ds ih =>
      rw [Nat.ofDigitChars_cons]
      exact Nat.le_trans (by omega) (ih _)

/-- Digits that fit into a word are all taken. -/
theorem significand_fits {ds : List Char} {acc : Nat} (h : Nat.ofDigitChars 10 ds acc < sizeBound) :
    significand acc ds = (Nat.ofDigitChars 10 ds acc, []) := by
  induction ds generalizing acc with
  | nil => rfl
  | cons d ds ih =>
      rw [Nat.ofDigitChars_cons, Nat.mul_comm 10] at h ⊢
      have hnext : acc * 10 + digitValue d < sizeBound :=
        Nat.lt_of_le_of_lt (le_ofDigitChars ds _) h
      rw [significand, if_pos hnext]
      exact ih h

/-- Digits that are all taken fit into a word. -/
theorem fits_of_significand {ds : List Char} {acc k : Nat} (hacc : acc < sizeBound)
    (h : significand acc ds = (k, [])) : Nat.ofDigitChars 10 ds acc = k ∧ k < sizeBound := by
  induction ds generalizing acc with
  | nil =>
      cases h
      exact ⟨rfl, hacc⟩
  | cons d ds ih =>
      rw [significand] at h
      split at h
      · rename_i hnext
        rw [Nat.ofDigitChars_cons, Nat.mul_comm 10]
        exact ih hnext h
      · cases h

theorem floatOf_ne_natural {minus : Bool} {m k : Nat} {e : Int} :
    floatOf minus m e ≠ .ok (.natural k) := by
  unfold floatOf
  split <;> simp

/-- What is read behind the digits and the point: perhaps an exponent. -/
def numberEnd (minus : Bool) (m : Nat) (e : Int) (exact : Bool) (cs : List Char) :
    Except Trouble (Number × List Char) := do
  match cs with
  | c :: rest =>
    if c == 'e' || c == 'E' then
      let (more, rest) ← readExponent rest
      return (← floatOf minus m (e + more), rest)
  | [] => pure ()
  if exact then
    if !minus then return (.natural m, cs)
    else if 0 < m && m ≤ Nat.pow 2 63 then return (.negative (-(m : Int)), cs)
    else return (.float (-m.toUInt64.toFloat), cs)
  else return (← floatOf minus m e, cs)

theorem numberEnd_none {minus : Bool} {m : Nat} {e : Int} {exact : Bool} {cs : List Char}
    (h : ∀ c ∈ cs.head?, c ≠ 'e' ∧ c ≠ 'E') :
    numberEnd minus m e exact cs
      = if exact then
          if !minus then .ok (.natural m, cs)
          else if 0 < m && m ≤ Nat.pow 2 63 then .ok (.negative (-(m : Int)), cs)
          else .ok (.float (-m.toUInt64.toFloat), cs)
        else (floatOf minus m e).map (·, cs) := by
  unfold numberEnd
  cases cs with
  | nil => rfl
  | cons c cs =>
      obtain ⟨hlower, hupper⟩ := h c rfl
      simp only [beq_eq_false_iff_ne.mpr hlower, beq_eq_false_iff_ne.mpr hupper]
      rfl

theorem natural_of_numberEnd {minus : Bool} {m : Nat} {e : Int} {exact : Bool}
    {cs rest : List Char} {k : Nat} (h : numberEnd minus m e exact cs = .ok (.natural k, rest)) :
    minus = false ∧ exact = true ∧ m = k ∧ rest = cs ∧ ∀ c ∈ cs.head?, c ≠ 'e' ∧ c ≠ 'E' := by
  by_cases hmark : ∀ c ∈ cs.head?, c ≠ 'e' ∧ c ≠ 'E'
  · rw [numberEnd_none hmark] at h
    cases exact with
    | false =>
        cases hfloat : floatOf minus m e with
        | error trouble => rw [hfloat] at h; cases h
        | ok x =>
            rw [hfloat] at h
            cases h
            exact absurd hfloat floatOf_ne_natural
    | true =>
        cases minus with
        | false =>
            cases h
            exact ⟨rfl, rfl, rfl, rfl, hmark⟩
        | true =>
            simp only [if_true, Bool.not_true, Bool.false_eq_true, if_false] at h
            split at h <;> cases h
  · -- an exponent gives a float
    obtain ⟨c, left, rfl⟩ : ∃ c left, cs = c :: left := by
      cases cs with
      | nil => exact absurd (by simp) hmark
      | cons c left => exact ⟨c, left, rfl⟩
    have hc : (c == 'e' || c == 'E') = true := by
      by_contra hnone
      simp only [Bool.or_eq_true, beq_iff_eq, not_or] at hnone
      exact hmark (by simpa using hnone)
    unfold numberEnd at h
    simp only [hc, if_true] at h
    cases hexponent : readExponent left with
    | error trouble => rw [hexponent] at h; cases h
    | ok found =>
        obtain ⟨more, after⟩ := found
        rw [hexponent] at h
        change (floatOf minus m (e + more) >>= fun x => pure (x, after)) = _ at h
        cases hfloat : floatOf minus m (e + more) with
        | error trouble => rw [hfloat] at h; cases h
        | ok x =>
            rw [hfloat] at h
            cases h
            exact absurd hfloat floatOf_ne_natural

/-- A natural number is read from digits alone, without a sign, a point or an exponent. -/
theorem natural_of_numberBody {minus : Bool} {cs rest : List Char} {k : Nat}
    (h : numberBody minus cs = .ok (.natural k, rest)) :
    minus = false ∧ significand 0 (takeDigits cs).1 = (k, []) ∧ rest = (takeDigits cs).2
      ∧ ∀ c ∈ rest.head?, c ≠ '.' ∧ c ≠ 'e' ∧ c ≠ 'E' := by
  unfold numberBody at h
  rcases htake : takeDigits cs with ⟨whole, left⟩
  rcases hsig : significand 0 whole with ⟨m, dropped⟩
  simp only [htake, hsig] at h
  split at h
  · cases h
  · cases h
  · split at h
    · -- a point gives a float
      split at h
      · cases h
      · change numberEnd _ _ _ false _ = _ at h
        cases (natural_of_numberEnd h).2.1
    · rename_i hpoint
      change numberEnd _ _ _ _ left = _ at h
      obtain ⟨hminus, hexact, hk, hrest, hmark⟩ := natural_of_numberEnd h
      refine ⟨hminus, ?_, hrest, ?_⟩
      · exact Prod.ext hk (List.isEmpty_iff.mp hexact)
      · rw [hrest]
        intro c hc
        refine ⟨?_, hmark c hc⟩
        rintro rfl
        obtain ⟨after, hafter⟩ := List.head?_eq_some_iff.mp hc
        exact hpoint after hafter

/-- Digits that fit into a word, and go on with no number, are read as a natural number. -/
theorem numberBody_natural (n : Numeral) {rest : List Char} (hrest : Ends rest)
    (hfits : Nat.ofDigitChars 10 n.whole.chars 0 < sizeBound) :
    numberBody false (n.whole.chars ++ rest)
      = .ok (.natural (Nat.ofDigitChars 10 n.whole.chars 0), rest) := by
  have htake := takeDigits_append n.whole fun c hc => (hrest.not_number c hc).1
  have hend : ∀ e, numberEnd false (Nat.ofDigitChars 10 n.whole.chars 0) e true rest
      = .ok (.natural (Nat.ofDigitChars 10 n.whole.chars 0), rest) :=
    fun e => numberEnd_none fun c hc => (hrest.not_number c hc).2.2
  unfold numberBody
  simp only [htake, significand_fits hfits]
  split
  · rename_i hnil
    exact absurd hnil n.whole.nonempty
  · rename_i hzero
    have hone := n.leading (by rw [hzero]; rfl)
    rw [hzero] at hone
    cases hone
  · split
    · exact absurd rfl (hrest.not_number '.' rfl).2.1
    · exact hend _

theorem readNumber_eq (n : Numeral) (rest : List Char) :
    readNumber (n.chars ++ rest) = numberBody n.minus (n.whole.chars ++ (n.tail ++ rest)) := by
  obtain ⟨d, ds, hcons⟩ := List.exists_cons_of_ne_nil n.whole.nonempty
  have hd : d.isDigit = true := List.all_eq_true.mp n.whole.decimal d (hcons ▸ List.mem_cons_self)
  have hspace : isSpace d = false := by
    cases h : isSpace d with
    | false => rfl
    | true =>
        have hends : Ends [d] := fun c hc => by
          cases hc
          exact .inl h
        exact absurd hd (by simp [(hends.not_number d rfl).1])
  have hminus : d ≠ '-' := by
    rintro rfl
    cases hd
  unfold readNumber Numeral.chars
  cases n.minus with
  | true => simp [isSpace]
  | false => simp [hcons, hspace, hminus]

theorem Numeral.tail_head (n : Numeral) : ∀ c ∈ n.tail.head?, c = '.' ∨ c = 'e' ∨ c = 'E' := by
  intro c hc
  unfold Numeral.tail at hc
  cases hfraction : n.fraction? with
  | some ds =>
      rw [hfraction] at hc
      cases hc
      exact .inl rfl
  | none =>
      cases hexponent : n.exponent? with
      | none =>
          rw [hfraction, hexponent] at hc
          cases hc
      | some e =>
          rw [hfraction, hexponent] at hc
          cases hc
          cases e.upper <;> simp

theorem Numeral.natural?_eq_some_iff (n : Numeral) {k : Nat} :
    n.natural? = some k
      ↔ n.minus = false ∧ n.tail = [] ∧ Nat.ofDigitChars 10 n.whole.chars 0 = k := by
  unfold Numeral.natural? Numeral.tail
  cases n.minus <;> cases n.fraction? <;> cases n.exponent? <;> simp [Exponent.chars]

/-- **A number is a natural number that fits into a word** exactly if it is written as one. -/
theorem readNumber_natural_iff (n : Numeral) {rest : List Char} (hrest : Ends rest) {k : Nat}
    {after : List Char} :
    readNumber (n.chars ++ rest) = .ok (.natural k, after)
      ↔ n.natural? = some k ∧ k < sizeBound ∧ after = rest := by
  have hdigits : ∀ c ∈ (n.tail ++ rest).head?, c.isDigit = false := by
    intro c hc
    cases htail : n.tail with
    | nil => exact (hrest.not_number c (by simpa [htail] using hc)).1
    | cons d ds =>
        rw [htail] at hc
        cases hc
        rcases n.tail_head c (by rw [htail]; rfl) with rfl | rfl | rfl <;> decide
  rw [readNumber_eq, n.natural?_eq_some_iff]
  constructor
  · intro h
    obtain ⟨hminus, hsig, hafter, hmark⟩ := natural_of_numberBody h
    rw [takeDigits_append n.whole hdigits] at hsig hafter
    obtain ⟨hvalue, hfits⟩ := fits_of_significand (by decide) hsig
    have htail : n.tail = [] := by
      cases htail : n.tail with
      | nil => rfl
      | cons d ds =>
          have hd := hmark d (by rw [hafter, htail]; rfl)
          rcases n.tail_head d (by rw [htail]; rfl) with rfl | rfl | rfl
          · exact absurd rfl hd.1
          · exact absurd rfl hd.2.1
          · exact absurd rfl hd.2.2
    exact ⟨⟨hminus, htail, hvalue⟩, hfits, by rw [hafter, htail]; rfl⟩
  · rintro ⟨⟨hminus, htail, rfl⟩, hfits, rfl⟩
    rw [hminus, htail]
    exact numberBody_natural n hrest hfits

end TestScaffold.SettingsFile.Json
