/-
  TestScaffold.Proofs.Python.Words — lines of words, and the tokens they are read as.

  A line is made of names, marks and quoted texts, with single spaces between some of them.
  It is read back as these words if no word can be taken to go on into the next one:

    * `Identifier` — a name that is no keyword;
    * `Word.endsBefore` — the character after which a word cannot go on;
    * `spells_word` — one word and the gap before it give one token;
    * `spells_line` — a line gives its words, whatever lines follow.
-/
import TestScaffold.Python.Parse

namespace TestScaffold.Python

/-! ## §1. Identifiers -/

/-- Whether a text has the form of a name; keywords have it too. -/
def isName (text : String) : Bool :=
  match text.toList with
  | [] => false
  | c :: cs => isIdentifierStart c && cs.all isIdentifierContinue

/-- Whether a text is a name that is no keyword. -/
def isIdentifier (text : String) : Bool :=
  isName text && !isReserved text

/-- A name that is no keyword. -/
structure Identifier where
  /-- The name as spelled. -/
  text : String
  /-- It has the form of a name. -/
  named : isName text = true
  /-- It is no keyword. -/
  free : isReserved text = false

/-- The identifier that a text is. -/
def Identifier.ofText (text : String) (h : isIdentifier text = true) : Identifier :=
  ⟨text, (Bool.and_eq_true_iff.mp h).1, by simpa using (Bool.and_eq_true_iff.mp h).2⟩

/-- Whether every range lies in a later or equal one of an ordered list. -/
def covered : List (Nat × Nat) → List (Nat × Nat) → Bool
  | [], _ => true
  | a :: as, bs =>
    match bs.dropWhile fun b => Nat.blt b.2 a.2 with
    | [] => false
    | b :: rest => Nat.ble b.1 a.1 && Nat.ble a.2 b.2 && covered as (b :: rest)

theorem mem_of_covered {as bs : List (Nat × Nat)} (h : covered as bs = true) {n : Nat}
    (hn : ∃ a ∈ as, a.1 ≤ n ∧ n ≤ a.2) : ∃ b ∈ bs, b.1 ≤ n ∧ n ≤ b.2 := by
  induction as generalizing bs with
  | nil =>
      obtain ⟨a, ha, -⟩ := hn
      exact absurd ha List.not_mem_nil
  | cons a as ih =>
      unfold covered at h
      split at h
      · cases h
      · rename_i b rest hdrop
        have hsub : ∀ x ∈ b :: rest, x ∈ bs := by
          intro x hx
          exact (List.dropWhile_suffix _).subset (hdrop ▸ hx)
        simp only [Bool.and_eq_true, Nat.ble_eq] at h
        obtain ⟨⟨hlow, hhigh⟩, hrest⟩ := h
        obtain ⟨x, hx, hxn⟩ := hn
        rcases List.mem_cons.mp hx with rfl | hx
        · exact ⟨b, hsub b List.mem_cons_self, by omega, by omega⟩
        · obtain ⟨y, hy, hyn⟩ := ih hrest ⟨x, hx, hxn⟩
          exact ⟨y, hsub y hy, hyn⟩

theorem inRanges_eq (ranges : Array (Nat × Nat)) (n : Nat) :
    Text.inRanges ranges n = ranges.toList.any fun a => Nat.ble a.1 n && Nat.ble n a.2 := by
  unfold Text.inRanges
  rw [← Array.any_toList]
  congr 1
  funext a
  obtain ⟨low, high⟩ := a
  rw [Bool.eq_iff_iff]
  simp

theorem inRanges_iff {ranges : Array (Nat × Nat)} {n : Nat} :
    Text.inRanges ranges n = true ↔ ∃ a ∈ ranges.toList, a.1 ≤ n ∧ n ≤ a.2 := by
  rw [inRanges_eq, List.any_eq_true]
  simp

/-- What begins a name can also continue one. -/
theorem isIdentifierContinue_of_start {c : Char} (h : isIdentifierStart c = true) :
    isIdentifierContinue c = true := by
  unfold isIdentifierStart at h
  unfold isIdentifierContinue
  split at h
  · rename_i hascii
    rw [if_pos hascii]
    rcases Bool.or_eq_true_iff.mp h with h | h
    · simp [Char.isAlphanum, h]
    · simp [h]
  · rename_i hascii
    rw [if_neg hascii]
    have hcovered : covered identifierStartRanges.toList identifierContinueRanges.toList = true := by
      decide +kernel
    exact inRanges_iff.mpr (mem_of_covered hcovered (inRanges_iff.mp h))

/-- A character that begins a name is none of those that do not. -/
theorem isIdentifierStart_ne {c d : Char} (h : isIdentifierStart c = true)
    (hd : isIdentifierStart d = false) : c ≠ d := by
  intro heq
  rw [heq, hd] at h
  cases h

/-- No name begins with a digit, or with anything before the letters. -/
theorem le_toNat_of_start {c : Char} (h : isIdentifierStart c = true) : 65 ≤ c.toNat := by
  unfold isIdentifierStart at h
  split at h
  · rcases Bool.or_eq_true_iff.mp h with halpha | hline
    · rcases Bool.or_eq_true_iff.mp halpha with hupper | hlower
      · exact UInt32.le_iff_toNat_le.mp (of_decide_eq_true hupper).1
      · have hlow := UInt32.le_iff_toNat_le.mp (of_decide_eq_true (Bool.and_eq_true_iff.mp hlower).1)
        exact Nat.le_trans (by decide) hlow
    · rw [eq_of_beq hline]
      decide
  · omega

theorem isSpace_of_start {c : Char} (h : isIdentifierStart c = true) : isSpace c = false := by
  cases hspace : isSpace c with
  | false => rfl
  | true =>
      exfalso
      unfold isSpace at hspace
      simp only [Bool.or_eq_true, Bool.and_eq_true, decide_eq_true_eq, beq_iff_eq] at hspace
      have hwide : ∀ n ∈ [0xFEFF, 0x2060, 0x200B], Text.inRanges identifierStartRanges n = false := by
        simp only [inRanges_eq]
        decide +kernel
      have hletter := le_toNat_of_start h
      have hn : c.toNat ∈ [0xFEFF, 0x2060, 0x200B] := by
        simp only [List.mem_cons, List.not_mem_nil, or_false]
        omega
      unfold isIdentifierStart at h
      split at h
      · simp only [List.mem_cons, List.not_mem_nil, or_false] at hn
        omega
      · rw [hwide _ hn] at h
        cases h

/-! ## §2. Words -/

/-- Punctuation. -/
inductive Mark where
  /-- `(` -/
  | opening
  /-- `)` -/
  | closing
  /-- `:` -/
  | colon
  /-- `.` -/
  | dot
  /-- `@` -/
  | decorator
  deriving DecidableEq, Repr

namespace Mark

/-- The mark as spelled. -/
def char : Mark → Char
  | opening => '('
  | closing => ')'
  | colon => ':'
  | dot => '.'
  | decorator => '@'

/-- The mark as the grammar sees it. -/
def symbol : Mark → Symbol
  | opening => .op "("
  | closing => .op ")"
  | colon => .op ":"
  | dot => .op "."
  | decorator => .op "@"

/-- Whether the mark ends before a character, or before the end of the source: an operator or a
    number may begin like the mark. -/
def endsBefore : Mark → Option Char → Bool
  | opening, _ | closing, _ => true
  | colon, c? | decorator, c? => c? != some '='
  | dot, c? => c?.all fun c => c != '.' && !c.isDigit

end Mark

/-- Characters that stand for themselves in a quoted text. -/
def isPlain (c : Char) : Bool :=
  c != '"' && c != '\\' && c != '\x00'

/-- A word of a line. -/
inductive Word where
  /-- A name or keyword. -/
  | name (text : String) (named : isName text = true)
  /-- A mark. -/
  | mark (m : Mark)
  /-- A text in triple quotes. -/
  | quoted (content : List Char) (plain : content.all isPlain = true)

namespace Word

/-- The quotes around a quoted text. -/
def quotes : List Char := ['"', '"', '"']

/-- The word as spelled. -/
def chars : Word → List Char
  | name text _ => text.toList
  | mark m => [m.char]
  | quoted content _ => quotes ++ (content ++ quotes)

/-- The word as the grammar sees it. -/
def symbol : Word → Symbol
  | name text _ => .name text
  | mark m => m.symbol
  | quoted _ _ => .text

/-- Whether the word ends before a character, or before the end of the source. -/
def endsBefore : Word → Option Char → Bool
  | name _ _, c? => c?.all fun c => !isIdentifierContinue c && !isQuote c
  | mark m, c? => m.endsBefore c?
  | quoted _ _, _ => true

/-- The characters between the words of a source. -/
def isBreak (c : Char) : Bool :=
  c == ' ' || c == '\n'

/-- Every word ends before a break, and at the end of the source. -/
theorem endsBefore_break (w : Word) {c? : Option Char} (h : c?.all isBreak = true) :
    w.endsBefore c? = true := by
  cases c? with
  | none =>
      cases w with
      | name text named => rfl
      | mark m => cases m <;> rfl
      | quoted content plain => rfl
  | some c =>
      have hc : c = ' ' ∨ c = '\n' := by simpa [isBreak] using h
      rcases hc with rfl | rfl
      all_goals
        cases w with
        | name text named => rfl
        | mark m => cases m <;> rfl
        | quoted content plain => rfl

/-- A mark ends before a name. -/
theorem mark_endsBefore {c : Char} (h : isIdentifierStart c = true) (m : Mark) :
    (mark m).endsBefore (some c) = true := by
  have hne := fun {d : Char} => @isIdentifierStart_ne c d h
  have hdigit : c.isDigit = false := by
    cases hc : c.isDigit with
    | false => rfl
    | true =>
        exfalso
        have hhigh := UInt32.le_iff_toNat_le.mp (of_decide_eq_true (Bool.and_eq_true_iff.mp hc).2)
        exact absurd (Nat.le_trans (le_toNat_of_start h) hhigh) (by decide)
  cases m with
  | opening => rfl
  | closing => rfl
  | colon => simpa [endsBefore, Mark.endsBefore] using hne (by decide)
  | decorator => simpa [endsBefore, Mark.endsBefore] using hne (by decide)
  | dot => simpa [endsBefore, Mark.endsBefore, hdigit] using hne (by decide)

end Word

/-! ## §3. Tokens of words -/

/-- What a reading looks at in a token outside of format strings. -/
structure Piece where
  /-- What stands before the symbol. -/
  gap : List Char
  /-- The symbol. -/
  symbol : Symbol
  /-- Whether a replacement field is open. -/
  muted : Bool := false

/-- The piece that a token shows. -/
def Token.piece (t : Token) : Piece := ⟨t.gap, t.symbol, t.muted⟩

/-- The text gives tokens that show these pieces. -/
def Spells (cs : List Char) (pieces : List Piece) : Prop :=
  ∀ fuel, cs.length < fuel → (tokensFrom fuel [] false cs).map Token.piece = pieces

theorem Spells.tokens {cs : List Char} {pieces : List Piece} (h : Spells cs pieces) :
    (tokens cs).map Token.piece = pieces :=
  h _ (Nat.lt_succ_self _)

/-- Breaks are all of the gap before what is no break. -/
theorem takeGap_breaks {gap cs : List Char} (hgap : gap.all Word.isBreak = true)
    (hcs : takeGap false cs = ([], cs)) : takeGap false (gap ++ cs) = (gap, cs) := by
  induction gap with
  | nil => exact hcs
  | cons c gap ih =>
      obtain ⟨hc, hrest⟩ := Bool.and_eq_true_iff.mp (List.all_cons ▸ hgap)
      unfold Word.isBreak at hc
      rcases Bool.or_eq_true_iff.mp hc with hc | hc
      all_goals
        rw [beq_iff_eq] at hc
        subst hc
        show takeGap false (_ :: (gap ++ cs)) = _
        simp [takeGap, isSpace, ih hrest]

/-- No gap begins with a character that begins a word. -/
theorem takeGap_nil {c : Char} (hspace : isSpace c = false) (hremark : c ≠ '#') (hback : c ≠ '\\')
    (cs : List Char) : takeGap false (c :: cs) = ([], c :: cs) := by
  rw [takeGap]
  · simp [hspace, hremark, hback]
  · intro rest hc
    exact absurd hc hback
  · intro rest hc
    exact absurd hc hback

/-- No string literal opens at what is neither a quote nor a letter before one. -/
theorem openString?_none {c : Char} (hletter : prefixLetters.contains c = false)
    (hquote : isQuote c = false) (cs : List Char) : openString? (c :: cs) = none := by
  unfold openString?
  rw [List.dropWhile_cons, hletter]
  simp [hquote]

/-- Nor at a name that ends before its next character. -/
theorem openString?_name {w cs : List Char} (hw : w.all isIdentifierContinue = true)
    (hcs : cs.head?.all (fun c => !isIdentifierContinue c && !isQuote c) = true) :
    openString? (w ++ cs) = none := by
  have hletters : ∀ c, prefixLetters.contains c = true → isIdentifierContinue c = true := by
    intro c hc
    have hall : prefixLetters.all isIdentifierContinue = true := by decide
    exact List.all_eq_true.mp hall c (List.contains_iff_mem.mp hc)
  have hquotes : ∀ c, isIdentifierContinue c = true → isQuote c = false := by
    intro c hc
    cases hq : isQuote c with
    | false => rfl
    | true =>
        unfold isQuote at hq
        simp only [Bool.or_eq_true, beq_iff_eq] at hq
        rcases hq with (rfl | rfl) | rfl <;> exact absurd hc (by decide)
  -- past the letters stands a part of the name, or what follows it: neither is a quote
  have hnext : ∀ q rest, (w ++ cs).dropWhile prefixLetters.contains = q :: rest →
      isQuote q = false := by
    induction w with
    | nil =>
        intro q rest hdrop
        cases cs with
        | nil => cases hdrop
        | cons c cs =>
            simp only [List.head?_cons, Option.all_some, Bool.and_eq_true, Bool.not_eq_true'] at hcs
            rw [List.nil_append, List.dropWhile_cons] at hdrop
            have hc : prefixLetters.contains c = false := by
              cases h : prefixLetters.contains c with
              | false => rfl
              | true => rw [hletters c h] at hcs; cases hcs.1
            rw [hc] at hdrop
            cases hdrop
            exact hcs.2
    | cons c w ih =>
        intro q rest hdrop
        obtain ⟨hc, hrest⟩ := Bool.and_eq_true_iff.mp (List.all_cons ▸ hw)
        rw [List.cons_append, List.dropWhile_cons] at hdrop
        split at hdrop
        · exact ih hrest q rest hdrop
        · cases hdrop
          exact hquotes c hc
  unfold openString?
  split
  · rename_i q rest hdrop
    rw [hnext q rest hdrop]
    rfl
  · rfl

theorem takeWhile_append_stop {p : Char → Bool} {w cs : List Char} (hw : w.all p = true)
    (hcs : cs.head?.all (fun c => !p c) = true) :
    (w ++ cs).takeWhile p = w ∧ (w ++ cs).dropWhile p = cs := by
  induction w with
  | nil =>
      cases cs with
      | nil => exact ⟨rfl, rfl⟩
      | cons c cs => simp_all
  | cons c w ih =>
      obtain ⟨hc, hrest⟩ := Bool.and_eq_true_iff.mp (List.all_cons ▸ hw)
      obtain ⟨htake, hdrop⟩ := ih hrest
      simp [hc, htake, hdrop]

/-- An operator of one character is read where no longer one is: all longer ones that begin with it
    go on with the same character. -/
theorem operator?_single {d e : Char} {o : String} (before after : List String)
    (hops : operators = before ++ o :: after) (ho : o.toList = [d])
    (hbefore : ∀ p ∈ before, p.toList.head? ≠ some d ∨ [d, e] <+: p.toList) {cs : List Char}
    (hcs : cs.head? ≠ some e) : operator? (d :: cs) = some (o, cs) := by
  have hnone : before.find? (fun p => p.toList.isPrefixOf (d :: cs)) = none := by
    rw [List.find?_eq_none]
    intro p hp hstart
    have hstart : p.toList <+: d :: cs := List.isPrefixOf_iff_prefix.mp hstart
    rcases hbefore p hp with hhead | hlong
    · cases hchars : p.toList with
      | nil =>
          -- no operator is empty
          have hempty : ∀ q ∈ operators, q.toList ≠ [] := by decide +kernel
          exact hempty p (by rw [hops]; exact List.mem_append_left _ hp) hchars
      | cons c rest =>
          rw [hchars] at hstart hhead
          exact hhead (congrArg some (List.cons_prefix_cons.mp hstart).1)
    · have hnext := (List.cons_prefix_cons.mp (hlong.trans hstart)).2
      cases cs with
      | nil => simp at hnext
      | cons c rest => exact hcs (congrArg some (List.cons_prefix_cons.mp hnext).1.symm)
  have hhere : o.toList.isPrefixOf (d :: cs) = true := by
    rw [ho]
    simp
  unfold operator?
  rw [hops, List.find?_append, hnone, List.find?_cons, hhere]
  have hlength : o.length = 1 := by
    rw [← String.length_toList, ho]
    rfl
  simp [hlength]

/-- What begins neither a name nor a number is an operator. -/
theorem word_operator {c : Char} {cs rest : List Char} {o : String} (hstart : isIdentifierStart c = false)
    (hnumber : afterNumber? (c :: cs) = none) (hop : operator? (c :: cs) = some (o, rest)) :
    word (c :: cs) = (.op o, rest) := by
  unfold word
  simp [hstart, hnumber, hop]

/-- A mark that ends here is read as that mark. -/
theorem word_mark (m : Mark) {cs : List Char} (h : m.endsBefore cs.head? = true) :
    word (m.char :: cs) = (m.symbol, cs) := by
  cases m with
  | opening => rfl
  | closing => rfl
  | colon =>
      refine word_operator (by decide) rfl ?_
      exact operator?_single (operators.takeWhile (· != ":")) (operators.dropWhile (· != ":")).tail
        (by decide +kernel) (by decide +kernel) (by decide +kernel)
        (show cs.head? ≠ some '=' by simpa [Mark.endsBefore] using h)
  | decorator =>
      refine word_operator (by decide) rfl ?_
      exact operator?_single (operators.takeWhile (· != "@")) (operators.dropWhile (· != "@")).tail
        (by decide +kernel) (by decide +kernel) (by decide +kernel)
        (show cs.head? ≠ some '=' by simpa [Mark.endsBefore] using h)
  | dot =>
      have hdigit : startsWithDigit cs = false := by
        cases cs with
        | nil => rfl
        | cons c cs =>
            simp only [Mark.endsBefore, List.head?_cons, Option.all_some, Bool.and_eq_true,
              Bool.not_eq_true'] at h
            exact h.2
      have hdot : cs.head? ≠ some '.' := by
        intro hdot
        rw [hdot] at h
        cases h
      have hnumber : afterNumber? ('.' :: cs) = none := by
        show (if startsWithDigit cs then _ else none) = _
        rw [hdigit]
        rfl
      refine word_operator (by decide) hnumber ?_
      exact operator?_single (operators.takeWhile (· != ".")) (operators.dropWhile (· != ".")).tail
        (by decide +kernel) (by decide +kernel) (by decide +kernel) hdot

/-- The characters of a name. -/
theorem chars_of_isName {text : String} (h : isName text = true) :
    ∃ c rest, text.toList = c :: rest ∧ isIdentifierStart c = true
      ∧ text.toList.all isIdentifierContinue = true := by
  unfold isName at h
  split at h
  · cases h
  · rename_i c rest hchars
    obtain ⟨hc, hrest⟩ := Bool.and_eq_true_iff.mp h
    refine ⟨c, rest, hchars, hc, ?_⟩
    rw [hchars, List.all_cons, isIdentifierContinue_of_start hc, hrest]
    rfl

/-- A name that ends here is read as that name. -/
theorem word_name {text : String} (h : isName text = true) {cs : List Char}
    (hcs : cs.head?.all (fun c => !isIdentifierContinue c && !isQuote c) = true) :
    word (text.toList ++ cs) = (.name text, cs) := by
  obtain ⟨c, rest, hchars, hc, hall⟩ := chars_of_isName h
  have hstop : cs.head?.all (fun c => !isIdentifierContinue c) = true := by
    cases cs with
    | nil => rfl
    | cons d cs => exact (Bool.and_eq_true_iff.mp hcs).1
  obtain ⟨htake, hdrop⟩ := takeWhile_append_stop hall hstop
  rw [hchars, List.cons_append] at htake hdrop ⊢
  unfold word
  simp only [hc, if_true, htake, hdrop]
  rw [← hchars, String.ofList_toList]

/-- Plain text runs up to the closing quotes. -/
theorem scanText_plain {d : Delimiter} (hd : d = ⟨'"', true, false, false, false⟩) {content : List Char}
    (h : content.all isPlain = true) (fresh : Bool) (cs : List Char) :
    scanText d 0 fresh (content ++ (Word.quotes ++ cs)) = .closed cs := by
  subst hd
  induction content generalizing fresh with
  | nil => rfl
  | cons c content ih =>
      obtain ⟨hc, hrest⟩ := Bool.and_eq_true_iff.mp (List.all_cons ▸ h)
      simp only [isPlain, Bool.and_eq_true, bne_iff_ne, ne_eq] at hc
      rw [List.cons_append, scanText]
      simp [hc.1.1, hc.1.2, hc.2, ih hrest]

/-! ## §4. Lines -/

/-- Breaks at the end of a source give its end. -/
theorem spells_end {gap : List Char} (hgap : gap.all Word.isBreak = true) :
    Spells gap [⟨gap, .eof, false⟩] := by
  intro fuel hfuel
  obtain ⟨fuel, rfl⟩ : ∃ n, fuel = n + 1 := ⟨fuel - 1, by omega⟩
  have htake : takeGap false gap = (gap, []) := by
    have hbreaks : takeGap false (gap ++ []) = (gap, []) := takeGap_breaks hgap rfl
    rwa [List.append_nil] at hbreaks
  rw [tokensFrom]
  · simp only [htake]
    rfl
  all_goals simp

/-- A name or mark: what the lexer does unless a string literal opens. -/
theorem spells_plain {gap w cs : List Char} (hgap : gap.all Word.isBreak = true) (hne : w ≠ [])
    {s : Symbol} (htake : takeGap false (w ++ cs) = ([], w ++ cs))
    (hopen : openString? (w ++ cs) = none) (hword : word (w ++ cs) = (s, cs))
    (hgoes : (s == .eof || s == .invalid) = false) {pieces : List Piece} (h : Spells cs pieces) :
    Spells (gap ++ (w ++ cs)) (⟨gap, s, false⟩ :: pieces) := by
  intro fuel hfuel
  obtain ⟨fuel, rfl⟩ : ∃ n, fuel = n + 1 := ⟨fuel - 1, by omega⟩
  have hlength := List.length_pos_iff.mpr hne
  simp only [List.length_append] at hfuel
  have hrest := h fuel (by omega)
  rw [tokensFrom]
  · simp only [takeGap_breaks hgap htake, hopen, hword, hgoes]
    simp [Token.piece, hrest]
  all_goals simp

/-- **One word**: the gap before it and the word give one token, if the word ends where the text goes
    on. -/
theorem spells_word {gap cs : List Char} (hgap : gap.all Word.isBreak = true) (w : Word)
    (hend : w.endsBefore cs.head? = true) {pieces : List Piece} (h : Spells cs pieces) :
    Spells (gap ++ (w.chars ++ cs)) (⟨gap, w.symbol, false⟩ :: pieces) := by
  cases w with
  | name text named =>
      obtain ⟨c, rest, hchars, hc, hall⟩ := chars_of_isName named
      refine spells_plain hgap ?_ ?_ (openString?_name hall hend) (word_name named hend) rfl h
      · simp [hchars]
      · simp only [hchars, List.cons_append]
        exact takeGap_nil (isSpace_of_start hc) (isIdentifierStart_ne hc (by decide))
          (isIdentifierStart_ne hc (by decide)) _
  | mark m =>
      refine spells_plain hgap (by simp [Word.chars]) ?_ ?_ (word_mark m hend) ?_ h
      · refine takeGap_nil ?_ ?_ ?_ cs
        all_goals cases m <;> decide
      · refine openString?_none ?_ ?_ cs
        all_goals cases m <;> decide
      · cases m <;> rfl
  | quoted content plain =>
      intro fuel hfuel
      obtain ⟨fuel, rfl⟩ : ∃ n, fuel = n + 1 := ⟨fuel - 1, by omega⟩
      have htake : takeGap false (gap ++ ((Word.quoted content plain).chars ++ cs))
          = (gap, (Word.quoted content plain).chars ++ cs) :=
        takeGap_breaks hgap (takeGap_nil (by decide) (by decide) (by decide) _)
      have hopen : openString? ((Word.quoted content plain).chars ++ cs)
          = some (⟨'"', true, false, false, false⟩, content ++ (Word.quotes ++ cs)) := by
        simp only [Word.chars, List.append_assoc]
        rfl
      have hrest := h fuel (by simp [Word.chars, Word.quotes] at hfuel; omega)
      rw [tokensFrom]
      · simp only [htake, hopen, scanText_plain rfl plain true cs]
        simp [Token.piece, Word.symbol, hrest]
      all_goals simp

/-- Whether no word goes on into the next one; each word after the first tells whether a space stands
    before it. -/
def separated : Word → List (Bool × Word) → Bool
  | _, [] => true
  | w, (space, v) :: rest => (space || w.endsBefore v.chars.head?) && separated v rest

/-- A line without its indentation and its end. -/
structure Line where
  /-- The first word. -/
  first : Word
  /-- The others, each with whether a space stands before it. -/
  rest : List (Bool × Word)
  /-- No word goes on into the next one. -/
  separated : separated first rest = true

/-- What stands between two words of a line. -/
def spacing (space : Bool) : List Char :=
  if space then [' '] else []

namespace Line

/-- Words after the first, as spelled. -/
def charsAfter (rest : List (Bool × Word)) : List Char :=
  rest.flatMap fun (space, w) => spacing space ++ w.chars

/-- Words after the first, as pieces. -/
def piecesAfter (rest : List (Bool × Word)) : List Piece :=
  rest.map fun (space, w) => ⟨spacing space, w.symbol, false⟩

/-- The line as spelled. -/
def chars (l : Line) : List Char :=
  l.first.chars ++ charsAfter l.rest

/-- The line as pieces, with the gap before it. -/
def pieces (l : Line) (gap : List Char) : List Piece :=
  ⟨gap, l.first.symbol, false⟩ :: piecesAfter l.rest

end Line

theorem spells_words {gap : List Char} (hgap : gap.all Word.isBreak = true) {w : Word}
    {rest : List (Bool × Word)} (hsep : separated w rest = true) {cs : List Char}
    (hcs : cs.head?.all Word.isBreak = true) {pieces : List Piece} (h : Spells cs pieces) :
    Spells (gap ++ (w.chars ++ (Line.charsAfter rest ++ cs)))
      (⟨gap, w.symbol, false⟩ :: (Line.piecesAfter rest ++ pieces)) := by
  induction rest generalizing gap w with
  | nil => exact spells_word hgap w (w.endsBefore_break hcs) h
  | cons p rest ih =>
      obtain ⟨space, v⟩ := p
      obtain ⟨hhere, hlater⟩ := Bool.and_eq_true_iff.mp hsep
      have hspacing : (spacing space).all Word.isBreak = true := by
        cases space <;> rfl
      have hrest := ih hspacing hlater
      have hchars : Line.charsAfter ((space, v) :: rest) ++ cs
          = spacing space ++ (v.chars ++ (Line.charsAfter rest ++ cs)) := by
        simp [Line.charsAfter]
      have hend : w.endsBefore
          (spacing space ++ (v.chars ++ (Line.charsAfter rest ++ cs))).head? = true := by
        cases space with
        | true => exact w.endsBefore_break rfl
        | false =>
            have hv : v.chars ≠ [] := by
              cases v with
              | name text named =>
                  obtain ⟨c, more, hchars, -⟩ := chars_of_isName named
                  simp [Word.chars, hchars]
              | mark m => simp [Word.chars]
              | quoted content plain => simp [Word.chars, Word.quotes]
            cases hword : v.chars with
            | nil => exact absurd hword hv
            | cons c more => simpa [spacing, hword] using hhere
      rw [hchars]
      exact spells_word hgap w hend hrest

/-- **One line**: it gives its words, whatever stands on the lines after it. -/
theorem spells_line {gap : List Char} (hgap : gap.all Word.isBreak = true) (l : Line)
    {cs : List Char} (hcs : cs.head?.all Word.isBreak = true) {pieces : List Piece}
    (h : Spells cs pieces) : Spells (gap ++ (l.chars ++ cs)) (l.pieces gap ++ pieces) := by
  have hwords := spells_words hgap l.separated hcs h
  simpa [Line.chars, Line.pieces] using hwords

end TestScaffold.Python
