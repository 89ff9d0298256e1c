/-
  TestScaffold.Proofs.Dialogue.Ending — the end of the input says as much as blank lines.

  An answer that is not there is a blank answer, so blank lines below an input change
  nothing, except for the question for paths, which has to be answered.  Line feeds behind
  the bytes of an input are such lines: the first of them may end a line that had no end,
  and it makes no text of bytes that are none.

    * `BlankBelow` — lines, and the same lines with blank ones below;
    * `Indifferent` — a part of a dialogue to which blank lines below make no difference;
    * `Spoken.indifferent` — all parts of a dialogue are;
    * `inputLinesFrom_newlines` — line feeds behind an input are blank lines below it;
    * `runDialogue_newlines` — a dialogue over an input, and over the input with line feeds behind it.
-/
import TestScaffold.Proofs.Dialogue.Parts
import TestScaffold.Proofs.Dialogue.Rounds

namespace TestScaffold

/-! ## §1. Blank lines below -/

/-- What is heard of a line; nothing of bytes that are no text. -/
def heard (line : InputLine) : Option String :=
  line.map Text.trim

/-- Lines of which the same is heard, with blank lines below the second ones. -/
inductive BlankBelow : List InputLine → List InputLine → Prop where
  /-- The lines are at their end. -/
  | blank {more : List InputLine} (hblank : ∀ l ∈ more, heard l = some "") : BlankBelow [] more
  /-- One more line. -/
  | line {l m : InputLine} {lines longer : List InputLine} (hheard : heard m = heard l)
      (hbelow : BlankBelow lines longer) : BlankBelow (l :: lines) (m :: longer)

namespace BlankBelow

theorem append (lines : List InputLine) {more : List InputLine} (hblank : ∀ l ∈ more, heard l = some "") :
    BlankBelow lines (lines ++ more) := by
  induction lines with
  | nil => exact .blank hblank
  | cons l lines ih => exact .line rfl ih

theorem refl (lines : List InputLine) : BlankBelow lines lines := by
  have hnone := append lines fun l (hl : l ∈ []) => absurd hl List.not_mem_nil
  rwa [List.append_nil] at hnone

theorem tail {lines longer : List InputLine} (h : BlankBelow lines longer) :
    BlankBelow lines.tail longer.tail := by
  cases h with
  | blank hblank => exact .blank fun l hl => hblank l (List.mem_of_mem_tail hl)
  | line hheard hbelow => exact hbelow

theorem text {line : String} {rest longer : List InputLine} (h : BlankBelow (some line :: rest) longer) :
    ∃ other below, longer = some other :: below ∧ Text.trim other = Text.trim line := by
  cases h with
  | @line _ m _ below hheard hbelow =>
      obtain ⟨other, rfl, htrim⟩ := Option.map_eq_some_iff.mp hheard
      exact ⟨other, below, rfl, htrim⟩

theorem noText {rest longer : List InputLine} (h : BlankBelow (none :: rest) longer) :
    ∃ below, longer = none :: below := by
  cases h with
  | @line _ m _ below hheard hbelow =>
      obtain rfl := Option.map_eq_none_iff.mp hheard
      exact ⟨below, rfl⟩

end BlankBelow

/-- A session, and the same session with blank lines below its lines. -/
structure Prolonged (s t : Session) : Prop where
  /-- Blank lines stand below. -/
  lines : BlankBelow s.lines t.lines
  /-- The terminal takes as much. -/
  limit? : t.limit? = s.limit?
  /-- The same was asked. -/
  questions : t.questions = s.questions
  /-- The same was remarked on. -/
  notices : t.notices = s.notices

namespace Prolonged

theorem hasRoom {s t : Session} (h : Prolonged s t) (question : String) :
    t.hasRoom question = s.hasRoom question := by
  rw [Session.hasRoom, Session.transcript, h.limit?, h.questions]
  rfl

theorem asked {s t : Session} (h : Prolonged s t) (question : String) :
    Prolonged (s.asked question) (t.asked question) where
  lines := h.lines.tail
  limit? := h.limit?
  questions := congrArg (· ++ [question]) h.questions
  notices := h.notices

end Prolonged

/-! ## §2. Parts of a dialogue -/

/-- **Blank lines below make no difference** to a part of a dialogue, unless paths are missing at the
    end of the lines. -/
def Indifferent (x : Talk α) : Prop :=
  ∀ s t : Session, Prolonged s t → (x.run s).1 ≠ .error .missingPaths →
    (x.run t).1 = (x.run s).1 ∧ Prolonged (x.run s).2 (x.run t).2

namespace Indifferent

theorem bind {x : Talk α} {f : α → Talk β} (hx : Indifferent x) (hf : ∀ a, Indifferent (f a)) :
    Indifferent (x >>= f) := by
  intro s t hst hpaths
  have hfirst := hx s t hst
  match hs : x.run s, ht : x.run t with
  | (.error failure, u), (result, v) =>
      rw [hs, ht] at hfirst
      rw [run_bind_error hs] at hpaths ⊢
      -- a failure that ends the first part is no missing path
      obtain ⟨rfl, huv⟩ := hfirst fun hmissing => hpaths (by cases hmissing; rfl)
      rw [run_bind_error ht]
      exact ⟨rfl, huv⟩
  | (.ok a, u), (result, v) =>
      rw [hs, ht] at hfirst
      obtain ⟨rfl, huv⟩ := hfirst nofun
      rw [run_bind_ok hs] at hpaths ⊢
      rw [run_bind_ok ht]
      exact hf a u v huv hpaths

theorem keepNotices (u : Answer.Understood α) : Indifferent (keepNotices u) := by
  intro s t hst _
  rw [run_keepNotices, run_keepNotices]
  exact ⟨rfl, hst.lines, hst.limit?, hst.questions, congrArg (· ++ u.2) hst.notices⟩

/-- No answer is a blank answer. -/
theorem answer (question : String) : Indifferent (answer question) := by
  intro s t hst _
  have hrooms := hst.hasRoom question
  cases hroom : s.hasRoom question with
  | false =>
      rw [hroom] at hrooms
      rw [run_answer_refused hroom, run_answer_refused hrooms]
      exact ⟨rfl, hst⟩
  | true =>
      rw [hroom] at hrooms
      rw [run_answer_of_room hroom, run_answer_of_room hrooms]
      refine ⟨?_, hst.asked question⟩
      have hlines := hst.lines
      match hs : s.lines with
      | [] =>
          rw [hs] at hlines
          cases hlines with
          | blank hblank =>
              cases ht : t.lines with
              | nil => rfl
              | cons l more =>
                  obtain ⟨line, rfl, htrim⟩ :=
                    Option.map_eq_some_iff.mp (hblank l (ht ▸ List.mem_cons_self))
                  exact congrArg Except.ok htrim
      | some line :: rest =>
          rw [hs] at hlines
          obtain ⟨other, below, ht, htrim⟩ := hlines.text
          rw [ht]
          exact congrArg Except.ok htrim
      | none :: rest =>
          rw [hs] at hlines
          obtain ⟨below, ht⟩ := hlines.noText
          rw [ht]

end Indifferent

/-- The rounds are the same, line by line. -/
theorem PathRounds.prolonged {question : String} {s t u : Session} {result : Except Failure (List String)}
    (h : PathRounds question s result u) (hst : Prolonged s t) (hpaths : result ≠ .error .missingPaths) :
    ∃ v, PathRounds question t result v ∧ Prolonged u v := by
  induction h generalizing t with
  | @refused question s hroom =>
      exact ⟨t, .refused ((hst.hasRoom question).trans hroom), hst⟩
  | ended hroom hlines => exact absurd rfl hpaths
  | @unreadable question s rest hroom hlines =>
      have hbelow := hst.lines
      rw [hlines] at hbelow
      obtain ⟨below, ht⟩ := hbelow.noText
      exact ⟨_, .unreadable ((hst.hasRoom question).trans hroom) ht, hst.asked question⟩
  | @named question s line rest hroom hlines hentries =>
      have hbelow := hst.lines
      rw [hlines] at hbelow
      obtain ⟨other, below, ht, htrim⟩ := hbelow.text
      have hsame : Answer.list line = Answer.list other := by
        rw [← Answer.list_trim line, ← htrim, Answer.list_trim]
      rw [hsame] at hentries ⊢
      exact ⟨_, .named ((hst.hasRoom question).trans hroom) ht hentries, hst.asked question⟩
  | @again question s u line rest result hroom hlines hentries hnext ih =>
      have hbelow := hst.lines
      rw [hlines] at hbelow
      obtain ⟨other, below, ht, htrim⟩ := hbelow.text
      rw [← Answer.list_trim, ← htrim, Answer.list_trim] at hentries
      obtain ⟨v, hrounds, huv⟩ := ih (hst.asked question) hpaths
      exact ⟨v, .again ((hst.hasRoom question).trans hroom) ht hentries hrounds, huv⟩

theorem askSourcePaths_indifferent : Indifferent askSourcePaths := by
  intro s t hst hpaths
  have hrounds : PathRounds Question.paths s (askSourcePaths.run s).1 (askSourcePaths.run s).2 :=
    askSourcePaths_eq_iff.mp rfl
  obtain ⟨v, hlonger, huv⟩ := hrounds.prolonged hst hpaths
  rw [askSourcePaths_eq_iff.mpr hlonger]
  exact ⟨rfl, huv⟩

/-- **Blank lines below make no difference to any part of a dialogue.** -/
theorem Spoken.indifferent {x : Talk α} (h : Spoken x) : Indifferent x := by
  induction h with
  | pure a => exact fun s t hst _ => ⟨rfl, hst⟩
  | bind hx hf ihx ihf => exact ihx.bind ihf
  | answer question => exact Indifferent.answer question
  | keepNotices u => exact Indifferent.keepNotices u
  | askSourcePaths => exact askSourcePaths_indifferent

/-! ## §3. Line feeds behind an input -/

theorem utf8_newlines (k : Nat) : utf8 (String.ofList (List.replicate k '\n')) = List.replicate k 10 := by
  have hfeed : String.utf8EncodeChar '\n' = [10] := by decide
  rw [utf8_eq, String.toList_ofList]
  induction k with
  | zero => rfl
  | succ k ih => rw [List.replicate_succ, List.flatMap_cons, ih, hfeed]; rfl

theorem heard_newline {line : InputLine} : heard (line.map (· ++ "\n")) = heard line := by
  cases line with
  | none => rfl
  | some text => exact congrArg some (Text.trim_append_newline text)

/-- Line feeds alone are blank lines. -/
theorem blank_of_mem_newlines {k : Nat} {l : InputLine} (h : l ∈ inputLinesFrom [] (List.replicate k 10)) :
    heard l = some "" := by
  induction k with
  | zero => exact absurd h List.not_mem_nil
  | succ k ih =>
      rw [List.replicate_succ, inputLinesFrom, if_pos rfl] at h
      rcases List.mem_cons.mp h with rfl | h
      · rw [show [10].reverse = [] ++ [(10 : UInt8)] from rfl, lineOfBytes_newline, heard_newline]
        decide
      · exact ih h

/-- **Line feeds behind an input are blank lines below it**; the first one may end its last line. -/
theorem inputLinesFrom_newlines (pending bytes : List UInt8) (k : Nat) :
    BlankBelow (inputLinesFrom pending bytes) (inputLinesFrom pending (bytes ++ List.replicate k 10)) := by
  -- on the bytes, what was read of the line being pending
  induction bytes generalizing pending with
  | nil =>
      cases k with
      | zero => exact .refl _
      | succ k =>
          rw [List.nil_append, List.replicate_succ, inputLinesFrom, inputLinesFrom, if_pos rfl,
            List.reverse_cons]
          split
          · -- the input ended with a line feed, or is empty
            rename_i hpending
            rw [List.isEmpty_iff.mp hpending]
            exact .blank fun l hl => blank_of_mem_newlines (k := k + 1) hl
          · refine .line ?_ (.blank fun l hl => blank_of_mem_newlines hl)
            rw [lineOfBytes_newline, heard_newline]
  | cons b bytes ih =>
      rw [List.cons_append, inputLinesFrom, inputLinesFrom]
      split
      · exact .line rfl (ih [])
      · exact ih (b :: pending)

/-- **The end of the input says as much as blank lines.**  Unless paths are missing, a dialogue over an
    input and one over the input with line feeds behind it come to the same, ask the same and remark
    on the same, whatever the terminal takes. -/
theorem runDialogue_newlines (base : Settings) (input : ByteArray) (limit? : Option Nat) (k : Nat)
    (hpaths : (runDialogue base input limit?).1 ≠ .error .missingPaths) :
    let given := runDialogue base input limit?
    let longer := runDialogue base (input ++ (String.ofList (List.replicate k '\n')).toUTF8) limit?
    longer.1 = given.1 ∧ longer.2.transcript = given.2.transcript ∧ longer.2.notices = given.2.notices := by
  intro given longer
  have hlines : inputLines (input ++ (String.ofList (List.replicate k '\n')).toUTF8)
      = inputLinesFrom [] (input.data.toList ++ List.replicate k 10) := by
    rw [inputLines, ByteArray.data_append, Array.toList_append, ← utf8_newlines]
    rfl
  have hprolonged : Prolonged { lines := inputLines input, limit? }
      { lines := inputLines (input ++ (String.ofList (List.replicate k '\n')).toUTF8), limit? } := by
    refine ⟨?_, rfl, rfl, rfl⟩
    show BlankBelow (inputLines input) _
    rw [hlines]
    exact inputLinesFrom_newlines [] input.data.toList k
  obtain ⟨hresult, hafter⟩ := (dialogue_spoken base).indifferent _ _ hprolonged hpaths
  exact ⟨hresult, congrArg String.join hafter.questions, hafter.notices⟩

/-- The line in which the input stops is an answer as well. -/
theorem runDialogue_newlines_unended :
    let given := runDialogue {} "src\n\n\ns".toUTF8
    let longer := runDialogue {} ("src\n\n\ns".toUTF8 ++ (String.ofList (List.replicate 3 '\n')).toUTF8)
    given.1 = .ok (["src"], { render := { outputDir := "." } }) ∧ given.1 ≠ .error .missingPaths
      ∧ longer.1 = given.1 ∧ longer.2.transcript = given.2.transcript ∧ longer.2.notices = given.2.notices := by
  have hgiven : (runDialogue {} "src\n\n\ns".toUTF8).1 = .ok (["src"], { render := { outputDir := "." } }) := by
    decide +kernel
  have hpaths : (runDialogue {} "src\n\n\ns".toUTF8).1 ≠ .error .missingPaths := by
    rw [hgiven]
    exact nofun
  exact ⟨hgiven, hpaths, runDialogue_newlines {} "src\n\n\ns".toUTF8 none 3 hpaths⟩

end TestScaffold
