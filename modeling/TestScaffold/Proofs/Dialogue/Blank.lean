/-
  TestScaffold.Proofs.Dialogue.Blank — who names paths and says nothing else keeps everything.

  Blank lines below the one with the paths are as good as the end of the input, and at the
  end of the input every answer is blank.  A blank answer says nothing, with one exception:
  a framework whose classes have hooks gets its class without being asked.  A line that is
  no text ends the dialogue if it stands above the paths.

    * `entriesOf`, `readPaths_after` — the line that names the paths;
    * `readFilter_silence`, `readRender_silence` — what is said at the end of the input;
    * `runDialogue_blank` — a dialogue in which only paths are named.
-/
import TestScaffold.Proofs.Dialogue.Answers
import TestScaffold.Proofs.Dialogue.Ending

namespace TestScaffold

/-! ## §1. The line with the paths -/

/-- The entries of a line; bytes that are no text have none. -/
def entriesOf : InputLine → List String
  | some text => Answer.list text
  | none => []

/-- The first line with entries names the paths, unless a line above it is no text. -/
theorem readPaths_after {before rest : List InputLine} {line : InputLine}
    (hbefore : ∀ l ∈ before, entriesOf l = []) (hline : entriesOf line ≠ []) :
    readPaths (before ++ line :: rest)
      = if none ∈ before then .error (.prompt .notUtf8) else .ok (entriesOf line, rest) := by
  induction before with
  | nil =>
      cases line with
      | none => exact absurd rfl hline
      | some text =>
          rw [List.nil_append, readPaths, Answer.list_trim, if_neg List.not_mem_nil, entriesOf]
          obtain ⟨path, paths, hlist⟩ := List.exists_cons_of_ne_nil hline
          rw [show Answer.list text = path :: paths from hlist]
  | cons first before ih =>
      have hrest := ih fun l hl => hbefore l (List.mem_cons_of_mem first hl)
      cases first with
      | none => rw [List.cons_append, readPaths, if_pos List.mem_cons_self]
      | some text =>
          have hnone : Answer.list text = [] := hbefore (some text) List.mem_cons_self
          rw [List.cons_append, readPaths, Answer.list_trim, hnone]
          simp only [List.mem_cons, reduceCtorEq, false_or]
          exact hrest

/-! ## §2. Silence -/

theorem readFilter_silence : readFilter [] = .ok ({}, []) := rfl

/-- A class with hooks is there without being asked for; nothing else is said. -/
theorem readRender_silence (framework : Framework) (wrapInClass : Bool) :
    readRender framework wrapInClass []
      = .ok ({ wrapInClass? := if framework = .unittest then some true else none }, []) := by
  cases framework <;> cases wrapInClass <;> rfl

/-- The normal form of the settings, with a class wherever the framework has hooks. -/
def Settings.keptOnSilence (base : Settings) : Settings :=
  { base.normalized.1 with
    render :=
      { base.normalized.1.render with
        wrapInClass := base.render.framework == .unittest || base.render.wrapInClass } }

/-- Silence on top of settings, in normal form. -/
theorem silence_normalized (base : Settings) :
    (Answers.apply
      { render := { wrapInClass? := if base.render.framework = .unittest then some true else none } }
      base).normalized.1 = base.keptOnSilence := by
  have hwrap : (if base.render.framework = .unittest then some true else none).getD base.render.wrapInClass
      = (base.render.framework == .unittest || base.render.wrapInClass) := by
    cases base.render.framework <;> rfl
  rw [Settings.keptOnSilence, Answers.apply, FilterAnswers.apply, RenderAnswers.apply]
  simp only [List.append_nil, Option.getD_none, hwrap, Settings.normalized]
  -- whether the indentation is zero
  split <;> rfl

theorem read_bind_ok {r : Reading α} {k : α → Reading β} {lines rest : List InputLine} {a : α}
    (h : r lines = .ok (a, rest)) : (r >>= k) lines = k a rest := by
  show (r lines >>= fun p => k p.1 p.2) = _
  rw [h]
  rfl

theorem read_bind_error {r : Reading α} {k : α → Reading β} {lines : List InputLine} {failure : Failure}
    (h : r lines = .error failure) : (r >>= k) lines = .error failure := by
  show (r lines >>= fun p => k p.1 p.2) = _
  rw [h]
  rfl

/-- Where nothing stands below the paths, a dialogue keeps the rest. -/
theorem dialogue_silence (base : Settings) {lines : List InputLine} {paths : List String}
    (hpaths : readPaths lines = .ok (paths, [])) :
    ((dialogue base).run { lines }).1 = .ok (paths, base.keptOnSilence) := by
  have hagree := dialogue_follows base { lines } rfl
  rw [readAnswers, read_bind_ok hpaths, read_bind_ok readFilter_silence,
    read_bind_ok (readRender_silence _ _)] at hagree
  rw [← silence_normalized]
  exact hagree.1

theorem dialogue_unreadable (base : Settings) {lines : List InputLine} {failure : Failure}
    (hpaths : readPaths lines = .error failure) :
    ((dialogue base).run { lines }).1 = .error failure := by
  have hagree := dialogue_follows base { lines } rfl
  rw [readAnswers, read_bind_error hpaths] at hagree
  exact hagree

/-- **Who names paths and says nothing else keeps everything.**  If the first line with entries is
    followed by blank lines only, the entries are the paths and the settings are the normal form of
    the base, with a class wherever the framework has hooks, unless a line above is no text: then
    the dialogue ends there. -/
theorem runDialogue_blank (base : Settings) {input : ByteArray} {before after : List InputLine}
    {line : InputLine} (hlines : inputLines input = before ++ line :: after)
    (hbefore : ∀ l ∈ before, entriesOf l = []) (hline : entriesOf line ≠ [])
    (hafter : ∀ l ∈ after, heard l = some "") :
    (runDialogue base input).1
      = if none ∈ before then .error (.prompt .notUtf8) else .ok (entriesOf line, base.keptOnSilence) := by
  have hpaths : readPaths (before ++ [line])
      = if none ∈ before then .error (.prompt .notUtf8) else .ok (entriesOf line, []) :=
    readPaths_after hbefore hline
  have hshort : ((dialogue base).run { lines := before ++ [line] }).1
      = if none ∈ before then .error (.prompt .notUtf8) else .ok (entriesOf line, base.keptOnSilence) := by
    split
    · rename_i hnone
      rw [if_pos hnone] at hpaths
      exact dialogue_unreadable base hpaths
    · rename_i hnone
      rw [if_neg hnone] at hpaths
      exact dialogue_silence base hpaths
  -- the blank lines below make no difference
  have hprolonged : Prolonged { lines := before ++ [line] } { lines := inputLines input } := by
    refine ⟨?_, rfl, rfl, rfl⟩
    have hbelow := BlankBelow.append (before ++ [line]) hafter
    rwa [List.append_assoc, List.singleton_append, ← hlines] at hbelow
  have hfound : ((dialogue base).run { lines := before ++ [line] }).1 ≠ .error .missingPaths := by
    rw [hshort]
    split <;> exact nofun
  exact ((dialogue_spoken base).indifferent _ _ hprolonged hfound).1.trans hshort

/-- Settings that no dialogue would come to. -/
def unaskedFor : Settings :=
  { filter := { foldersToIgnore := ["tests", " tests "] }
    render := { outputDir := ".", outcome := .statement "x = 1", indentSize := 0, wrapInClass := false } }

theorem runDialogue_blank_unasked :
    inputLines "\n;\nsrc;lib\n \n\n".toUTF8
        = [some "\n", some ";\n"] ++ some "src;lib\n" :: [some " \n", some "\n"]
      ∧ (∀ l ∈ [some "\n", some ";\n"], entriesOf l = []) ∧ entriesOf (some "src;lib\n") ≠ []
      ∧ (∀ l ∈ [some " \n", some "\n"], heard l = some "")
      ∧ (runDialogue unaskedFor "\n;\nsrc;lib\n \n\n".toUTF8).1
        = .ok (["src", "lib"],
            { filter := { foldersToIgnore := ["tests"] }
              render := { outputDir := ".", outcome := .statement "x = 1", indentSize := 2, wrapInClass := true } }) := by
  have hlines : inputLines "\n;\nsrc;lib\n \n\n".toUTF8
      = [some "\n", some ";\n"] ++ some "src;lib\n" :: [some " \n", some "\n"] := by decide +kernel
  have hbefore : ∀ l ∈ [some "\n", some ";\n"], entriesOf l = [] := by decide +kernel
  have hline : entriesOf (some "src;lib\n") ≠ [] := by decide +kernel
  have hafter : ∀ l ∈ [some " \n", some "\n"], heard l = some "" := by decide +kernel
  have hkept : unaskedFor.keptOnSilence
      = { filter := { foldersToIgnore := ["tests"] }
          render := { outputDir := ".", outcome := .statement "x = 1", indentSize := 2, wrapInClass := true } } := by
    decide +kernel
  have hpaths : entriesOf (some "src;lib\n") = ["src", "lib"] := by decide +kernel
  have hrun := runDialogue_blank unaskedFor hlines hbefore hline hafter
  rw [hkept, hpaths, if_neg (by decide)] at hrun
  exact ⟨hlines, hbefore, hline, hafter, hrun⟩

/-- A line above the paths that is no text ends the dialogue, though the first line with entries is
    the last one. -/
theorem runDialogue_stops_above_paths :
    inputLines ⟨#[0xFF, 10, 0x73, 0x72, 0x63, 10]⟩ = [none, some "src\n"]
      ∧ entriesOf none = [] ∧ entriesOf (some "src\n") = ["src"]
      ∧ (runDialogue {} ⟨#[0xFF, 10, 0x73, 0x72, 0x63, 10]⟩).1 = .error (.prompt .notUtf8)
      ∧ (runDialogue {} ⟨#[0xFF, 10, 0x73, 0x72, 0x63, 10]⟩).1 ≠ .ok (["src"], Settings.keptOnSilence {}) := by
  have hrun : (runDialogue {} ⟨#[0xFF, 10, 0x73, 0x72, 0x63, 10]⟩).1 = .error (.prompt .notUtf8) := by
    decide +kernel
  refine ⟨by decide +kernel, rfl, by decide +kernel, hrun, ?_⟩
  rw [hrun]
  exact nofun

end TestScaffold
