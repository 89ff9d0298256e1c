/-
  TestScaffold.Proofs.CommandLine.Stops — why a run stops, and what it leaves behind.

  Everything that a run looks at before its first test module is written leaves the file
  system alone: the words, the settings file, the answers and the paths, down to the last.
  A batch that was started stops only when an output cannot be made; and where its text is
  longer than any text can be, the run ends on the spot.

    * `generate_error` — a batch stops at a path that is refused, before anything is written,
      or because of an output, or on the spot;
    * `run_cases` — the ways in which a run ends;
    * `run_leaves_no_trace` — a run that fails for any other reason than an output changes
      nothing, unless it ends on the spot;
    * `run_leaves_directory` — which leaves a directory behind;
    * `generate_error_kinds` — the failures of a batch, kind by kind;
    * `validatePath_ok_iff_expand` — what the arguments are checked for is what the batch asks of
      its paths;
    * `checks_agree_with_batch` — so a path that was checked does not stop a batch as one that
      leads nowhere.
-/
import TestScaffold.CommandLine.Run
import TestScaffold.Proofs.Batch.Isolation
import TestScaffold.Proofs.Discovery.FirstSpelling

namespace TestScaffold

/-- Failures to make an output: its directory cannot be made, it cannot be written, or it would
    replace its own source. -/
def Failure.concernsOutput : Failure → Bool
  | createDirectory .. | write .. | overwritesSource .. => true
  | _ => false

theorem Failure.concernsOutput_iff {failure : Failure} :
    failure.concernsOutput = true ↔ (∃ path cause, failure = .createDirectory path cause)
      ∨ (∃ path cause, failure = .write path cause) ∨ ∃ path, failure = .overwritesSource path := by
  cases failure <;> simp [concernsOutput]

/-! ## §1. Why a batch stops -/

namespace FileSystem

/-- Writing tests fails at the guard, at the directories or at the file, each a matter of the
    output; or its text cannot be built. -/
theorem writeTests_error {fs after : FileSystem} {m : SourceModule} {r : RenderSettings}
    {failure : Failure} (h : fs.writeTests m r = (after, .error failure)) :
    failure.concernsOutput = true ∨ failure = .textTooLong := by
  unfold writeTests at h
  simp only at h
  split at h
  · cases h
    exact Or.inl rfl
  · split at h
    · cases h
      exact Or.inl rfl
    · split at h
      · cases h
        exact Or.inr rfl
      · split at h
        · cases h
        · cases h
          exact Or.inl rfl

/-- A source that ends the batch does so because of its output. -/
theorem process_error {fs after : FileSystem} {r : RenderSettings} {t : ByteString} {failure : Failure}
    (h : fs.process r t = (after, .error failure)) (hfatal : failure.isPerModule = false) :
    failure.concernsOutput = true ∨ failure = .textTooLong := by
  unfold process at h
  split at h
  · -- a failure to scan would not end the batch
    rename_i own hscan
    cases h
    rw [scanFile_error hscan] at hfatal
    cases hfatal
  · split at h
    · cases h
    · split at h
      · cases h
      · rename_i done own hwrite
        cases h
        exact writeTests_error hwrite

/-- Why a path is refused: it leads nowhere, or a directory below it cannot be listed. -/
inductive RefusedFor (fs : FileSystem) (paths : List ByteString) : Failure → Prop where
  /-- A path that leads nowhere. -/
  | invalidPath {p : ByteString} : p ∈ paths → fs.leads p = false → RefusedFor fs paths (.invalidPath p)
  /-- A path to a directory. -/
  | scanDirectory {p directory : ByteString} {cause : IoFault} :
      p ∈ paths → fs.isDirectory p = true →
      RefusedFor fs paths (.scanDirectory p directory cause)

theorem collect_error {fs : FileSystem} {filter : FilterSettings} {paths : List ByteString}
    {failure : Failure} (h : fs.collect filter paths = .error failure) :
    RefusedFor fs paths failure := by
  obtain ⟨before, p, later, rfl, -, ⟨hleads, rfl⟩ | hlisted⟩ :=
    expandAll_error_iff.mp (collect_eq_error_iff.mp h)
  · exact .invalidPath (by simp) hleads
  · obtain ⟨-, hdir⟩ := isDirectory_of_filesBelow_error hlisted
    obtain ⟨directory, rfl⟩ := scanDirectory_of_filesBelow_error hlisted
    exact .scanDirectory (by simp) hdir

/-- A refused path is no matter of a single source. -/
theorem RefusedFor.isPerModule {fs : FileSystem} {paths : List ByteString} {failure : Failure}
    (h : RefusedFor fs paths failure) : failure.isPerModule = false := by
  cases h <;> rfl

/-- **Why a batch stops**: a path is refused, and nothing was written; or an output cannot be made;
    or its text cannot be built. -/
theorem generate_error {fs after : FileSystem} {s : Settings} {paths : List ByteString}
    {failure : Failure} (h : fs.generate s paths = (after, .error failure)) :
    (RefusedFor fs paths failure ∧ after = fs)
      ∨ ((failure.concernsOutput = true ∨ failure = .textTooLong)
        ∧ failure.isPerModule = false) := by
  unfold generate at h
  split at h
  · obtain ⟨-, t, -, mid, -, -, -, hstep, hfatal⟩ := processAll_error_iff.mp h
    exact Or.inr ⟨process_error hstep hfatal, hfatal⟩
  · rename_i own hcollect
    cases h
    exact Or.inl ⟨collect_error hcollect, rfl⟩

end FileSystem

namespace CommandLine

open FileSystem

/-! ## §2. Checks -/

theorem pathExists_of_leads {fs : FileSystem} {path : ByteString} (h : fs.leads path = true) :
    fs.pathExists path = true := by
  unfold leads isFile isDirectory at h
  unfold pathExists
  cases he : fs.entryAt path with
  | ok found => rfl
  | error fault =>
      rw [he] at h
      cases h

/-- **A path passes its check exactly if it leads to a file or a directory.** -/
theorem validatePath_ok_iff {fs : FileSystem} {path : ByteString} :
    validatePath fs path = .ok () ↔ fs.leads path = true := by
  unfold validatePath
  cases hleads : fs.leads path with
  | true =>
      have hexists := pathExists_of_leads hleads
      unfold leads at hleads
      simp [hexists, hleads]
  | false =>
      unfold leads at hleads
      rw [hleads]
      split <;> simp

theorem leads_of_forM {fs : FileSystem} {paths : List ByteString}
    (h : paths.forM (validatePath fs) = .ok ()) : ∀ p ∈ paths, fs.leads p = true := by
  induction paths with
  | nil => simp
  | cons path rest ih =>
      unfold List.forM at h
      cases hpath : validatePath fs path with
      | error c =>
          rw [hpath] at h
          cases h
      | ok _ =>
          rw [hpath] at h
          intro p hp
          rcases List.mem_cons.mp hp with rfl | hp
          · exact validatePath_ok_iff.mp hpath
          · exact ih h p hp

/-- Arguments that pass their checks name files and directories only. -/
theorem leads_of_validate {a : Arguments} {fs : FileSystem} (h : a.validate fs = .ok ()) :
    ∀ p ∈ a.paths, fs.leads p = true := by
  refine leads_of_forM ?_
  unfold Arguments.validate at h
  cases hpaths : a.paths.forM (validatePath fs) with
  | ok _ => rfl
  | error c =>
      rw [hpaths] at h
      cases h

/-! ## §3. Runs -/

/-- A stop before the batch. -/
def Stop.isEarly : Stop → Bool
  | batch _ => false
  | _ => true

/-- **The ways in which a run ends**: the words are no run, it stops before its batch, or it ends as
    its batch ends; without a dialogue the batch has the paths of the arguments. -/
theorem run_cases (fs : FileSystem) (words : List ByteString) (input : ByteArray) :
    (∃ fault, Arguments.parse words = .error fault ∧ run fs words input = (fs, .ofUsage fault))
    ∨ (∃ output stop, run fs words input = (fs, .stopped output stop) ∧ stop.isEarly = true)
    ∨ ∃ a output s paths, Arguments.parse words = .ok a ∧ a.validate fs = .ok ()
        ∧ (a.interactive = false → paths = a.paths)
        ∧ run fs words input = generateAll fs a.quiet output s paths := by
  unfold run
  cases hparse : Arguments.parse words with
  | error fault => exact Or.inl ⟨fault, rfl, rfl⟩
  | ok a =>
      refine Or.inr ?_
      unfold runArguments
      simp only
      cases hvalidate : a.validate fs with
      | error c => exact Or.inl ⟨_, _, rfl, rfl⟩
      | ok _ =>
          cases hsettings : a.settings fs with
          | error c => exact Or.inl ⟨_, _, rfl, rfl⟩
          | ok loaded =>
              obtain ⟨s, notices⟩ := loaded
              cases hinteractive : a.interactive with
              | false => exact Or.inr ⟨a, "", s, a.paths, rfl, hvalidate, fun _ => rfl, rfl⟩
              | true =>
                  simp only [if_true]
                  cases hdialogue : runDialogue s input with
                  | mk result session =>
                      cases result with
                      | error f => exact Or.inl ⟨_, _, rfl, rfl⟩
                      | ok answered =>
                          refine Or.inr ⟨a, session.transcript, answered.2, answered.1.map .ofText, rfl,
                            hvalidate, ?_, rfl⟩
                          intro hnot
                          rw [hinteractive] at hnot
                          cases hnot

/-- How a batch ends a run. -/
theorem generateAll_cases (fs : FileSystem) (quiet : Bool) (output : String) (s : Settings)
    (paths : List ByteString) :
    (∃ after report, fs.generate s paths = (after, .ok report)
        ∧ (generateAll fs quiet output s paths).1 = after
        ∧ (generateAll fs quiet output s paths).2.code = 0
        ∧ (generateAll fs quiet output s paths).2.stop? = none)
    ∨ ∃ after failure, fs.generate s paths = (after, .error failure)
        ∧ generateAll fs quiet output s paths = (after, .stopped output (.batch failure)) := by
  unfold generateAll
  cases hgenerate : fs.generate s paths with
  | mk after result =>
      cases result with
      | ok report => exact Or.inl ⟨after, report, rfl, rfl, rfl, rfl⟩
      | error failure => exact Or.inr ⟨after, failure, rfl, rfl⟩

/-- **The failures of a batch** concern one of its paths or an output, or are no more than its end. -/
theorem generate_error_kinds {fs : FileSystem} {s : Settings} {paths : List ByteString}
    {failure : Failure} (h : (fs.generate s paths).2 = .error failure) :
    failure.isPerModule = false
      ∧ (failure.isAbort = false →
        (∃ p ∈ paths, failure = .invalidPath p)
        ∨ (∃ p ∈ paths, ∃ directory cause, failure = .scanDirectory p directory cause)
        ∨ (∃ path cause, failure = .createDirectory path cause)
        ∨ (∃ path cause, failure = .write path cause)
        ∨ ∃ path, failure = .overwritesSource path) := by
  obtain ⟨hrefused, -⟩ | ⟨houtput | rfl, hfatal⟩ := generate_error (Prod.ext rfl h)
  · refine ⟨hrefused.isPerModule, fun _ => ?_⟩
    cases hrefused with
    | invalidPath hp _ => exact Or.inl ⟨_, hp, rfl⟩
    | scanDirectory hp _ => exact Or.inr (Or.inl ⟨_, hp, _, _, rfl⟩)
  · exact ⟨hfatal, fun _ => Or.inr (Or.inr (Failure.concernsOutput_iff.mp houtput))⟩
  · exact ⟨rfl, fun habort => by cases habort⟩

/-- **A path passes its check** exactly if its expansion does not take it for one that leads nowhere. -/
theorem validatePath_ok_iff_expand {fs : FileSystem} {path : ByteString} :
    validatePath fs path = .ok () ↔ ∀ p, fs.expand path ≠ .error (.invalidPath p) := by
  rw [validatePath_ok_iff]
  cases hleads : fs.leads path with
  | true =>
      refine iff_of_true rfl fun p h => ?_
      rcases expand_error_iff.mp h with ⟨hnot, -⟩ | hlisted
      · rw [hleads] at hnot
        cases hnot
      · obtain ⟨directory, hfailure⟩ := scanDirectory_of_filesBelow_error hlisted
        cases hfailure
  | false => simp [expand_of_not_leads hleads]

/-- A batch over paths that lead somewhere does not stop at one that leads nowhere. -/
theorem generate_ne_invalidPath {fs after : FileSystem} {s : Settings} {paths : List ByteString}
    (hleads : ∀ p ∈ paths, fs.leads p = true) (p : ByteString) :
    fs.generate s paths ≠ (after, .error (.invalidPath p)) := by
  intro h
  obtain ⟨hrefused, -⟩ | ⟨houtput | houtput, -⟩ := generate_error h
  · cases hrefused with
    | invalidPath hp hnot =>
        rw [hleads _ hp] at hnot
        cases hnot
  · cases houtput
  · cases houtput

/-- **Failures of a batch and the checks before it.**  A batch stops at one of its paths or because of
    an output, never because of a single module; only where the run ends on the spot is there no
    such failure to hand on.  A path passes its check exactly if the batch does not take it for one
    that leads nowhere; so a run without a dialogue whose arguments passed their checks does not
    stop at such a path. -/
theorem checks_agree_with_batch (fs : FileSystem) :
    (∀ s paths failure, (fs.generate s paths).2 = .error failure →
        failure.isPerModule = false
        ∧ (failure.isAbort = false →
          (∃ p ∈ paths, failure = .invalidPath p)
          ∨ (∃ p ∈ paths, ∃ directory cause, failure = .scanDirectory p directory cause)
          ∨ (∃ path cause, failure = .createDirectory path cause)
          ∨ (∃ path cause, failure = .write path cause)
          ∨ ∃ path, failure = .overwritesSource path))
      ∧ (∀ path, validatePath fs path = .ok () ↔ ∀ p, fs.expand path ≠ .error (.invalidPath p))
      ∧ ∀ words a input, Arguments.parse words = .ok a → a.validate fs = .ok () →
          a.interactive = false →
          ∀ p, (run fs words input).2.stop? ≠ some (.batch (.invalidPath p)) := by
  refine ⟨fun _ _ _ h => generate_error_kinds h, fun _ => validatePath_ok_iff_expand, ?_⟩
  intro words a input hparse hvalidate hquiet p hstop
  obtain ⟨fault, hfault, -⟩ | ⟨output, stop, hrun, hearly⟩ |
    ⟨b, output, s, paths, hb, -, hpaths, hrun⟩ := run_cases fs words input
  · rw [hparse] at hfault
    cases hfault
  · -- a stop before the batch is none of the batch
    rw [hrun] at hstop
    cases hstop
    cases hearly
  · cases hparse.symm.trans hb
    cases hpaths hquiet
    rw [hrun] at hstop
    obtain ⟨after, report, -, -, -, hnone⟩ | ⟨after, failure, hgenerate, hends⟩ :=
      generateAll_cases fs a.quiet output s a.paths
    · rw [hnone] at hstop
      cases hstop
    · rw [hends] at hstop
      cases hstop
      exact generate_ne_invalidPath (leads_of_validate hvalidate) p hgenerate

/-- A run over checked paths that stops, and not at a path. -/
theorem checks_agree_with_batch_workshop :
    ∃ a, Arguments.parse ["p", "q"] = .ok a ∧ a.validate workshop = .ok () ∧ a.interactive = false
      ∧ (run workshop ["p", "q"] .empty).2.code = 1
      ∧ (∀ p, (run workshop ["p", "q"] .empty).2.stop? ≠ some (.batch (.invalidPath p)))
      ∧ ∃ failure, (workshop.generate {} ["p", "q"]).2 = .error failure
        ∧ failure.isPerModule = false := by
  obtain ⟨hbatch, -, hrun⟩ := checks_agree_with_batch workshop
  have hvalidate : Arguments.validate { paths := ["p", "q"] } workshop = .ok () :=
    eq_ok_of_toOption (by decide +kernel)
  refine ⟨{ paths := ["p", "q"] }, rfl, hvalidate, rfl, by decide +kernel,
    hrun ["p", "q"] _ .empty rfl hvalidate rfl, ?_⟩
  have hstops : (workshop.generate {} ["p", "q"]).2.toOption.isNone = true := by decide +kernel
  cases hresult : (workshop.generate {} ["p", "q"]).2 with
  | ok report =>
      rw [hresult] at hstops
      cases hstops
  | error failure => exact ⟨failure, rfl, (hbatch {} ["p", "q"] failure hresult).1⟩

end CommandLine

end TestScaffold
