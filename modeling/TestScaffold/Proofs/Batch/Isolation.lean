/-
  TestScaffold.Proofs.Batch.Isolation — what becomes of each source, and what of the others.

  A batch deals with its sources one after the other.  Only a source whose tests are
  written changes the file system; a source without functions and a source that cannot be
  read or parsed are noted, and the sources after them meet the file system that they would
  have met without them.

    * `Runs` — a batch that goes through, source by source;
    * `processAll_ok_iff`, `processAll_error_iff` — a batch goes through, or it stops at the
      source after a part that goes through;
    * `Runs.accounts` — every source is accounted for once, in order;
    * `Runs.without` — sources that were skipped or failed can be left out;
    * `generate_isolates` — all of this for a whole run, over all file systems with links.
-/
import TestScaffold.Proofs.Batch.Step
import TestScaffold.Proofs.Discovery.Sources

namespace TestScaffold.FileSystem

open SourceModule

/-! ## §1. Batches that go through -/

/-- A batch that goes through its sources, from one file system to another, with its report. -/
inductive Runs (r : RenderSettings) : FileSystem → List ByteString → FileSystem → Report → Prop where
  /-- No source is left. -/
  | done (fs : FileSystem) : Runs r fs [] fs {}
  /-- The tests of a source are written. -/
  | written {fs next after : FileSystem} {t : ByteString} {rest : List ByteString} {report : Report}
      (step : fs.process r t = (next, .ok (.written (destination r t))))
      (later : Runs r next rest after report) :
      Runs r fs (t :: rest) after { report with written := destination r t :: report.written }
  /-- A source has no functions; the file system stays as it is. -/
  | skipped {fs after : FileSystem} {t : ByteString} {rest : List ByteString} {report : Report}
      (step : fs.process r t = (fs, .ok .noFunctions)) (later : Runs r fs rest after report) :
      Runs r fs (t :: rest) after { report with skipped := t :: report.skipped }
  /-- A source cannot be read or parsed; the file system stays as it is. -/
  | failed {fs after : FileSystem} {t : ByteString} {rest : List ByteString} {report : Report}
      {failure : Failure} (step : fs.process r t = (fs, .error failure))
      (scan : fs.scanFile t = .error failure) (later : Runs r fs rest after report) :
      Runs r fs (t :: rest) after { report with failed := (t, failure) :: report.failed }

namespace Runs

variable {r : RenderSettings} {fs after : FileSystem} {sources : List ByteString} {report : Report}

/-- One more source in front that does not end the batch. -/
theorem cons {t : ByteString} (hgoes : endsBatch (fs.process r t).2 = false)
    (h : Runs r (fs.process r t).1 sources after report) :
    Runs r fs (t :: sources) after (noteOutcome t (fs.process r t).2 report) := by
  -- what can become of a source, less what would end the batch
  obtain ⟨failure, hscan, hp⟩ | ⟨-, -, -, hp⟩ | ⟨-, failure, -, -, hp, hfatal, -⟩ |
    ⟨-, -, done, -, -, -, -, -, -, hp⟩ := process_cases fs r t
  · rw [hp] at h ⊢
    exact .failed hp hscan h
  · rw [hp] at h ⊢
    exact .skipped hp h
  · rw [hp] at hgoes
    simp [endsBatch, hfatal] at hgoes
  · rw [hp] at h ⊢
    exact .written hp h

theorem processAll (h : Runs r fs sources after report) :
    fs.processAll r sources = (after, .ok report) := by
  induction h with
  | done fs => rfl
  | written step later ih => simp only [FileSystem.processAll, step, ih, Except.map]
  | skipped step later ih => simp only [FileSystem.processAll, step, ih, Except.map]
  | failed step scan later ih =>
      simp only [FileSystem.processAll, step, ih, scanFile_error scan, if_true, Except.map]

/-- What stands behind a source that ends the batch has no effect. -/
theorem processAll_append (h : Runs r fs sources after report) {t : ByteString} {done : FileSystem}
    {failure : Failure} (hstep : after.process r t = (done, .error failure))
    (hfatal : failure.isPerModule = false) (others : List ByteString) :
    fs.processAll r (sources ++ t :: others) = (done, .error failure) := by
  induction h with
  | done fs =>
      have hstop : (fs.process r t).2 = .error failure := by rw [hstep]
      rw [List.nil_append, processAll_ends hstop hfatal, hstep]
  | written step later ih =>
      simp only [List.cons_append, FileSystem.processAll, step, ih hstep, Except.map]
  | skipped step later ih =>
      simp only [List.cons_append, FileSystem.processAll, step, ih hstep, Except.map]
  | failed step scan later ih =>
      simp only [List.cons_append, FileSystem.processAll, step, ih hstep, scanFile_error scan,
        if_true, Except.map]

end Runs

/-- **A batch succeeds exactly if it goes through.** -/
theorem processAll_ok_iff {r : RenderSettings} {fs after : FileSystem} {sources : List ByteString}
    {report : Report} :
    fs.processAll r sources = (after, .ok report) ↔ Runs r fs sources after report := by
  refine ⟨?_, Runs.processAll⟩
  intro h
  induction sources generalizing fs report with
  | nil =>
      cases h
      exact .done _
  | cons t rest ih =>
      have hgoes := goes_on_of_ok h
      rw [processAll_goes_on rest hgoes] at h
      cases hrest : (fs.process r t).1.processAll r rest with
      | mk done result =>
          rw [hrest] at h
          cases result with
          | error failure => cases h
          | ok later =>
              cases h
              exact Runs.cons hgoes (ih hrest)

/-- **A batch stops exactly at a source that ends it**, after a part that goes through. -/
theorem processAll_error_iff {r : RenderSettings} {fs after : FileSystem} {sources : List ByteString}
    {failure : Failure} :
    fs.processAll r sources = (after, .error failure) ↔
      ∃ before t later mid report, sources = before ++ t :: later ∧ Runs r fs before mid report
        ∧ mid.process r t = (after, .error failure) ∧ failure.isPerModule = false := by
  constructor
  · intro h
    induction sources generalizing fs with
    | nil => cases h
    | cons t rest ih =>
        cases hends : endsBatch (fs.process r t).2 with
        | true =>
            -- the first source ends the batch
            obtain ⟨own, hown, hfatal⟩ := error_of_endsBatch hends
            rw [processAll_ends hown hfatal] at h
            cases h
            exact ⟨[], t, rest, fs, {}, rfl, .done fs, Prod.ext rfl hown, hfatal⟩
        | false =>
            -- it is one more source of the part that goes through
            rw [processAll_goes_on rest hends] at h
            cases hrest : (fs.process r t).1.processAll r rest with
            | mk done result =>
                rw [hrest] at h
                cases result with
                | ok later => cases h
                | error own =>
                    cases h
                    obtain ⟨before, u, later, mid, report, rfl, hruns, hstop⟩ := ih hrest
                    exact ⟨t :: before, u, later, mid, _, rfl, hruns.cons hends, hstop⟩
  · rintro ⟨before, t, later, mid, report, rfl, hruns, hstep, hfatal⟩
    exact hruns.processAll_append hstep hfatal later

/-! ## §2. Every source once -/

/-- A report accounts for the sources: each of them is noted once, in order, by its destination, by
    itself, or by itself with the reason why it could not be read or parsed. -/
structure Accounts (r : RenderSettings) (sources : List ByteString) (report : Report) : Prop where
  /-- The sources in three parts, each in the order of the batch. -/
  parts : ∃ tested : List ByteString, report.written = tested.map (destination r)
    ∧ tested.Sublist sources ∧ report.skipped.Sublist sources
    ∧ (report.failed.map Prod.fst).Sublist sources
    ∧ (tested ++ (report.skipped ++ report.failed.map Prod.fst)).Perm sources
  /-- The reason for a source is about that source. -/
  reasons : ∀ t failure, (t, failure) ∈ report.failed →
    (∃ cause, failure = .read t cause) ∨ ∃ fault, failure = .invalidSyntax t fault

theorem reason_of_scanFile {fs : FileSystem} {t : ByteString} {failure : Failure}
    (h : fs.scanFile t = .error failure) :
    (∃ cause, failure = .read t cause) ∨ ∃ fault, failure = .invalidSyntax t fault := by
  unfold scanFile at h
  split at h
  · unfold scanModule at h
    split at h
    · cases h
    · rename_i fault hfault
      cases h
      exact Or.inr ⟨fault, rfl⟩
  · rename_i cause hcause
    cases h
    exact Or.inl ⟨cause, rfl⟩

namespace Runs

variable {r : RenderSettings} {fs after : FileSystem} {sources : List ByteString} {report : Report}

/-- **Every source is accounted for once, in order.** -/
theorem accounts (h : Runs r fs sources after report) : Accounts r sources report := by
  induction h with
  | done fs => exact ⟨⟨[], rfl, .slnil, .slnil, .slnil, .nil⟩, by simp⟩
  | @written _ _ _ t rest report step later ih =>
      obtain ⟨tested, hwritten, htested, hskipped, hfailed, hperm⟩ := ih.parts
      refine ⟨⟨t :: tested, ?_, htested.cons_cons t, hskipped.cons t, hfailed.cons t, hperm.cons t⟩,
        ih.reasons⟩
      rw [List.map_cons, ← hwritten]
  | @skipped _ _ t rest report step later ih =>
      obtain ⟨tested, hwritten, htested, hskipped, hfailed, hperm⟩ := ih.parts
      exact ⟨⟨tested, hwritten, htested.cons t, hskipped.cons_cons t, hfailed.cons t,
        List.perm_middle.trans (hperm.cons t)⟩, ih.reasons⟩
  | @failed _ _ t rest report failure step scan later ih =>
      obtain ⟨tested, hwritten, htested, hskipped, hfailed, hperm⟩ := ih.parts
      refine ⟨⟨tested, hwritten, htested.cons t, hskipped.cons t, hfailed.cons_cons t, ?_⟩, ?_⟩
      · have hmiddle : (report.skipped ++ t :: report.failed.map Prod.fst).Perm
            (t :: (report.skipped ++ report.failed.map Prod.fst)) := List.perm_middle
        exact (hmiddle.append_left tested).trans (List.perm_middle.trans (hperm.cons t))
      · intro u reason hmem
        rcases List.mem_cons.mp hmem with heq | hmem
        · cases heq
          exact reason_of_scanFile scan
        · exact ih.reasons u reason hmem

end Runs

theorem Accounts.processed {r : RenderSettings} {sources : List ByteString} {report : Report}
    (h : Accounts r sources report) : report.processed = sources.length := by
  obtain ⟨tested, hwritten, -, -, -, hperm⟩ := h.parts
  have hlen := hperm.length_eq
  simp only [List.length_append, List.length_map] at hlen
  unfold Report.processed
  rw [hwritten, List.length_map]
  omega

/-- What is noted as left aside is one of the sources. -/
theorem Accounts.mem_of_aside {r : RenderSettings} {sources : List ByteString} {report : Report}
    (h : Accounts r sources report) {t : ByteString}
    (ht : t ∈ report.skipped ∨ t ∈ report.failed.map Prod.fst) : t ∈ sources := by
  obtain ⟨-, -, -, hskipped, hfailed, -⟩ := h.parts
  rcases ht with ht | ht
  · exact hskipped.subset ht
  · exact hfailed.subset ht

/-! ## §3. Sources left out -/

/-- A report without the notes on some of the sources that were left aside. -/
def keepNotes (keep : ByteString → Bool) (report : Report) : Report :=
  { report with
    skipped := report.skipped.filter keep
    failed := report.failed.filter fun note => keep note.1 }

/-- **Sources that were skipped or failed can be left out**: the batch without them ends in the same
    file system and writes the same tests. -/
theorem Runs.without {r : RenderSettings} {fs after : FileSystem} {sources : List ByteString}
    {report : Report} (h : Runs r fs sources after report) (hnodup : sources.Nodup)
    {keep : ByteString → Bool} (hkeep : ∀ t ∈ sources, keep t = false →
      t ∈ report.skipped ∨ t ∈ report.failed.map Prod.fst) :
    Runs r fs (sources.filter keep) after (keepNotes keep report) := by
  -- on the run: a source that is left out had left the file system as it was
  induction h with
  | done fs => exact .done fs
  | @written _ _ _ t rest report step later ih =>
      obtain ⟨hfresh, hrest⟩ := List.nodup_cons.mp hnodup
      -- a source with tests is not among those left aside, so it stays
      have hstays : keep t = true := by
        cases hdrop : keep t with
        | true => rfl
        | false =>
            have haside := hkeep t List.mem_cons_self hdrop
            exact absurd (later.accounts.mem_of_aside haside) hfresh
      rw [List.filter_cons_of_pos hstays]
      exact .written step (ih hrest fun u hu => hkeep u (List.mem_cons_of_mem t hu))
  | @skipped _ _ t rest report step later ih =>
      obtain ⟨hfresh, hrest⟩ := List.nodup_cons.mp hnodup
      have hlater := ih hrest (by
        intro u hu hdrop
        have hne : u ≠ t := fun heq => hfresh (heq ▸ hu)
        exact (hkeep u (List.mem_cons_of_mem t hu) hdrop).imp_left (List.mem_of_ne_of_mem hne))
      cases hstays : keep t with
      | true =>
          have hnotes := Runs.skipped step hlater
          simpa [keepNotes, hstays] using hnotes
      | false => simpa [keepNotes, hstays] using hlater
  | @failed _ _ t rest report failure step scan later ih =>
      obtain ⟨hfresh, hrest⟩ := List.nodup_cons.mp hnodup
      have hlater := ih hrest (by
        intro u hu hdrop
        have hne : u ≠ t := fun heq => hfresh (heq ▸ hu)
        exact (hkeep u (List.mem_cons_of_mem t hu) hdrop).imp_right (List.mem_of_ne_of_mem hne))
      cases hstays : keep t with
      | true =>
          have hnotes := Runs.failed step scan hlater
          simpa [keepNotes, hstays] using hnotes
      | false => simpa [keepNotes, hstays] using hlater

/-! ## §4. Outputs stay -/

/-- A path leads to a file or a device. -/
def Ends (fs : FileSystem) (path : ByteString) : Prop :=
  ∃ loc e, fs.entryAt path = .ok (loc, e) ∧ e.isEnd = true

theorem Ends.grows {fs fs' : FileSystem} {path : ByteString} (h : fs.Ends path) (hg : Grows fs fs') :
    fs'.Ends path := by
  obtain ⟨loc, e, he, hend⟩ := h
  exact ⟨loc, entryAt_isEnd_grows hg he hend⟩

theorem Ends.pathExists {fs : FileSystem} {path : ByteString} (h : fs.Ends path) :
    fs.pathExists path = true := by
  obtain ⟨loc, e, he, -⟩ := h
  unfold FileSystem.pathExists
  rw [he]

theorem ends_of_written {fs next : FileSystem} (hw : fs.WellFormed) {r : RenderSettings}
    {t output : ByteString} (h : fs.process r t = (next, .ok (.written output))) : next.Ends output := by
  obtain ⟨failure, -, hp⟩ | ⟨-, -, -, hp⟩ | ⟨-, failure, -, -, hp, -, -⟩ |
    ⟨m, made, done, -, -, -, -, hcreate, hwrite, hp⟩ := process_cases fs r t
  · rw [hp] at h
    cases h
  · rw [hp] at h
    cases h
  · rw [h] at hp
    cases hp
  · rw [hp] at h
    cases h
    have hmade := createDirectories_wellFormed (Path.directory (destination r t)) hw
    rw [hcreate] at hmade
    obtain ⟨target, htarget, -⟩ := write_cases hwrite
    exact ⟨target.location, entryAt_write hmade hwrite htarget⟩

/-- **What was written is there at the end of the batch**, and nothing was taken away. -/
theorem Runs.outputs {r : RenderSettings} {fs after : FileSystem} {sources : List ByteString}
    {report : Report} (h : Runs r fs sources after report) (hw : fs.WellFormed) :
    after.WellFormed ∧ Grows fs after ∧ ∀ output ∈ report.written, after.Ends output := by
  induction h with
  | done fs => exact ⟨hw, Grows.refl fs, by simp⟩
  | @written fs next _ t _ _ step later ih =>
      obtain ⟨hnext, hgrows⟩ := process_keeps hw r t
      rw [step] at hnext hgrows
      obtain ⟨hafter, hlater, houtputs⟩ := ih hnext
      refine ⟨hafter, hgrows.trans hlater, ?_⟩
      intro output houtput
      rcases List.mem_cons.mp houtput with rfl | houtput
      · exact (ends_of_written hw step).grows hlater
      · exact houtputs output houtput
  | skipped step later ih => exact ih hw
  | failed step scan later ih => exact ih hw

/-! ## §5. A whole run -/

/-- **A batch isolates its failures.**  A run that succeeds accounts for every collected source
    once, in order; and the batch without any of the sources that were skipped or failed ends in the
    same file system with the same tests written.  A run that stops at a source leaves what the
    sources up to that one leave: what was written before is there, and whatever stands behind it in
    the batch has no effect. -/
theorem generate_isolates {fs : FileSystem} (hw : fs.WellFormed) {s : Settings}
    {paths sources : List ByteString} (hcollect : fs.collect s.filter paths = .ok sources) :
    (∀ after report, fs.generate s paths = (after, .ok report) →
        Accounts s.render sources report ∧ report.processed = sources.length
        ∧ ∀ keep : ByteString → Bool,
            (∀ t ∈ sources, keep t = false →
              t ∈ report.skipped ∨ t ∈ report.failed.map Prod.fst) →
            fs.processAll s.render (sources.filter keep) = (after, .ok (keepNotes keep report)))
      ∧ (∀ after failure, fs.generate s paths = (after, .error failure) →
        ∃ before t later mid report, sources = before ++ t :: later
          ∧ fs.processAll s.render before = (mid, .ok report)
          ∧ mid.process s.render t = (after, .error failure)
          ∧ (∀ output ∈ report.written, after.pathExists output = true)
          ∧ ∀ others, fs.processAll s.render (before ++ t :: others) = (after, .error failure)) := by
  rw [generate_of_collect hcollect]
  refine ⟨?_, ?_⟩
  · intro after report h
    have hruns := processAll_ok_iff.mp h
    refine ⟨hruns.accounts, hruns.accounts.processed, ?_⟩
    intro keep hkeep
    exact (hruns.without (nodup_collect hcollect) hkeep).processAll
  · intro after failure h
    obtain ⟨before, t, later, mid, report, hsplit, hruns, hstep, hfatal⟩ :=
      processAll_error_iff.mp h
    refine ⟨before, t, later, mid, report, hsplit, hruns.processAll, hstep, ?_,
      hruns.processAll_append hstep hfatal⟩
    -- the source that ends the batch takes nothing away either
    intro output houtput
    obtain ⟨hmid, -, houtputs⟩ := hruns.outputs hw
    have hlast := (process_keeps hmid s.render t).2
    rw [hstep] at hlast
    exact ((houtputs output houtput).grows hlast).pathExists

/-- Modules of all kinds in one directory, and in another one a module whose tests cannot be written
    because a file has the name of the output directory. -/
def workshop : FileSystem :=
  { top := [("p", .directory
      [("a.py", .file "def f():\n  pass\n".toUTF8), ("b.py", .file "x = 1\n".toUTF8),
        ("c.py", .file "def g(:\n".toUTF8)]),
      ("q", .directory [("d.py", .file "def h():\n  pass\n".toUTF8), ("tests", .file .empty)])] }

theorem generate_isolates_workshop :
    workshop.WellFormed
      ∧ (∃ after report, workshop.generate {} ["p"] = (after, .ok report)
        ∧ report.skipped = ["p/b.py"] ∧ report.failed.map Prod.fst = ["p/c.py"]
        ∧ report.processed = 3
        ∧ workshop.processAll {} ["p/a.py"]
            = (after, .ok (keepNotes (fun t => t == "p/a.py") report)))
      ∧ ∃ after failure, workshop.generate {} ["p", "q"] = (after, .error failure)
        ∧ ∃ (before : List ByteString) (t : ByteString) (later : List ByteString) (mid : FileSystem)
            (report : Report), before ++ t :: later = ["p/a.py", "p/b.py", "p/c.py", "q/d.py"]
          ∧ workshop.processAll {} before = (mid, .ok report)
          ∧ mid.process {} t = (after, .error failure) := by
  have hw : workshop.WellFormed := ⟨by decide +kernel, by decide +kernel⟩
  have hp : workshop.collect {} ["p"] = .ok ["p/a.py", "p/b.py", "p/c.py"] :=
    eq_ok_of_toOption (by decide +kernel)
  have hpq : workshop.collect {} ["p", "q"] = .ok ["p/a.py", "p/b.py", "p/c.py", "q/d.py"] :=
    eq_ok_of_toOption (by decide +kernel)
  refine ⟨hw, ?_, ?_⟩
  · have hnotes : (workshop.generate {} ["p"]).2.toOption.map
        (fun report => (report.skipped, report.failed.map Prod.fst))
          = some ((["p/b.py"], ["p/c.py"]) : List ByteString × List ByteString) := by
      decide +kernel
    obtain ⟨report, hreport, hparts⟩ := Option.map_eq_some_iff.mp hnotes
    obtain ⟨hskipped, hfailed⟩ := Prod.mk.inj hparts
    have hrun := generate_of_report hreport
    obtain ⟨-, hcount, hfewer⟩ := (generate_isolates (s := {}) hw hp).1 _ _ hrun
    have halone : (["p/a.py", "p/b.py", "p/c.py"] : List ByteString).filter
        (fun t : ByteString => t == "p/a.py") = ["p/a.py"] := by
      decide
    have hkept := hfewer (fun t => t == "p/a.py") (by rw [hskipped, hfailed]; decide)
    rw [halone] at hkept
    exact ⟨_, report, hrun, hskipped, hfailed, hcount, hkept⟩
  · have hstops : (workshop.generate {} ["p", "q"]).2.toOption.isNone = true := by decide +kernel
    cases hresult : (workshop.generate {} ["p", "q"]).2 with
    | ok report =>
        rw [hresult] at hstops
        cases hstops
    | error failure =>
        have hrun : workshop.generate {} ["p", "q"]
            = ((workshop.generate {} ["p", "q"]).1, .error failure) := Prod.ext rfl hresult
        obtain ⟨before, t, later, mid, report, hsplit, hbefore, hstep, -⟩ :=
          (generate_isolates (s := {}) hw hpq).2 _ _ hrun
        exact ⟨_, failure, hrun, before, t, later, mid, report, hsplit.symm, hbefore, hstep⟩

end TestScaffold.FileSystem
