/-
  TestScaffold.Proofs.Batch.Step — what processing one source file can do.

    * `scanFile_ok` — what a scanned module is made of;
    * `process_cases` — the four ways in which a source file is dealt with;
    * `process_at_file` — what that does to a file that is already there;
    * `processAll_induct` — what every source keeps, the batch keeps;
    * `MayHold` — what a source can read as when its turn comes.

  Everything later about one file or about a batch starts from `process_cases`.
-/
import TestScaffold.Batch
import TestScaffold.Proofs.Catalogue.Walk
import TestScaffold.Proofs.FileSystem.Effects

namespace TestScaffold

/-! ## §1. Scanning -/

theorem scan_empty : scan "" = .ok [] :=
  eq_ok_of_toOption (by decide +kernel)

namespace SourceModule

/-- Where the tests of the module at a path go. -/
def destination (r : RenderSettings) (path : ByteString) : ByteString :=
  (ofPath path).outputPath r

/-- The path that the module at a path is read as having. -/
def assumedPath (path : ByteString) : ByteString :=
  (ofPath path).sourcePath

theorem assumedPath_eq (path : ByteString) :
    assumedPath path
      = Path.join (Path.directory path) (.ofText (Path.stem path ++ "." ++ pythonExtension)) := rfl

/-- The module at a path with the functions found in it. -/
def withFunctions (path : ByteString) (functions : List Function) : SourceModule :=
  { ofPath path with functions }

end SourceModule

namespace FileSystem

open SourceModule

variable {fs : FileSystem} {r : RenderSettings} {path : ByteString}

/-- A module that was scanned comes from the text of its file. -/
theorem scanFile_ok {m : SourceModule} (h : fs.scanFile path = .ok m) :
    ∃ content text, fs.readBytes path = .ok content ∧ String.fromUTF8? content = some text
      ∧ scan text = .ok m.functions ∧ m = withFunctions path m.functions := by
  unfold scanFile readText at h
  cases hb : fs.readBytes path with
  | error fault =>
      rw [hb] at h
      cases h
  | ok content =>
      rw [hb] at h
      simp only [bind, Except.bind] at h
      cases ht : String.fromUTF8? content with
      | none =>
          simp only [ht] at h
          cases h
      | some text =>
          simp only [ht, scanModule] at h
          split at h
          · rename_i functions hscan
            cases h
            exact ⟨content, text, rfl, ht, hscan, rfl⟩
          · cases h

/-- A scanned module goes by the paths of the module at its path. -/
theorem paths_of_scanFile {m : SourceModule} (h : fs.scanFile path = .ok m) (r : RenderSettings) :
    m.outputPath r = destination r path ∧ m.sourcePath = assumedPath path := by
  obtain ⟨-, -, -, -, -, hm⟩ := scanFile_ok h
  rw [hm]
  exact ⟨rfl, rfl⟩

/-- A file that cannot be scanned fails alone. -/
theorem scanFile_error {failure : Failure} (h : fs.scanFile path = .error failure) :
    failure.isPerModule = true := by
  unfold scanFile at h
  split at h
  · unfold scanModule at h
    split at h
    · cases h
    · cases h
      rfl
  · cases h
    rfl

/-- The functions that are found in the bytes of a file. -/
def Scans (content : ByteArray) (functions : List Function) : Prop :=
  ∃ text, String.fromUTF8? content = some text ∧ scan text = .ok functions

theorem scans_of_scanFile {m : SourceModule} (h : fs.scanFile path = .ok m) :
    ∃ content, fs.readBytes path = .ok content ∧ Scans content m.functions := by
  obtain ⟨content, text, hread, htext, hscan, -⟩ := scanFile_ok h
  exact ⟨content, hread, text, htext, hscan⟩

/-- What scanning gives depends on the bytes of the file alone. -/
theorem scanFile_congr {fs' : FileSystem} (h : fs'.readBytes path = fs.readBytes path) :
    fs'.scanFile path = fs.scanFile path := by
  unfold scanFile readText
  rw [h]

/-- A module with functions was read from a regular file. -/
theorem file_of_scanFile {fs : FileSystem} {path : ByteString} {m : SourceModule}
    (h : fs.scanFile path = .ok m) (hne : m.functions ≠ []) :
    ∃ loc content, fs.locate? path = some loc ∧ fs.shapeAt loc = some (.file content)
      ∧ fs.readBytes path = .ok content := by
  obtain ⟨content, text, hr, htext, hscan, -⟩ := scanFile_ok h
  obtain ⟨loc, hl, hshape | ⟨-, rfl⟩⟩ := locate?_of_readBytes hr
  · exact ⟨loc, content, hl, hshape, hr⟩
  · -- a device holds nothing, and nothing has no functions
    have hempty : text = "" := by
      have : String.fromUTF8? .empty = some "" := by decide
      rw [this] at htext
      exact (Option.some.inj htext).symm
    rw [hempty, scan_empty] at hscan
    exact absurd (Except.ok.inj hscan).symm hne

/-! ## §2. One source file -/

/-- **The four ways in which a source file is dealt with**: it cannot be scanned, it has no
    functions, its tests cannot be built or written, or they are written. -/
theorem process_cases (fs : FileSystem) (r : RenderSettings) (path : ByteString) :
    (∃ failure, fs.scanFile path = .error failure ∧ fs.process r path = (fs, .error failure))
    ∨ (∃ m, fs.scanFile path = .ok m ∧ m.functions = []
        ∧ fs.process r path = (fs, .ok .noFunctions))
    ∨ (∃ m failure, fs.scanFile path = .ok m ∧ m.functions ≠ []
        ∧ (fs.process r path).2 = .error failure ∧ failure.isPerModule = false
        ∧ ((fs.process r path).1 = fs
          ∨ (fs.process r path).1
              = (fs.createDirectories (Path.directory (destination r path))).1))
    ∨ (∃ m made done, fs.scanFile path = .ok m ∧ m.functions ≠ []
        ∧ fs.identity (destination r path) ≠ fs.identity (assumedPath path)
        ∧ m.overflows r = false
        ∧ fs.createDirectories (Path.directory (destination r path)) = (made, .ok ())
        ∧ made.write (destination r path) (m.render r).toUTF8 = .ok done
        ∧ fs.process r path = (done, .ok (.written (destination r path)))) := by
  unfold process
  cases hscan : fs.scanFile path with
  | error failure => exact Or.inl ⟨failure, rfl, rfl⟩
  | ok m =>
      refine Or.inr ?_
      by_cases hempty : m.functions = []
      · refine Or.inl ⟨m, rfl, hempty, ?_⟩
        simp [hempty]
      · refine Or.inr ?_
        obtain ⟨hout, hsource⟩ := paths_of_scanFile hscan r
        have hcond : m.functions.isEmpty = false := by simpa using hempty
        simp only [hcond, Bool.false_eq_true, if_false]
        unfold writeTests
        simp only [hout, hsource]
        -- the guard, the directories, the text and the write can each end it
        by_cases hid : fs.identity (destination r path) = fs.identity (assumedPath path)
        · rw [if_pos hid]
          exact Or.inl ⟨m, _, rfl, hempty, rfl, rfl, Or.inl rfl⟩
        · rw [if_neg hid]
          show _ ∨ _
          cases hcreate : fs.createDirectories (Path.directory (destination r path)) with
          | mk made result =>
              unfold Path.directory at hcreate
              rw [hcreate]
              cases result with
              | error fault => exact Or.inl ⟨m, _, rfl, hempty, rfl, rfl, Or.inr rfl⟩
              | ok _ =>
                  cases hfits : m.overflows r with
                  | true => exact Or.inl ⟨m, .textTooLong, rfl, hempty, rfl, rfl, Or.inr rfl⟩
                  | false =>
                      cases hwrite : made.write (destination r path) (m.render r).toUTF8 with
                      | error fault =>
                          refine Or.inl ⟨m, .write (destination r path) fault, rfl, hempty, ?_, rfl, ?_⟩
                          · simp only [hwrite, Bool.false_eq_true, if_false]
                          · simp only [hwrite, Bool.false_eq_true, if_false, or_true]
                      | ok done =>
                          refine Or.inr ⟨m, made, done, rfl, hempty, hid, hfits, rfl, hwrite, ?_⟩
                          simp only [hwrite, Bool.false_eq_true, if_false]

/-- The way in which tests are written, from its conditions. -/
theorem process_written {m : SourceModule} {made done : FileSystem}
    (hscan : fs.scanFile path = .ok m) (hne : m.functions ≠ [])
    (hguard : fs.identity (destination r path) ≠ fs.identity (assumedPath path))
    (hfits : m.overflows r = false)
    (hmade : fs.createDirectories (Path.directory (destination r path)) = (made, .ok ()))
    (hwrite : made.write (destination r path) (m.render r).toUTF8 = .ok done) :
    fs.process r path = (done, .ok (.written (destination r path))) := by
  obtain ⟨hout, hsource⟩ := paths_of_scanFile hscan r
  have htests : fs.writeTests m r = (done, .ok (destination r path)) := by
    unfold Path.directory at hmade
    unfold writeTests
    simp only [hout, hsource, if_neg hguard, hmade, hfits, hwrite, Bool.false_eq_true, if_false]
  have hcond : m.functions.isEmpty = false := by simpa using hne
  unfold process
  simp only [hscan, hcond, htests, Bool.false_eq_true, if_false]

/-- **Processing a source takes nothing away**, and keeps a file system well-formed. -/
theorem process_keeps (hw : fs.WellFormed) (r : RenderSettings) (path : ByteString) :
    (fs.process r path).1.WellFormed ∧ Grows fs (fs.process r path).1 := by
  have hmade := createDirectories_wellFormed (Path.directory (destination r path)) hw
  have hadds := createDirectories_adds fs (Path.directory (destination r path))
  obtain ⟨failure, -, hp⟩ | ⟨m, -, -, hp⟩ | ⟨m, failure, -, -, -, -, hfs | hfs⟩ |
    ⟨m, made, done, -, -, -, -, hcreate, hwrite, hp⟩ := process_cases fs r path
  · rw [hp]
    exact ⟨hw, Grows.refl fs⟩
  · rw [hp]
    exact ⟨hw, Grows.refl fs⟩
  · rw [hfs]
    exact ⟨hw, Grows.refl fs⟩
  · rw [hfs]
    exact ⟨hmade, hadds.grows⟩
  · rw [hcreate] at hmade hadds
    rw [hp]
    exact ⟨write_wellFormed hmade hwrite, hadds.grows.trans (write_grows hwrite)⟩

/-- Without links, none appear. -/
theorem process_grows (hw : fs.WellFormed) (hfree : fs.LinkFree) (r : RenderSettings)
    (path : ByteString) :
    (fs.process r path).1.WellFormed ∧ (fs.process r path).1.LinkFree
      ∧ Grows fs (fs.process r path).1 := by
  obtain ⟨hw', hgrows⟩ := process_keeps hw r path
  refine ⟨hw', ?_, hgrows⟩
  have hmade := createDirectories_wellFormed (Path.directory (destination r path)) hw
  have hadds := createDirectories_adds fs (Path.directory (destination r path))
  obtain ⟨failure, -, hp⟩ | ⟨m, -, -, hp⟩ | ⟨m, failure, -, -, -, -, hfs | hfs⟩ |
    ⟨m, made, done, -, -, -, -, hcreate, hwrite, hp⟩ := process_cases fs r path
  · rw [hp]
    exact hfree
  · rw [hp]
    exact hfree
  · rw [hfs]
    exact hfree
  · rw [hfs]
    exact hadds.linkFree hfree
  · rw [hcreate] at hmade hadds
    rw [hp]
    exact write_linkFree hmade (hadds.linkFree hfree) hwrite

/-- **What processing a source does to a file**: nothing, unless the destination leads to that file;
    then the file holds tests rendered for the functions that the source was read to have. -/
theorem process_at_file {loc : Location} {old : ByteArray}
    (hs : fs.shapeAt loc = some (.file old)) :
    (fs.process r path).1.shapeAt loc = some (.file old)
      ∨ ∃ content functions, fs.readBytes path = .ok content ∧ Scans content functions
        ∧ functions ≠ []
        ∧ (fs.process r path).1.locate? (destination r path) = some loc
        ∧ (fs.process r path).1.shapeAt loc
            = some (.file ((withFunctions path functions).render r).toUTF8) := by
  have hadds := createDirectories_adds fs (Path.directory (destination r path))
  obtain ⟨failure, -, hp⟩ | ⟨m, -, -, hp⟩ | ⟨m, failure, -, -, -, -, hfs | hfs⟩ |
    ⟨m, made, done, hscan, hne, -, -, hcreate, hwrite, hp⟩ := process_cases fs r path
  · rw [hp]
    exact Or.inl hs
  · rw [hp]
    exact Or.inl hs
  · rw [hfs]
    exact Or.inl hs
  · rw [hfs]
    exact Or.inl (hadds.keep hs)
  · rw [hcreate] at hadds
    rw [hp]
    -- making directories leaves the file alone, so only the write counts
    rcases write_at_file hwrite (hadds.keep hs) with ⟨hdest, hdone⟩ | ⟨-, hdone⟩
    · obtain ⟨-, -, -, -, -, hm⟩ := scanFile_ok hscan
      obtain ⟨content, hread, hscans⟩ := scans_of_scanFile hscan
      refine Or.inr ⟨content, m.functions, hread, hscans, hne,
        locate?_grows (write_grows hwrite) hdest, ?_⟩
      rw [← hm]
      exact hdone
    · exact Or.inl (hdone.trans (hadds.keep hs))

/-! ## §3. All source files -/

/-- Whether what became of a source ends the batch. -/
def endsBatch : Except Failure FileOutcome → Bool
  | .ok _ => false
  | .error failure => !failure.isPerModule

theorem error_of_endsBatch {outcome : Except Failure FileOutcome} (h : endsBatch outcome = true) :
    ∃ failure, outcome = .error failure ∧ failure.isPerModule = false := by
  cases outcome with
  | ok outcome => cases h
  | error failure => exact ⟨failure, rfl, by simpa [endsBatch] using h⟩

/-- The report with one more source in front. -/
def noteOutcome (path : ByteString) (outcome : Except Failure FileOutcome) (report : Report) : Report :=
  match outcome with
  | .ok (.written output) => { report with written := output :: report.written }
  | .ok .noFunctions => { report with skipped := path :: report.skipped }
  | .error failure => { report with failed := (path, failure) :: report.failed }

theorem processAll_ends {rest : List ByteString} {failure : Failure}
    (h : (fs.process r path).2 = .error failure) (hends : failure.isPerModule = false) :
    fs.processAll r (path :: rest) = ((fs.process r path).1, .error failure) := by
  rw [processAll]
  cases hp : fs.process r path with
  | mk next outcome =>
      rw [hp] at h
      simp only at h
      rw [h]
      simp only [hends, Bool.false_eq_true, if_false]

/-- A source that does not end the batch is noted, and the batch goes on. -/
theorem processAll_goes_on (rest : List ByteString) (h : endsBatch (fs.process r path).2 = false) :
    fs.processAll r (path :: rest)
      = (((fs.process r path).1.processAll r rest).1,
          ((fs.process r path).1.processAll r rest).2.map
            (noteOutcome path (fs.process r path).2)) := by
  rw [processAll]
  cases hp : fs.process r path with
  | mk next outcome =>
      rw [hp] at h
      cases outcome with
      | ok outcome => cases outcome <;> rfl
      | error failure =>
          have hper : failure.isPerModule = true := by simpa [endsBatch] using h
          simp only [hper, if_true]
          rfl

/-- No source of a batch that succeeds ends it. -/
theorem goes_on_of_ok {g after : FileSystem} {r : RenderSettings} {path : ByteString}
    {rest : List ByteString} {report : Report}
    (h : g.processAll r (path :: rest) = (after, .ok report)) :
    endsBatch (g.process r path).2 = false := by
  cases hp : (g.process r path).2 with
  | ok outcome => rfl
  | error failure =>
      by_cases hper : failure.isPerModule = true
      · simp [endsBatch, hper]
      · rw [processAll_ends hp (by simpa using hper)] at h
        cases h

/-- **What a batch leaves behind**, whether it succeeds or not: what every source keeps, the batch
    keeps. -/
theorem processAll_induct {P : FileSystem → Prop} {paths : List ByteString}
    (hstep : ∀ path ∈ paths, ∀ {fs : FileSystem}, P fs → P (fs.process r path).1) (h : P fs) :
    P (fs.processAll r paths).1 := by
  induction paths generalizing fs with
  | nil => exact h
  | cons path rest ih =>
      have hnext := hstep path List.mem_cons_self h
      have hrest := fun {next : FileSystem} (hn : P next) =>
        ih (fun p hp => hstep p (List.mem_cons_of_mem path hp)) hn
      -- the batch goes on, or what this source leaves behind is all
      cases hends : endsBatch (fs.process r path).2 with
      | false =>
          rw [processAll_goes_on rest hends]
          exact hrest hnext
      | true =>
          cases hp : (fs.process r path).2 with
          | ok outcome =>
              rw [hp] at hends
              cases hends
          | error failure =>
              rw [hp] at hends
              rw [processAll_ends hp (by simpa [endsBatch] using hends)]
              exact hnext

/-! ## §4. What a source may read as -/

/-- The destination of a source leads to where a path leads. -/
def Meets (fs : FileSystem) (r : RenderSettings) (t other : ByteString) : Prop :=
  ∃ loc, fs.locate? t = some loc ∧ fs.locate? (destination r other) = some loc

/-- **What a source may read as** in the course of a batch: as before it, or as tests that were rendered
    for another source, of the functions in what that one could read as.  The destination of the
    other one leads to the source in `places`. -/
inductive MayHold (before places : FileSystem) (r : RenderSettings) (sources : List ByteString) :
    ByteString → ByteArray → Prop where
  /-- What it held before. -/
  | own {t : ByteString} {content : ByteArray} :
      before.readBytes t = .ok content → MayHold before places r sources t content
  /-- The tests of a source. -/
  | tests {t other : ByteString} {content : ByteArray} {functions : List Function} :
      other ∈ sources → places.Meets r t other → MayHold before places r sources other content →
      Scans content functions → functions ≠ [] →
      MayHold before places r sources t ((withFunctions other functions).render r).toUTF8

/-- The bytes of tests of a source, rendered for the functions in what it may read as. -/
def AreTestsOf (before places : FileSystem) (r : RenderSettings) (sources : List ByteString)
    (t : ByteString) (tests : ByteArray) : Prop :=
  ∃ content functions, MayHold before places r sources t content ∧ Scans content functions
    ∧ functions ≠ [] ∧ tests = ((withFunctions t functions).render r).toUTF8

theorem AreTestsOf.mayHold {before places : FileSystem} {sources : List ByteString} {t other : ByteString}
    {tests : ByteArray} (h : AreTestsOf before places r sources other tests)
    (hother : other ∈ sources) (hmeets : places.Meets r t other) :
    MayHold before places r sources t tests := by
  obtain ⟨content, functions, hheld, hscans, hne, rfl⟩ := h
  exact .tests hother hmeets hheld hscans hne

/-! ## §5. Whole runs -/

/-- A run that succeeds is told from its report. -/
theorem generate_of_report {fs : FileSystem} {s : Settings} {paths : List ByteString} {report : Report}
    (h : (fs.generate s paths).2.toOption = some report) :
    fs.generate s paths = ((fs.generate s paths).1, .ok report) :=
  Prod.ext rfl (eq_ok_of_toOption h)

theorem generate_of_collect {fs : FileSystem} {s : Settings} {paths sources : List ByteString}
    (h : fs.collect s.filter paths = .ok sources) :
    fs.generate s paths = fs.processAll s.render sources := by
  unfold generate
  rw [h]

theorem generate_eq_ok {fs after : FileSystem} {s : Settings} {paths : List ByteString}
    {report : Report} (h : fs.generate s paths = (after, .ok report)) :
    ∃ sources, fs.collect s.filter paths = .ok sources
      ∧ fs.processAll s.render sources = (after, .ok report) := by
  unfold generate at h
  cases hcollect : fs.collect s.filter paths with
  | error failure =>
      rw [hcollect] at h
      cases h
  | ok sources =>
      rw [hcollect] at h
      exact ⟨sources, rfl, h⟩

end FileSystem

end TestScaffold
