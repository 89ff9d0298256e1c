/-
  TestScaffold.Proofs.Batch.Run — runs whose output directory is ignored.

  When test modules go to a directory whose name is ignored, a run never meets what it has
  written: a path with that directory in it is not accepted as a source.  So every source is
  read as it was before the run, and what the run does can be told beforehand:

    * `written_shapes` — one test module is one file in one directory;
    * `process_step` — the step: each source is dealt with as before the run;
    * `processAll_run` — the run: a batch that succeeds carries out the plan made beforehand,
      and reports what could be reported beforehand.
-/
import TestScaffold.Proofs.Batch.Placement
import TestScaffold.Proofs.Batch.Plan
import TestScaffold.Proofs.Discovery.Sources
import TestScaffold.Proofs.FileSystem.Identity

namespace TestScaffold

open SourceModule

/-! ## §1. Settings that hide what is written -/

/-- Test modules go to a directory of one name, and directories of that name are ignored. -/
structure Settings.HidesOutput (s : Settings) : Prop where
  /-- The output directory is one ordinary name. -/
  named : Path.isOrdinary s.render.outputDir = true
  /-- An ignored folder occurs in it. -/
  ignored : ∃ token ∈ s.filter.foldersToIgnore, Text.occursIn token s.render.outputDir = true
  /-- The module prefix has no slash. -/
  unslashed : '/' ∉ s.render.modulePrefix.toList

namespace Settings.HidesOutput

variable {s : Settings} (hs : s.HidesOutput)
include hs

theorem leadsDown : s.render.LeadsDown := by
  refine ⟨?_, Path.parent_not_mem_components ?_, hs.unslashed⟩
  · unfold Path.isAbsolute
    simpa using Path.head?_ordinary hs.named
  · rw [Route.spelled_ordinary hs.named]
    simp

theorem names_outputDir : Path.names s.render.outputDir = [ByteString.ofText s.render.outputDir] := by
  unfold Path.names
  rw [Route.spelled_ordinary hs.named]
  rfl

/-- **What is in the output directory is not accepted**, however it is spelled. -/
theorem accepts_eq_false {t : ByteString} (ht : (s.render.outputDir : ByteString) ∈ Path.names (Path.directory t)) :
    s.filter.accepts t = false := by
  obtain ⟨token, hmem, htoken⟩ := hs.ignored
  have hinfix : token.toList <:+: (Path.directory t).text.toList := by
    have hread := Path.text_infix_of_mem_names ht
    rw [ByteString.text_ofText] at hread
    exact (Text.occursIn_iff.mp htoken).trans hread
  have hignored : s.filter.inIgnoredFolder t = true :=
    List.any_eq_true.mpr ⟨token, hmem, Text.occursIn_iff.mpr hinfix⟩
  simp [FilterSettings.accepts, hignored]

end Settings.HidesOutput

namespace FileSystem

/-! ## §2. Sources and their places -/

/-- A source of a run that starts at `base`: its names lead there, and none of them but the last is
    the output directory. -/
structure IsSource (fs : FileSystem) (s : Settings) (absolute : Bool) (base : Location) (t : ByteString) :
    Prop extends fs.Finds t where
  /-- All paths of the run are absolute, or all are relative. -/
  rooted : Path.isAbsolute t = absolute
  /-- The path starts at `base`. -/
  starts : fs.start (Route.ofPath t) = base
  /-- The path never goes up. -/
  downward : .up ∉ (Route.ofPath t).steps
  /-- The path does not go through an output directory. -/
  apart : (s.render.outputDir : ByteString) ∉ Path.names (Path.directory t)

/-- The place of the test module of a source. -/
def testPlace (r : RenderSettings) (base : Location) (t : ByteString) : Location :=
  base ++ (Path.names (Path.directory t) ++ [ByteString.ofText r.outputDir, testName r t])

theorem dropLast_testPlace (r : RenderSettings) (base : Location) (t : ByteString) :
    (testPlace r base t).dropLast = base ++ (Path.names (Path.directory t) ++ [ByteString.ofText r.outputDir]) := by
  have hsplit : testPlace r base t
      = (base ++ (Path.names (Path.directory t) ++ [ByteString.ofText r.outputDir])) ++ [testName r t] := by
    simp [testPlace]
  rw [hsplit, List.dropLast_concat]

namespace IsSource

variable {fs : FileSystem} {s : Settings} {absolute : Bool} {base : Location} {t : ByteString}
  (ht : fs.IsSource s absolute base t)
include ht

/-- Without links a source leads down to a file. -/
theorem leadsDown (hfree : fs.LinkFree) : fs.LeadsDown t (base ++ Path.names t) := by
  obtain ⟨loc, content, hloc, hthere⟩ := ht.traced
  have hplace := location_of_traced? hfree ht.downward hloc
  rw [ht.starts] at hplace
  subst hplace
  exact ⟨ht.downward, hloc, _, hthere, Shape.noConfusion⟩

/-- A source stands where its names lead. -/
theorem location {g : FileSystem} (hg : Grows fs g) (hfree : g.LinkFree) {loc : Location}
    {e : Entry} (h : g.entryAt t = .ok (loc, e)) : loc = base ++ Path.names t := by
  rw [location_of_entryAt hfree ht.downward h, hg.start, ht.starts]

theorem testLocation_eq (hs : s.HidesOutput) {g : FileSystem} (hg : Grows fs g)
    (hfree : g.LinkFree) {loc : Location} {e : Entry} (h : g.entryAt t = .ok (loc, e)) :
    testLocation s.render t loc = testPlace s.render base t := by
  obtain ⟨name, hname⟩ := ht.named
  rw [ht.location hg hfree h, Path.names_of_fileName hname, ← List.append_assoc, testLocation,
    List.dropLast_concat, hs.names_outputDir, List.append_assoc]
  rfl

/-- **No test module is placed at a source.** -/
theorem ne_testPlace (other : ByteString) :
    base ++ Path.names t ≠ testPlace s.render base other := by
  intro heq
  obtain ⟨name, hname⟩ := ht.named
  have hdrop := congrArg List.dropLast heq
  rw [Path.names_of_fileName hname, ← List.append_assoc, List.dropLast_concat,
    dropLast_testPlace] at hdrop
  refine ht.apart ?_
  rw [List.append_cancel_left hdrop]
  simp

/-- No test module is placed where the directory of another one is. -/
theorem testPlace_ne_dropLast (other : ByteString) :
    testPlace s.render base other ≠ (testPlace s.render base t).dropLast := by
  intro heq
  have hdrop : base ++ (Path.names (Path.directory other) ++ [ByteString.ofText s.render.outputDir])
      = base ++ Path.names (Path.directory t) := by
    rw [← dropLast_testPlace s.render base other, heq, dropLast_testPlace, ← List.append_assoc,
      List.dropLast_concat]
  refine ht.apart ?_
  rw [← List.append_cancel_left hdrop]
  simp

/-- **Two sources have one identity** if and only if they have the same names. -/
theorem identity_eq_iff (hw : fs.WellFormed) (hfree : fs.LinkFree) {u : ByteString} (hu : fs.IsSource s absolute base u) :
    fs.identity t = fs.identity u ↔ Path.names t = Path.names u :=
  FileSystem.identity_eq_iff hw hfree (ht.leadsDown hfree) (hu.leadsDown hfree)
    (ht.rooted.trans hu.rooted.symm)

end IsSource

/-- **The collected paths are sources of one run**: they start together, never go up, and none of
    them goes through an output directory. -/
theorem isSource_of_mem_collect {fs : FileSystem} (hw : fs.WellFormed) {s : Settings}
    (hs : s.HidesOutput) {paths sources : List ByteString} {absolute : Bool} {base : Location}
    (hstart : ∀ p ∈ paths, Path.isAbsolute p = absolute ∧ fs.start (Route.ofPath p) = base)
    (hdown : ∀ p ∈ paths, .parent ∉ Path.components p)
    (hcollect : fs.collect s.filter paths = .ok sources) :
    ∀ t ∈ sources, fs.IsSource s absolute base t := by
  intro t ht
  obtain ⟨haccepts, path, hpath, part, hpart, hmem⟩ := mem_collect hcollect ht
  obtain ⟨hfinds, hfrom, hup, -⟩ := mem_expand hw hpart hmem
  obtain ⟨habs, hbase⟩ := hstart path hpath
  refine ⟨hfinds, ?_, ?_, hup (Path.up_not_mem_spelled (hdown path hpath)), ?_⟩
  · rw [← habs]
    exact hfrom
  · rw [← hbase]
    unfold start
    rw [hfrom]
  · intro hhidden
    rw [hs.accepts_eq_false hhidden] at haccepts
    cases haccepts

/-- Paths that are all absolute or all relative start together. -/
theorem exists_start (fs : FileSystem) {paths : List ByteString}
    (hroot : (∀ p ∈ paths, Path.isAbsolute p = true) ∨ (∀ p ∈ paths, Path.isAbsolute p = false)) :
    ∃ absolute base, ∀ p ∈ paths,
      Path.isAbsolute p = absolute ∧ fs.start (Route.ofPath p) = base := by
  obtain ⟨absolute, habsolute⟩ : ∃ b, ∀ p ∈ paths, Path.isAbsolute p = b := by
    rcases hroot with h | h
    · exact ⟨true, h⟩
    · exact ⟨false, h⟩
  -- absolute paths start at the root, relative ones at the working directory
  refine ⟨absolute, if absolute then [] else fs.cwd, fun p hp => ⟨habsolute p hp, ?_⟩⟩
  unfold start
  rw [show (Route.ofPath p).fromRoot = absolute from habsolute p hp]

theorem exists_isSource {fs : FileSystem} (hw : fs.WellFormed) {s : Settings} (hs : s.HidesOutput)
    {paths sources : List ByteString}
    (hroot : (∀ p ∈ paths, Path.isAbsolute p = true) ∨ (∀ p ∈ paths, Path.isAbsolute p = false))
    (hdown : ∀ p ∈ paths, .parent ∉ Path.components p)
    (hcollect : fs.collect s.filter paths = .ok sources) :
    ∃ absolute base, (∀ p ∈ paths, fs.start (Route.ofPath p) = base)
      ∧ ∀ t ∈ sources, fs.IsSource s absolute base t := by
  obtain ⟨absolute, base, hstart⟩ := exists_start fs hroot
  exact ⟨absolute, base, fun p hp => (hstart p hp).2,
    isSource_of_mem_collect hw hs hstart hdown hcollect⟩

/-! ## §3. One test module -/

theorem directory_destination {s : Settings} (hs : s.HidesOutput) (t : ByteString) :
    Path.directory (destination s.render t)
      = Path.join (Path.directory t) s.render.outputDir :=
  Path.directory_join hs.named (isOrdinary_testName hs.unslashed t)

/-- Where the destination is looked at, so is its directory. -/
theorem route_directory_destination {s : Settings} (hs : s.HidesOutput) {t : ByteString} {r : Route}
    (h : route (destination s.render t) = .ok r) :
    route (Path.join (Path.directory t) s.render.outputDir)
      = .ok (Route.ofPath (Path.join (Path.directory t) s.render.outputDir)) := by
  have hsteps := steps_destination hs.leadsDown t
  rw [← List.append_assoc] at hsteps
  obtain ⟨-, -, -, hpre, -, -⟩ := Path.steps_of_fileName (Path.fileName?_of_steps hsteps)
  rw [directory_destination hs] at hpre
  exact route_of_sublist h hpre.sublist (Path.join_ne_nil hs.named)

theorem dropLast_testLocation {s : Settings} (hs : s.HidesOutput) (t : ByteString) (loc : Location) :
    (testLocation s.render t loc).dropLast = loc.dropLast ++ [ByteString.ofText s.render.outputDir] := by
  rw [testLocation, hs.names_outputDir, ← List.append_assoc, List.dropLast_concat]

section Written

variable {fs : FileSystem} (hw : fs.WellFormed) (hfree : fs.LinkFree) {s : Settings}
  (hs : s.HidesOutput) {t : ByteString} {loc : Location} {old : ByteArray}
  (he : fs.entryAt t = .ok (loc, .file old))
include hw hfree hs he

/-- **Writing a test module** puts one file into one directory. -/
theorem written_shapes {made done : FileSystem} {content : ByteArray}
    (hmade : fs.createDirectories (Path.directory (destination s.render t)) = (made, .ok ()))
    (hwrite : made.write (destination s.render t) content = .ok done) :
    done.shapeAt = Shapes.put fs.shapeAt (testLocation s.render t loc) content
      ∧ done.locate? (destination s.render t) = some (testLocation s.render t loc) := by
  have hadds := createDirectories_adds fs (Path.directory (destination s.render t))
  have hmw := createDirectories_wellFormed (Path.directory (destination s.render t)) hw
  rw [hmade] at hadds hmw
  have hmfree := hadds.linkFree hfree
  obtain ⟨es, hd⟩ := follow_own_directory hw hfree he Shape.noConfusion
  rw [directory_destination hs] at hmade
  have hdirs := createDirectories_child hfree hs.named hd hmade
  obtain ⟨new, hnew⟩ := entryAt_file_grows hadds.grows he
  obtain ⟨target, htarget, -, hshapes⟩ := write_shapes hmw hwrite
  -- the write goes to the place of the tests, whatever stood there
  have hplace : target.location = testLocation s.render t loc :=
    resolve_destination hmw hmfree hs.leadsDown hnew Shape.noConfusion htarget
  rw [hplace] at hshapes
  have hne : testLocation s.render t loc ≠ loc.dropLast ++ [ByteString.ofText s.render.outputDir] := by
    intro heq
    have hlen := congrArg List.length heq
    simp [testLocation, hs.names_outputDir] at hlen
  refine ⟨?_, ?_⟩
  · funext l
    rw [hshapes, hdirs, hdirs, if_neg hne, Shapes.put, dropLast_testLocation hs]
  · obtain ⟨newer, hnewer⟩ := entryAt_file_grows (write_grows hwrite) hnew
    have hthere := hshapes (testLocation s.render t loc)
    rw [if_pos rfl] at hthere
    exact locate?_destination (write_wellFormed hmw hwrite) (write_linkFree hmw hmfree hwrite)
      hs.leadsDown hnewer Shape.noConfusion (resolve_eq_follow htarget).1 hthere

end Written

/-! ## §4. What can be told before the run -/

/-- The test module that is written for a source, and its place. -/
def planned? (fs : FileSystem) (r : RenderSettings) (base : Location) (t : ByteString) :
    Option (Location × ByteArray) :=
  match fs.scanFile t with
  | .ok m =>
    if m.functions.isEmpty then none else some (testPlace r base t, (m.render r).toUTF8)
  | .error _ => none

/-- The test modules that are written for the sources. -/
def planFor (fs : FileSystem) (r : RenderSettings) (base : Location) (sources : List ByteString) : Plan :=
  sources.filterMap (fs.planned? r base)

/-- What becomes of a source, unless its tests cannot be written. -/
def outcomeOf (fs : FileSystem) (r : RenderSettings) (t : ByteString) : Except Failure FileOutcome :=
  match fs.scanFile t with
  | .ok m => .ok (if m.functions.isEmpty then .noFunctions else .written (destination r t))
  | .error failure => .error failure

/-- The report of a run that succeeds. -/
def foretold (fs : FileSystem) (r : RenderSettings) (sources : List ByteString) : Report :=
  sources.foldr (fun t => noteOutcome t (fs.outcomeOf r t)) {}

theorem planned?_eq_some {fs : FileSystem} {r : RenderSettings} {base : Location} {t : ByteString}
    {file : Location × ByteArray} :
    fs.planned? r base t = some file ↔
      ∃ m, fs.scanFile t = .ok m ∧ m.functions ≠ []
        ∧ file = (testPlace r base t, (m.render r).toUTF8) := by
  unfold planned?
  cases fs.scanFile t with
  | error failure => simp
  | ok m =>
      constructor
      · intro h
        simp only at h
        split at h
        · cases h
        · rename_i hne
          cases h
          exact ⟨m, rfl, by simpa using hne, rfl⟩
      · rintro ⟨m', hm, hne, rfl⟩
        cases hm
        have hcond : m.functions.isEmpty = false := by simpa using hne
        simp only [hcond, Bool.false_eq_true, if_false]

theorem mem_planFor {fs : FileSystem} {r : RenderSettings} {base : Location}
    {sources : List ByteString} {file : Location × ByteArray} :
    file ∈ fs.planFor r base sources ↔ ∃ t ∈ sources, fs.planned? r base t = some file := by
  unfold planFor
  rw [List.mem_filterMap]

theorem mem_written_foretold {fs : FileSystem} {r : RenderSettings} {sources : List ByteString}
    {output : ByteString} (h : output ∈ (fs.foretold r sources).written) :
    ∃ t ∈ sources, ∃ m, fs.scanFile t = .ok m ∧ m.functions ≠ [] ∧ output = destination r t := by
  induction sources with
  | nil => exact absurd h List.not_mem_nil
  | cons t rest ih =>
      have hrest : output ∈ (fs.foretold r rest).written → ∃ u ∈ t :: rest, ∃ m,
          fs.scanFile u = .ok m ∧ m.functions ≠ [] ∧ output = destination r u := by
        intro hmem
        obtain ⟨u, hu, htold⟩ := ih hmem
        exact ⟨u, List.mem_cons_of_mem t hu, htold⟩
      have hcons : fs.foretold r (t :: rest)
          = noteOutcome t (fs.outcomeOf r t) (fs.foretold r rest) := rfl
      rw [hcons, outcomeOf] at h
      -- only a source with functions adds to what is written
      cases hscan : fs.scanFile t with
      | error failure =>
          rw [hscan] at h
          exact hrest h
      | ok m =>
          rw [hscan] at h
          by_cases hempty : m.functions.isEmpty = true
          · simp only [hempty, if_true] at h
            exact hrest h
          · simp only [hempty, if_false, Bool.false_eq_true] at h
            rcases List.mem_cons.mp h with rfl | h
            · exact ⟨t, List.mem_cons_self, m, hscan, by simpa using hempty, rfl⟩
            · exact hrest h

/-- A plan for sources never puts a file where it needs a directory. -/
theorem planFor_apart {fs : FileSystem} {s : Settings} {absolute : Bool} {base : Location}
    {sources : List ByteString}
    (hsources : ∀ t ∈ sources, fs.IsSource s absolute base t) :
    Plan.Apart (fs.planFor s.render base sources) := by
  intro file hfile
  obtain ⟨t, -, ht⟩ := mem_planFor.mp hfile
  obtain ⟨m, -, -, rfl⟩ := planned?_eq_some.mp ht
  refine List.any_eq_false.mpr ?_
  intro other hother
  obtain ⟨u, hu, huplan⟩ := mem_planFor.mp hother
  obtain ⟨-, -, -, rfl⟩ := planned?_eq_some.mp huplan
  simpa using (hsources u hu).testPlace_ne_dropLast t

/-! ## §5. The step -/

/-- The states of a run: nothing was taken away, and every source reads as before the run. -/
structure Running (fs : FileSystem) (sources : List ByteString) (g : FileSystem) : Prop where
  /-- The file system stays well-formed. -/
  ordered : g.WellFormed
  /-- No links appear. -/
  linkFree : g.LinkFree
  /-- Nothing is taken away. -/
  grows : Grows fs g
  /-- The sources keep their bytes. -/
  reads : ∀ t ∈ sources, g.readBytes t = fs.readBytes t

/-- The tests of a source are written, and stand where it was planned. -/
def HasTests (fs : FileSystem) (r : RenderSettings) (base : Location) (g : FileSystem)
    (t : ByteString) : Prop :=
  ∀ m, fs.scanFile t = .ok m → m.functions ≠ [] → m.overflows r = false
    ∧ ∃ e, g.entryAt (destination r t) = .ok (testPlace r base t, e) ∧ e.isEnd = true

theorem HasTests.grows {fs g g' : FileSystem} {r : RenderSettings} {base : Location} {t : ByteString}
    (h : fs.HasTests r base g t) (hg : Grows g g') : fs.HasTests r base g' t := by
  intro m hscan hne
  obtain ⟨hfits, e, he, hend⟩ := h m hscan hne
  exact ⟨hfits, entryAt_isEnd_grows hg he hend⟩

section Run

variable {fs : FileSystem} {s : Settings} (hs : s.HidesOutput) {absolute : Bool} {base : Location}
  {sources : List ByteString} (hsources : ∀ t ∈ sources, fs.IsSource s absolute base t)
include hs hsources

/-- A state in which one more test module was written is a state of the run. -/
theorem running_written {g made done : FileSystem} (hg : fs.Running sources g) {t : ByteString}
    (ht : t ∈ sources) {m : SourceModule} (hscan : g.scanFile t = .ok m) (hne : m.functions ≠ [])
    (hmade : g.createDirectories (Path.directory (destination s.render t)) = (made, .ok ()))
    (hwrite : made.write (destination s.render t) (m.render s.render).toUTF8 = .ok done)
    (hprocess : g.process s.render t = (done, .ok (.written (destination s.render t)))) :
    fs.Running sources done
      ∧ done.shapeAt
          = Shapes.put g.shapeAt (testPlace s.render base t) (m.render s.render).toUTF8
      ∧ done.locate? (destination s.render t) = some (testPlace s.render base t) := by
  obtain ⟨loc, content, hl, hshape, -⟩ := file_of_scanFile hscan hne
  have he := entryAt_file hl hshape
  obtain ⟨hshapes, hdest⟩ := written_shapes hg.ordered hg.linkFree hs he hmade hwrite
  rw [(hsources t ht).testLocation_eq hs hg.grows hg.linkFree he] at hshapes hdest
  obtain ⟨hw', hfree', hgrows⟩ := process_grows hg.ordered hg.linkFree s.render t
  have hkeep := fun {l : Location} {old : ByteArray} => @process_at_file g s.render t l old
  rw [hprocess] at hw' hfree' hgrows
  refine ⟨⟨hw', hfree', hg.grows.trans hgrows, ?_⟩, hshapes, hdest⟩
  -- every source still reads as before, because its file is not the place of these tests
  intro u hu
  rw [← hg.reads u hu]
  by_cases hroute : ∃ r', route u = .ok r'
  · obtain ⟨r', hroute⟩ := hroute
    obtain ⟨lu, first, hfirst⟩ := (hsources u hu).leads hroute
    obtain ⟨now, hnow⟩ := entryAt_file_grows hg.grows hfirst
    have hplace := (hsources u hu).location hg.grows hg.linkFree hnow
    have hold := shapeAt_of_entryAt hnow
    have hlu : g.locate? u = some lu := locate?_eq_some.mpr ⟨_, hnow⟩
    rcases hkeep hold with hkept | ⟨-, -, -, -, -, hdest', -⟩
    · rw [hprocess] at hkept
      exact readBytes_grows hgrows hlu hold hkept
    · -- the tests would be placed at a source
      rw [hprocess, hdest] at hdest'
      have hsame : testPlace s.render base t = lu := Option.some.inj hdest'
      exact absurd (hplace.symm.trans hsame.symm) ((hsources u hu).ne_testPlace t)
  · exact readBytes_of_no_route (fun r' hr' => hroute ⟨r', hr'⟩) _ _

/-- **The step**: what becomes of a source is what was to become of it before the run, and its part
    of the plan is carried out, unless its tests cannot be written. -/
theorem process_step {g : FileSystem} (hg : fs.Running sources g) {t : ByteString} (ht : t ∈ sources) :
    (∃ failure, (g.process s.render t).2 = .error failure ∧ failure.isPerModule = false)
    ∨ (endsBatch (g.process s.render t).2 = false
        ∧ (g.process s.render t).2 = fs.outcomeOf s.render t
        ∧ fs.Running sources (g.process s.render t).1 ∧ Grows g (g.process s.render t).1
        ∧ (g.process s.render t).1.shapeAt
            = (fs.planFor s.render base [t]).carryOut g.shapeAt
        ∧ fs.HasTests s.render base (g.process s.render t).1 t) := by
  have hgrows := (process_grows hg.ordered hg.linkFree s.render t).2.2
  -- the source still reads as before the run, so it scans as before
  have hsame : g.scanFile t = fs.scanFile t := scanFile_congr (hg.reads t ht)
  unfold planFor HasTests outcomeOf planned?
  rw [List.filterMap_cons, List.filterMap_nil, ← hsame]
  obtain ⟨failure, hscan, hp⟩ | ⟨m, hscan, hempty, hp⟩ | ⟨-, failure, -, -, hp, hfatal, -⟩ |
    ⟨m, made, done, hscan, hne, -, hfits, hmade, hwrite, hp⟩ := process_cases g s.render t
  · refine Or.inr ?_
    rw [hp, hscan]
    exact ⟨by simpa [endsBatch] using scanFile_error hscan, rfl, hg, Grows.refl g, rfl, by simp⟩
  · refine Or.inr ?_
    rw [hp, hscan]
    simp only [hempty, List.isEmpty_nil, if_true]
    exact ⟨rfl, trivial, hg, Grows.refl g, rfl, by simp [hempty]⟩
  · exact Or.inl ⟨failure, hp, hfatal⟩
  · obtain ⟨hrun, hshapes, hdest⟩ := running_written hs hsources hg ht hscan hne hmade hwrite hp
    have hcond : m.functions.isEmpty = false := by simpa using hne
    refine Or.inr ?_
    rw [hp] at hgrows ⊢
    rw [hscan]
    simp only [hcond, Bool.false_eq_true, if_false]
    refine ⟨rfl, trivial, hrun, hgrows, hshapes, ?_⟩
    intro m' hm' _
    cases hm'
    obtain ⟨e, he⟩ := locate?_eq_some.mp hdest
    have hshape := shapeAt_of_entryAt he
    rw [hshapes, Shapes.put, if_pos rfl] at hshape
    exact ⟨hfits, e, he, isEnd_of_written (Option.some.inj hshape).symm⟩

/-! ## §6. The run -/

/-- **The run**: a batch that succeeds carries out the plan made beforehand, and reports what could
    be reported beforehand. -/
theorem processAll_run {rest : List ByteString} (hrest : ∀ t ∈ rest, t ∈ sources) {g : FileSystem}
    (hg : fs.Running sources g) {after : FileSystem} {report : Report}
    (h : g.processAll s.render rest = (after, .ok report)) :
    report = fs.foretold s.render rest ∧ fs.Running sources after ∧ Grows g after
      ∧ after.shapeAt = (fs.planFor s.render base rest).carryOut g.shapeAt
      ∧ ∀ t ∈ rest, fs.HasTests s.render base after t := by
  -- on the sources that are left; the state is the one before the next source
  induction rest generalizing g report with
  | nil =>
      cases h
      exact ⟨rfl, hg, Grows.refl _, rfl, fun t ht => absurd ht List.not_mem_nil⟩
  | cons t rest ih =>
      obtain ⟨failure, hp, hfatal⟩ | ⟨hends, hout, hrun, hgrows, hshapes, htests⟩ :=
        process_step hs hsources hg (hrest t List.mem_cons_self)
      · rw [processAll_ends hp hfatal] at h
        cases h
      · rw [processAll_goes_on rest hends] at h
        cases hlater : (g.process s.render t).1.processAll s.render rest with
        | mk done result =>
            rw [hlater] at h
            cases result with
            | error failure => cases h
            | ok later =>
                cases h
                obtain ⟨hreport, hrun', hgrows', hshapes', htests'⟩ :=
                  ih (fun u hu => hrest u (List.mem_cons_of_mem t hu)) hrun hlater
                refine ⟨?_, hrun', hgrows.trans hgrows', ?_, ?_⟩
                · rw [hreport, hout]
                  rfl
                · have hplan : fs.planFor s.render base (t :: rest)
                      = fs.planFor s.render base [t] ++ fs.planFor s.render base rest := by
                    rw [planFor, planFor, planFor, ← List.filterMap_append]
                    rfl
                  rw [hshapes', hshapes, hplan, Plan.carryOut_append]
                · intro u hu
                  rcases List.mem_cons.mp hu with rfl | hu
                  · exact htests.grows hgrows'
                  · exact htests' u hu

end Run

/-! ## §7. A small project -/

/-- The default settings are such settings. -/
theorem default_hidesOutput : ({} : Settings).HidesOutput :=
  ⟨by decide +kernel, ⟨"tests", by decide, by decide +kernel⟩, by decide +kernel⟩

/-- A module and old tests of it, in a working directory that has itself the ignored name. -/
def project : FileSystem :=
  { top := [("tests", .directory
      [("a.py", .file "def f():\n  pass\n".toUTF8),
        ("tests", .directory [("test_a.py", .file "old\n".toUTF8)])])]
    cwd := ["tests"] }

theorem project_wellFormed : project.WellFormed :=
  ⟨by decide +kernel, by decide +kernel⟩

theorem project_linkFree : project.LinkFree :=
  linkFree_of_entries (by decide +kernel)

theorem project_generates :
    ∃ report, project.generate {} ["."] = ((project.generate {} ["."]).1, .ok report) := by
  have hsome : (project.generate {} ["."]).2.toOption.isSome = true := by decide +kernel
  obtain ⟨report, hreport⟩ := Option.isSome_iff_exists.mp hsome
  exact ⟨report, generate_of_report hreport⟩

end FileSystem

end TestScaffold
