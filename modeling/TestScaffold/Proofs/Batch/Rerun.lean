/-
  TestScaffold.Proofs.Batch.Rerun — running again changes nothing.

  After a run that succeeds, with an output directory that is ignored, the same run finds
  the same sources, can write every test module again, and puts the same texts in the same
  places:

    * `identity_destination_ne` — the guard of a source lets its tests pass once they are there;
    * `processAll_again` — so a second run succeeds;
    * `growsInside_plan` — what was written is in ignored directories only;
    * `generate_again` — a second run reports the same and leaves the file system as it is, unless
      the first one made a directory whose path is too long to list;
    * `generate_not_again` — below a path of the greatest length that happens.
-/
import TestScaffold.Proofs.Batch.Effect
import TestScaffold.Proofs.Discovery.FixedPoint
import TestScaffold.Proofs.Discovery.Hidden
import TestScaffold.Proofs.Path.NormalForm

namespace TestScaffold.FileSystem

open SourceModule

/-! ## §1. The guard of a source -/

theorem names_assumedPath (t : ByteString) :
    Path.names (assumedPath t)
      = Path.names (Path.directory t) ++ [ByteString.ofText (Path.stem t ++ "." ++ pythonExtension)] :=
  Path.names_join (isOrdinary_fileName t)

section Guard

variable {fs g : FileSystem} {s : Settings} {absolute : Bool} {base : Location} {t : ByteString}
  (ht : fs.IsSource s absolute base t)
include ht

theorem up_not_mem_assumedPath : .up ∉ Route.spelled (assumedPath t).toList := by
  obtain ⟨name, hname⟩ := ht.named
  rw [assumedPath_eq, Path.spelled_join_name (isOrdinary_fileName t)]
  simpa using Path.up_not_mem_directory hname ht.downward

theorem isAbsolute_assumedPath : Path.isAbsolute (assumedPath t) = absolute := by
  obtain ⟨name, hname⟩ := ht.named
  obtain ⟨-, -, -, -, hroot, -⟩ := Path.steps_of_fileName hname
  have hfrom : (Route.ofPath (Path.join (Path.directory t)
        (.ofText (Path.stem t ++ "." ++ pythonExtension)))).fromRoot
      = (Route.ofPath (Path.directory t)).fromRoot :=
    Path.fromRoot_join (isOrdinary_fileName t)
  rw [Route.ofPath_fromRoot (Path.directory t), ← hroot] at hfrom
  rw [assumedPath_eq, ← ht.rooted]
  exact hfrom

/-- **The guard lets the tests pass**, at any time and wherever the paths lead: the identity of their
    path is never that of the path that the source is assumed to have, which has fewer names. -/
theorem identity_destination_ne (hs : s.HidesOutput) (hw : g.WellFormed) (hfree : g.LinkFree) :
    g.identity (destination s.render t) ≠ g.identity (assumedPath t) := by
  obtain ⟨name, hname⟩ := ht.named
  have hsteps : (Route.ofPath (destination s.render t)).steps
      = Route.spelled (Path.directory t).toList
        ++ [.down (.ofText s.render.outputDir), .down (testName s.render t)] := by
    rw [steps_destination hs.leadsDown, Route.spelled_ordinary hs.named]
    rfl
  have hup : .up ∉ (Route.ofPath (destination s.render t)).steps := by
    rw [hsteps]
    simpa using Path.up_not_mem_directory hname ht.downward
  have habs : Path.isAbsolute (destination s.render t) = Path.isAbsolute (assumedPath t) := by
    rw [isAbsolute_assumedPath ht, ← ht.rooted]
    exact fromRoot_destination hs.leadsDown hname
  intro hsame
  have hnames := names_eq_of_identity_eq hw hfree hup
    (Path.up_not_mem_steps (up_not_mem_assumedPath ht)) habs hsame
  have hlen := congrArg List.length hnames
  rw [names_assumedPath, ← Path.filterMap_steps, hsteps, List.filterMap_append] at hlen
  simp [Step.name?, Path.names] at hlen

end Guard

/-! ## §2. A second run -/

section Again

variable {fs : FileSystem} {s : Settings} (hs : s.HidesOutput) {absolute : Bool} {base : Location}
  {sources : List ByteString} (hsources : ∀ t ∈ sources, fs.IsSource s absolute base t)
include hs hsources

/-- The directory of tests that are there is made without a change. -/
theorem createDirectories_again {g : FileSystem} (hg : fs.Running sources g) {t : ByteString}
    (ht : t ∈ sources) {m : SourceModule} (hscan : g.scanFile t = .ok m) (hne : m.functions ≠ [])
    {e : Entry} (he : g.entryAt (destination s.render t) = .ok (testPlace s.render base t, e)) :
    g.createDirectories (Path.directory (destination s.render t)) = (g, .ok ()) := by
  obtain ⟨loc, content, hl, hshape, -⟩ := file_of_scanFile hscan hne
  have hentry := entryAt_file hl hshape
  obtain ⟨es, hd⟩ := follow_own_directory hg.ordered hg.linkFree hentry Shape.noConfusion
  have hdir : g.shapeAt (loc.dropLast ++ [ByteString.ofText s.render.outputDir]) = some .directory := by
    rw [← dropLast_testLocation hs t,
      (hsources t ht).testLocation_eq hs hg.grows hg.linkFree hentry]
    exact shapeAt_above (shapeAt_of_entryAt he)
  rw [directory_destination hs]
  exact createDirectories_existing hg.ordered hg.linkFree hs.named hd
    (route_directory_destination hs (resolve_eq_follow (entryAt_iff.mp he)).1) hdir

/-- **The step**: where the tests of a source are there, they can be written again. -/
theorem process_again {g : FileSystem} (hg : fs.Running sources g) {t : ByteString} (ht : t ∈ sources)
    (htests : fs.HasTests s.render base g t) : endsBatch (g.process s.render t).2 = false := by
  obtain ⟨failure, hscan, hp⟩ | ⟨m, -, -, hp⟩ | ⟨m, -, hscan, hne, -⟩ |
    ⟨m, made, done, -, -, -, -, -, -, hp⟩ := process_cases g s.render t
  · rw [hp]
    simpa [endsBatch] using scanFile_error hscan
  · rw [hp]
    rfl
  · -- the tests were planned, so they are there; then nothing stands in the way of writing them
    obtain ⟨hfits, e, he, hend⟩ := htests m (by rw [← scanFile_congr (hg.reads t ht), hscan]) hne
    have hguard := identity_destination_ne (hsources t ht) hs hg.ordered hg.linkFree
    have hmade := createDirectories_again hs hsources hg ht hscan hne he
    obtain ⟨done, hdone⟩ := write_of_isEnd he hend (m.render s.render).toUTF8
    rw [process_written hscan hne hguard hfits hmade hdone]
    rfl
  · rw [hp]
    rfl

/-- **The run**: where the tests of all sources are there, a second run succeeds. -/
theorem processAll_again {rest : List ByteString} (hrest : ∀ t ∈ rest, t ∈ sources) {g : FileSystem}
    (hg : fs.Running sources g) (htests : ∀ t ∈ rest, fs.HasTests s.render base g t) :
    ∃ report, (g.processAll s.render rest).2 = .ok report := by
  induction rest generalizing g with
  | nil => exact ⟨{}, rfl⟩
  | cons t rest ih =>
      have ht := hrest t List.mem_cons_self
      have hends := process_again hs hsources hg ht (htests t List.mem_cons_self)
      obtain ⟨failure, hp, hfatal⟩ | ⟨-, -, hrun, hgrows, -, -⟩ := process_step hs hsources hg ht
      · rw [hp, endsBatch, hfatal] at hends
        cases hends
      · obtain ⟨later, hlater⟩ := ih (fun u hu => hrest u (List.mem_cons_of_mem t hu)) hrun
          fun u hu => (htests u (List.mem_cons_of_mem t hu)).grows hgrows
        refine ⟨noteOutcome t (g.process s.render t).2 later, ?_⟩
        rw [processAll_goes_on rest hends, hlater]
        rfl

end Again

/-! ## §3. What a run leaves behind -/

section Left

variable {fs after : FileSystem} {s : Settings} {absolute : Bool} {base : Location}
  {sources : List ByteString}
  (htests : ∀ t ∈ sources, fs.HasTests s.render base after t)
include htests

/-- **What was written is in ignored directories only.** -/
theorem growsInside_plan (hsources : ∀ t ∈ sources, fs.IsSource s absolute base t)
    (hshapes : after.shapeAt = (fs.planFor s.render base sources).carryOut fs.shapeAt) :
    GrowsInside s.render.outputDir base fs after := by
  have hinside : ∀ file ∈ fs.planFor s.render base sources,
      ∃ t, file.1 = testPlace s.render base t
        ∧ after.shapeAt (base ++ (Path.names (Path.directory t) ++ [ByteString.ofText s.render.outputDir]))
            = some .directory := by
    intro file hfile
    obtain ⟨t, ht, hplan⟩ := mem_planFor.mp hfile
    obtain ⟨m, hscan, hne, rfl⟩ := planned?_eq_some.mp hplan
    obtain ⟨-, e, he, -⟩ := htests t ht m hscan hne
    refine ⟨t, rfl, ?_⟩
    rw [← dropLast_testPlace]
    exact shapeAt_above (shapeAt_of_entryAt he)
  intro loc hne
  -- a location that changed is the place of a planned file or the directory of one
  rw [hshapes] at hne
  obtain hsame | ⟨content, hfile, -⟩ | ⟨file, hfile, hloc, -⟩ :=
    Plan.carryOut_cases (planFor_apart hsources) fs.shapeAt loc
  · exact absurd hsame hne
  · obtain ⟨t, hplace, hdir⟩ := hinside _ hfile
    exact ⟨_, [testName s.render t], hplace, hdir⟩
  · obtain ⟨t, hplace, hdir⟩ := hinside file hfile
    refine ⟨_, [], ?_, hdir⟩
    rw [hloc, hplace, dropLast_testPlace]

omit htests in
/-- **A new directory** is one of tests. -/
theorem directory_of_tests (hsources : ∀ t ∈ sources, fs.IsSource s absolute base t)
    (hshapes : after.shapeAt = (fs.planFor s.render base sources).carryOut fs.shapeAt)
    {loc : Location} (hdir : after.shapeAt loc = some .directory)
    (hnew : fs.shapeAt loc ≠ some .directory) :
    ∃ t ∈ sources, loc = (testPlace s.render base t).dropLast := by
  rw [hshapes] at hdir
  obtain hsame | ⟨content, -, hput⟩ | ⟨file, hfile, hloc, -⟩ :=
    Plan.carryOut_cases (planFor_apart hsources) fs.shapeAt loc
  · rw [hsame] at hdir
    exact absurd hdir hnew
  · -- what is put somewhere is no directory
    rw [hput] at hdir
    exact absurd (Option.some.inj hdir) (Shape.written_ne_directory content (fs.shapeAt loc))
  · obtain ⟨t, ht, hplan⟩ := mem_planFor.mp hfile
    obtain ⟨m, -, -, rfl⟩ := planned?_eq_some.mp hplan
    exact ⟨t, ht, hloc⟩

/-- A written test module is one of those that were planned. -/
theorem entryAt_of_mem_written {output : ByteString}
    (h : output ∈ (fs.foretold s.render sources).written) :
    ∃ t e, after.entryAt output = .ok (testPlace s.render base t, e) := by
  obtain ⟨t, ht, m, hscan, hne, rfl⟩ := mem_written_foretold h
  obtain ⟨-, e, he, -⟩ := htests t ht m hscan hne
  exact ⟨t, e, he⟩

end Left

/-! ## §4. The same run twice -/

/-- A directory of tests that came up between two states, below a path that spells it too long. -/
def Outgrows (fs after : FileSystem) (outputDir path directory : ByteString) : Prop :=
  ∃ loc es rel, after.entryAt path = .ok (loc, .directory es) ∧ rel.getLast? = some outputDir
    ∧ fs.shapeAt (loc ++ rel) ≠ some .directory ∧ after.shapeAt (loc ++ rel) = some .directory
    ∧ directory = rel.foldl Path.join path ∧ maxPathBytes < directory.size

section Twice

variable {fs after : FileSystem} (hw : fs.WellFormed) (hfree : fs.LinkFree) {s : Settings}
  (hs : s.HidesOutput) {absolute : Bool} {base : Location} {sources : List ByteString}
  (hsources : ∀ t ∈ sources, fs.IsSource s absolute base t) {report : Report}
  (hrun : fs.processAll s.render sources = (after, .ok report))
include hw hfree hs hsources hrun

/-- The sources of a run that succeeded can be processed again, to no effect. -/
theorem processAll_twice : after.processAll s.render sources = (after, .ok report) := by
  have hstart : fs.Running sources fs := ⟨hw, hfree, Grows.refl fs, fun _ _ => rfl⟩
  obtain ⟨hreport, hafter, -, hshapes, htests⟩ :=
    processAll_run hs hsources (fun _ ht => ht) hstart hrun
  obtain ⟨report', hreport'⟩ := processAll_again hs hsources (fun _ ht => ht) hafter htests
  have hrun' : after.processAll s.render sources
      = ((after.processAll s.render sources).1, .ok report') := by
    rw [← hreport']
  -- the second run is a run from the state that the first one left
  obtain ⟨hsame, hafter', -, hshapes', -⟩ :=
    processAll_run hs hsources (fun _ ht => ht) hafter hrun'
  -- the same plan was carried out twice
  have hfixed : (after.processAll s.render sources).1 = after := by
    refine eq_of_shapes hafter'.ordered hafter.ordered ?_ ?_
    · rw [hafter'.grows.cwd, hafter.grows.cwd]
    · intro loc
      rw [hshapes', hshapes, Plan.carryOut_carryOut (planFor_apart hsources)]
  rw [hrun', hfixed, hsame, ← hreport]

/-- **A source is where no test module is.** -/
theorem written_apart {t : ByteString} (ht : t ∈ sources) {output : ByteString}
    (houtput : output ∈ report.written) :
    ∃ loc, after.locate? output = some loc ∧ after.locate? t ≠ some loc := by
  have hstart : fs.Running sources fs := ⟨hw, hfree, Grows.refl fs, fun _ _ => rfl⟩
  obtain ⟨hreport, hafter, -, -, htests⟩ :=
    processAll_run hs hsources (fun _ ht => ht) hstart hrun
  rw [hreport] at houtput
  obtain ⟨u, e, he⟩ := entryAt_of_mem_written htests houtput
  refine ⟨_, locate?_eq_some.mpr ⟨e, he⟩, ?_⟩
  intro hlocated
  obtain ⟨f, hf⟩ := locate?_eq_some.mp hlocated
  have hplace := (hsources t ht).location hafter.grows hafter.linkFree hf
  exact (hsources t ht).ne_testPlace u hplace.symm

/-- **What a second run can be refused for**: a path that was opened leads on, so only a directory
    that the run itself made can be too long to list. -/
theorem outgrows_of_refuses {path : ByteString} (hopens : fs.Opens path) {failure : Failure}
    (hrefuses : after.Refuses path failure) :
    ∃ directory, Outgrows fs after s.render.outputDir path directory
      ∧ failure = .scanDirectory path directory .nameTooLong := by
  have hstart : fs.Running sources fs := ⟨hw, hfree, Grows.refl fs, fun _ _ => rfl⟩
  obtain ⟨-, hafter, -, hshapes, -⟩ :=
    processAll_run hs hsources (fun _ ht => ht) hstart hrun
  rcases hrefuses with ⟨hleads, -⟩ | herror
  · rw [leads_grows hafter.grows hopens.1] at hleads
    cases hleads
  · obtain ⟨loc, es, rel, he, hne, hdir, hlong, rfl⟩ := filesBelow_error hafter.ordered herror
    have hnew : fs.shapeAt (loc ++ rel) ≠ some .directory := by
      intro hold
      obtain ⟨es', he'⟩ := entryAt_directory_of_grows hafter.grows hopens.1 he
      have hshort := ((opens_iff hw).mp hopens).2 loc es' rel he' hne hold
      omega
    obtain ⟨t, -, hplace⟩ := directory_of_tests hsources hshapes hdir hnew
    have hlast := congrArg List.getLast? hplace
    rw [dropLast_testPlace, List.getLast?_append, Option.or_of_isSome (by simpa using hne),
      ← List.append_assoc, List.getLast?_concat] at hlast
    exact ⟨_, ⟨loc, es, rel, he, hlast, hnew, hdir, rfl, hlong⟩, rfl⟩

end Twice

section Statement

variable {fs after : FileSystem} (hw : fs.WellFormed) (hfree : fs.LinkFree) {s : Settings}
  (hs : s.HidesOutput) {paths : List ByteString}
  (hroot : (∀ p ∈ paths, Path.isAbsolute p = true) ∨ (∀ p ∈ paths, Path.isAbsolute p = false))
  (hdown : ∀ p ∈ paths, .parent ∉ Path.components p) {report : Report}
  (h : fs.generate s paths = (after, .ok report))
include hw hfree hs hroot hdown h

/-- Where all directories can still be listed, the same sources are collected and processed. -/
theorem generate_repeated (hlist : ∀ p ∈ paths, after.Listable p) :
    after.generate s paths = (after, .ok report)
      ∧ ∃ sources, after.collect s.filter paths = .ok sources
        ∧ fs.collect s.filter paths = .ok sources
        ∧ ∀ t ∈ sources, ∀ output ∈ report.written,
            ∃ loc, after.locate? output = some loc ∧ after.locate? t ≠ some loc := by
  obtain ⟨sources, hcollect, hrun⟩ := generate_eq_ok h
  obtain ⟨absolute, base, hstarts, hsources⟩ := exists_isSource hw hs hroot hdown hcollect
  have hstart : fs.Running sources fs := ⟨hw, hfree, Grows.refl fs, fun _ _ => rfl⟩
  obtain ⟨-, hafter, -, hshapes, htests⟩ :=
    processAll_run hs hsources (fun _ ht => ht) hstart hrun
  have hcollect' : after.collect s.filter paths = .ok sources :=
    collect_hidden hw hfree hafter.ordered hafter.grows (fun _ ht => hs.accepts_eq_false ht)
      (growsInside_plan htests hsources hshapes) hstarts
      (fun p hp => Path.up_not_mem_spelled (hdown p hp)) hlist hcollect
  refine ⟨?_, sources, hcollect', hcollect, ?_⟩
  · rw [generate_of_collect hcollect', processAll_twice hw hfree hs hsources hrun]
  · exact fun t ht output houtput => written_apart hw hfree hs hsources hrun ht houtput

/-- Where one cannot be listed any more, the first such path is named. -/
theorem generate_refused (hlong : ¬ ∀ p ∈ paths, after.Listable p) :
    ∃ p ∈ paths, ∃ directory, Outgrows fs after s.render.outputDir p directory
      ∧ after.generate s paths = (after, .error (.scanDirectory p directory .nameTooLong)) := by
  obtain ⟨sources, hcollect, hrun⟩ := generate_eq_ok h
  obtain ⟨absolute, base, -, hsources⟩ := exists_isSource hw hs hroot hdown hcollect
  have hstart : fs.Running sources fs := ⟨hw, hfree, Grows.refl fs, fun _ _ => rfl⟩
  obtain ⟨-, hafter, -, -, -⟩ := processAll_run hs hsources (fun _ ht => ht) hstart hrun
  obtain ⟨files, hfiles, -⟩ := collect_eq_ok_iff.mp hcollect
  cases hcollect' : after.collect s.filter paths with
  | ok again =>
      obtain ⟨files', hfiles', -⟩ := collect_eq_ok_iff.mp hcollect'
      refine absurd (fun p hp => ?_) hlong
      exact ((opens_iff hafter.ordered).mp (opens_of_expandAll hfiles' hp)).2
  | error failure =>
      obtain ⟨before, p, rest, rfl, -, hrefuses⟩ :=
        expandAll_error_iff.mp (collect_eq_error_iff.mp hcollect')
      have hp : p ∈ before ++ p :: rest := by simp
      obtain ⟨directory, houtgrows, rfl⟩ :=
        outgrows_of_refuses hw hfree hs hsources hrun (opens_of_expandAll hfiles hp) hrefuses
      refine ⟨p, hp, directory, houtgrows, ?_⟩
      unfold generate
      rw [hcollect']

/-- **Running again changes nothing.**  Without links, with an output directory of one ignored name
    and paths that start together and never go up, a run that succeeds can be repeated if all
    directories can still be listed: it finds the same sources, none of which is a test module of
    the first run, gives the same report and leaves the file system as it is.  Otherwise it leaves
    the file system as it is and fails: a path is named below which the first run made a directory
    of tests whose path is too long. -/
theorem generate_again :
    ((∀ p ∈ paths, after.Listable p) →
        after.generate s paths = (after, .ok report)
          ∧ ∃ sources, after.collect s.filter paths = .ok sources
            ∧ fs.collect s.filter paths = .ok sources
            ∧ ∀ t ∈ sources, ∀ output ∈ report.written,
                ∃ loc, after.locate? output = some loc ∧ after.locate? t ≠ some loc)
      ∧ ((¬ ∀ p ∈ paths, after.Listable p) →
          ∃ p ∈ paths, ∃ directory, Outgrows fs after s.render.outputDir p directory
            ∧ after.generate s paths
                = (after, .error (.scanDirectory p directory .nameTooLong))) :=
  ⟨generate_repeated hw hfree hs hroot hdown h, generate_refused hw hfree hs hroot hdown h⟩

end Statement

theorem generate_again_project :
    ∃ report, project.generate {} ["."] = ((project.generate {} ["."]).1, .ok report)
      ∧ (project.generate {} ["."]).1.generate {} ["."]
          = ((project.generate {} ["."]).1, .ok report) := by
  obtain ⟨report, hreport⟩ := project_generates
  obtain ⟨hrepeated, -⟩ := generate_again project_wellFormed project_linkFree default_hidesOutput
    (Or.inr (by decide +kernel)) (by decide +kernel) hreport
  have hw : (project.generate {} ["."]).1.WellFormed := ⟨by decide +kernel, by decide +kernel⟩
  have hopens : (project.generate {} ["."]).1.Opens "." := by
    refine ⟨by decide +kernel, ?_⟩
    have hsome : ((project.generate {} ["."]).1.filesBelow pythonExtension ".").toOption.isSome
        = true := by decide +kernel
    obtain ⟨files, hfiles⟩ := Option.isSome_iff_exists.mp hsome
    exact ⟨files, eq_ok_of_toOption hfiles⟩
  refine ⟨report, hreport, (hrepeated fun p hp => ?_).1⟩
  cases List.mem_singleton.mp hp
  exact ((opens_iff hw).mp hopens).2

/-- **Not every run can be repeated.**  Below a path of the greatest length the directory of tests that
    a run makes cannot be listed. -/
theorem generate_not_again :
    nested.WellFormed ∧ nested.LinkFree ∧ ({} : Settings).HidesOutput
      ∧ (∀ p ∈ (["d", Path.padded "d" 4094] : List ByteString),
          Path.isAbsolute p = false ∧ .parent ∉ Path.components p)
      ∧ ∃ after report, nested.generate {} ["d", Path.padded "d" 4094] = (after, .ok report)
        ∧ ∃ p directory, after.generate {} ["d", Path.padded "d" 4094]
            = (after, .error (.scanDirectory p directory .nameTooLong)) := by
  have hpaths : ∀ p ∈ (["d", Path.padded "d" 4094] : List ByteString),
      Path.isAbsolute p = false ∧ .parent ∉ Path.components p := by
    intro p hp
    rcases List.mem_cons.mp hp with rfl | hp
    · decide
    · rw [List.mem_singleton.mp hp]
      exact longest_relative
  have hgenerate := longest_spells.generate_after
  have hsome : (nested.processAll {} ["d/a.py"]).2.toOption.isSome = true := by decide +kernel
  obtain ⟨report, hreport⟩ := Option.isSome_iff_exists.mp hsome
  rw [← hgenerate] at hreport
  have hrun := generate_of_report hreport
  -- what is written below the first path is below the second one too
  have hlong : ¬ ∀ p ∈ (["d", Path.padded "d" 4094] : List ByteString),
      (nested.generate {} ["d", Path.padded "d" 4094]).1.Listable p := by
    intro hlist
    have hends : endsBatch (nested.process {} "d/a.py").2 = false := by decide +kernel
    have hfirst : (nested.generate {} ["d", Path.padded "d" 4094]).1
        = (nested.process {} "d/a.py").1 := by
      rw [hgenerate, processAll_goes_on [] hends]
      rfl
    rw [hfirst] at hlist
    have hgrows := (process_keeps nested_wellFormed {} "d/a.py").2
    obtain ⟨es, he⟩ := entryAt_directory_grows hgrows longest_spells.leads
    have htests : (nested.process {} "d/a.py").1.shapeAt (["d"] ++ ["tests"])
        = some .directory := by
      decide +kernel
    have hshort := hlist (Path.padded "d" 4094) (by simp) _ _ ["tests"] he (by simp)
      htests
    rw [List.foldl_cons, List.foldl_nil] at hshort
    have hsize : (Path.padded "d" 4094).size + ("tests" : ByteString).size
        ≤ (Path.join (Path.padded "d" 4094) "tests").size :=
      Path.size_join_le (by decide)
    have hname : ("tests" : ByteString).size = 5 := by decide
    rw [longest_spells.size, hname] at hsize
    omega
  obtain ⟨p, -, directory, -, hagain⟩ := generate_refused nested_wellFormed nested_linkFree
    default_hidesOutput (Or.inr fun p hp => (hpaths p hp).1) (fun p hp => (hpaths p hp).2) hrun
    hlong
  exact ⟨nested_wellFormed, nested_linkFree, default_hidesOutput, hpaths, _, report, hrun, p, directory,
    hagain⟩

end TestScaffold.FileSystem
