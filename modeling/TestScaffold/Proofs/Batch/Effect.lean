/-
  TestScaffold.Proofs.Batch.Effect — the exact effect of a run whose output directory is ignored.

  The file system after a run that succeeds is the one before it plus, for each source with
  functions, its test module and the directory that holds it:

    * `AddsTests` — that, said of two file systems;
    * `testPlace_eq_iff` — when two sources have one place for their tests;
    * `generate_effect` — every run that succeeds adds exactly its tests;
    * `generate_misses_tests` — a source below a path that is too long is not read, and a device
      does not keep what is written to it.
-/
import TestScaffold.Proofs.Batch.Run
import TestScaffold.Proofs.Discovery.LongPaths

namespace TestScaffold.FileSystem

open SourceModule

/-! ## §1. Adding tests -/

/-- The text at a path is that of a module with functions. -/
def HasFunctions (fs : FileSystem) (t : ByteString) (m : SourceModule) : Prop :=
  fs.scanFile t = .ok m ∧ m.functions ≠ []

/-- `after` is `before` with the tests of the sources, and nothing else is added, removed or
    changed. -/
structure AddsTests (before after : FileSystem) (r : RenderSettings) (sources : List ByteString) :
    Prop where
  /-- Every directory is in name order, so that what stands where is all there is. -/
  ordered : after.WellFormed
  /-- The working directory stays. -/
  cwd : after.cwd = before.cwd
  /-- The destination of each source with functions leads to a place in the directory that the
      destination names.  Unless a later source with functions has that place too, the rendered tests
      are there; a device takes the tests and stays a device. -/
  tests : ∀ {t m first later}, sources = first ++ t :: later → before.HasFunctions t m →
    ∃ loc, after.locate? (destination r t) = some loc
      ∧ after.locate? (Path.directory (destination r t)) = some loc.dropLast
      ∧ after.shapeAt loc.dropLast = some .directory
      ∧ ((∀ u n, u ∈ later → before.HasFunctions u n →
            after.locate? (destination r u) ≠ some loc) →
          after.shapeAt loc = some (Shape.written (m.render r).toUTF8 (before.shapeAt loc)))
  /-- Everything else is as before. -/
  rest : ∀ loc, after.shapeAt loc = before.shapeAt loc
    ∨ ∃ t m, t ∈ sources ∧ before.HasFunctions t m
      ∧ (after.locate? (destination r t) = some loc
        ∨ after.locate? (Path.directory (destination r t)) = some loc)
  /-- The sources keep their bytes. -/
  kept : ∀ t ∈ sources, after.readBytes t = before.readBytes t
  /-- Two sources share a test module only in one directory, and if their names are read alike. -/
  apart : ∀ {a b m n}, a ∈ sources → b ∈ sources → before.HasFunctions a m →
    before.HasFunctions b n →
    after.locate? (destination r a) = after.locate? (destination r b) →
      a = b ∨ Path.names (Path.directory a) = Path.names (Path.directory b) ∧ Path.ReadAlike a b

/-! ## §2. Places of tests -/

/-- **Two sources have one place for their tests** exactly if they are in one directory and their stems
    are read alike. -/
theorem testPlace_eq_iff {r : RenderSettings} {base : Location} {a b : ByteString} :
    testPlace r base a = testPlace r base b
      ↔ Path.names (Path.directory a) = Path.names (Path.directory b)
        ∧ Path.stem a = Path.stem b := by
  rw [← testName_inj (r := r)]
  constructor
  · intro h
    have hdrop := congrArg List.dropLast h
    rw [dropLast_testPlace, dropLast_testPlace] at hdrop
    have hlast := congrArg List.getLast? h
    exact ⟨List.append_inj_left' (List.append_cancel_left hdrop) rfl, by simpa [testPlace] using hlast⟩
  · rintro ⟨hdirs, hname⟩
    rw [testPlace, testPlace, hdirs, hname]

/-- In one directory Python modules of one stem are at one location. -/
theorem names_eq_of_stemBytes {a b : ByteString} (ha : Path.hasExtension a pythonExtension = true)
    (hb : Path.hasExtension b pythonExtension = true)
    (hdirs : Path.names (Path.directory a) = Path.names (Path.directory b))
    (hstem : Path.stemBytes a = Path.stemBytes b) : Path.names a = Path.names b := by
  rw [Path.names_of_fileName (Path.fileName?_of_hasExtension ha),
    Path.names_of_fileName (Path.fileName?_of_hasExtension hb), hdirs, hstem]

theorem planned?_of_hasFunctions {fs : FileSystem} {r : RenderSettings} {base : Location}
    {t : ByteString} {m : SourceModule} (h : fs.HasFunctions t m) :
    fs.planned? r base t = some (testPlace r base t, (m.render r).toUTF8) :=
  planned?_eq_some.mpr ⟨m, h.1, h.2, rfl⟩

theorem hasFunctions_of_mem_planFor {fs : FileSystem} {r : RenderSettings} {base : Location}
    {sources : List ByteString} {file : Location × ByteArray} (h : file ∈ fs.planFor r base sources) :
    ∃ t m, t ∈ sources ∧ fs.HasFunctions t m
      ∧ file = (testPlace r base t, (m.render r).toUTF8) := by
  obtain ⟨t, ht, hplan⟩ := mem_planFor.mp h
  obtain ⟨m, hscan, hne, hfile⟩ := planned?_eq_some.mp hplan
  exact ⟨t, m, ht, ⟨hscan, hne⟩, hfile⟩

/-- **Two sources of a run share a test module** only if their names are read alike. -/
theorem eq_or_readAlike_of_testPlace {fs : FileSystem} (hw : fs.WellFormed) (hfree : fs.LinkFree)
    {s : Settings} {absolute : Bool} {base : Location} {paths sources : List ByteString}
    (hcollect : fs.collect s.filter paths = .ok sources)
    (hsources : ∀ t ∈ sources, fs.IsSource s absolute base t)
    (hpy : ∀ t ∈ sources, Path.hasExtension t pythonExtension = true) {a b : ByteString}
    (ha : a ∈ sources) (hb : b ∈ sources)
    (h : testPlace s.render base a = testPlace s.render base b) :
    a = b ∨ Path.names (Path.directory a) = Path.names (Path.directory b) ∧ Path.ReadAlike a b := by
  obtain ⟨hdirs, hstem⟩ := testPlace_eq_iff.mp h
  by_cases halike : Path.ReadAlike a b
  · exact Or.inr ⟨hdirs, halike⟩
  · have hnames := names_eq_of_stemBytes (hpy a ha) (hpy b hb) hdirs
      (Path.stemBytes_eq_of_stem hstem halike)
    have hidentity := (hsources a ha).identity_eq_iff hw hfree (hsources b hb)
    exact Or.inl (eq_of_identity_collect hcollect ha hb (hidentity.mpr hnames))

/-- **The last file put at the place of the tests of a source** is its tests, unless a later source has
    that place. -/
theorem lastAt_planFor {fs : FileSystem} {r : RenderSettings} {base : Location}
    {first later : List ByteString} {t : ByteString} {m : SourceModule} (hm : fs.HasFunctions t m)
    (hlast : ∀ u n, u ∈ later → fs.HasFunctions u n → testPlace r base u ≠ testPlace r base t) :
    (fs.planFor r base (first ++ t :: later)).lastAt (testPlace r base t)
      = some (m.render r).toUTF8 := by
  have hnone : (fs.planFor r base later).lastAt (testPlace r base t) = none := by
    cases hthere : (fs.planFor r base later).lastAt (testPlace r base t) with
    | none => rfl
    | some content =>
        obtain ⟨u, n, hu, hn, hfile⟩ := hasFunctions_of_mem_planFor (Plan.mem_of_lastAt hthere)
        exact absurd (Prod.mk.inj hfile).1.symm (hlast u n hu hn)
  have hplan : fs.planFor r base (first ++ t :: later) = fs.planFor r base first
      ++ (testPlace r base t, (m.render r).toUTF8) :: fs.planFor r base later := by
    unfold planFor
    rw [List.filterMap_append, List.filterMap_cons_some (planned?_of_hasFunctions hm)]
  rw [hplan, Plan.lastAt_append, Plan.lastAt, hnone, if_pos rfl]
  rfl

section Effect

variable {fs after : FileSystem} {s : Settings} (hs : s.HidesOutput) {absolute : Bool}
  {base : Location} {sources : List ByteString} (hsources : ∀ t ∈ sources, fs.IsSource s absolute base t)
  (hafter : fs.Running sources after)
  (htests : ∀ t ∈ sources, fs.HasTests s.render base after t)
include htests

theorem locate?_planned {t : ByteString} (ht : t ∈ sources) {m : SourceModule}
    (hm : fs.HasFunctions t m) :
    after.locate? (destination s.render t) = some (testPlace s.render base t) := by
  obtain ⟨-, e, he, -⟩ := htests t ht m hm.1 hm.2
  exact locate?_eq_some.mpr ⟨e, he⟩

theorem shapeAt_directory_planned {t : ByteString} (ht : t ∈ sources) {m : SourceModule}
    (hm : fs.HasFunctions t m) :
    after.shapeAt (testPlace s.render base t).dropLast = some .directory := by
  obtain ⟨-, e, he, -⟩ := htests t ht m hm.1 hm.2
  exact shapeAt_above (shapeAt_of_entryAt he)

include hs hsources hafter

/-- The directory that a destination names is the directory of the test module. -/
theorem locate?_directory_planned {t : ByteString} (ht : t ∈ sources) {m : SourceModule}
    (hm : fs.HasFunctions t m) :
    after.locate? (Path.directory (destination s.render t))
      = some (testPlace s.render base t).dropLast := by
  have hdir := shapeAt_directory_planned htests ht hm
  obtain ⟨loc, content, hl, hshape, -⟩ := file_of_scanFile hm.1 hm.2
  obtain ⟨now, hnow⟩ := entryAt_file_grows hafter.grows (entryAt_file hl hshape)
  obtain ⟨es, hd⟩ := follow_own_directory hafter.ordered hafter.linkFree hnow Shape.noConfusion
  obtain ⟨-, e, he, -⟩ := htests t ht m hm.1 hm.2
  have hroute := route_directory_destination hs (resolve_eq_follow (entryAt_iff.mp he)).1
  rw [directory_destination hs]
  rw [← (hsources t ht).testLocation_eq hs hafter.grows hafter.linkFree hnow,
    dropLast_testLocation hs] at hdir ⊢
  obtain ⟨f, hf, -⟩ := find?_of_shapeAt hdir
  exact locate?_eq_some.mpr
    ⟨f, entryAt_child hafter.ordered hafter.linkFree hs.named hd hroute hf⟩

end Effect

/-! ## §3. A whole run -/

/-- A collected source is a Python module if the paths are directories and Python modules. -/
theorem hasExtension_of_mem_collect {fs : FileSystem} (hw : fs.WellFormed)
    {filter : FilterSettings} {paths sources : List ByteString}
    (hnamed : ∀ p ∈ paths, fs.isDirectory p = true ∨ Path.hasExtension p pythonExtension = true)
    (hcollect : fs.collect filter paths = .ok sources) {t : ByteString} (ht : t ∈ sources) :
    Path.hasExtension t pythonExtension = true := by
  obtain ⟨-, path, hpath, part, hpart, hmem⟩ := mem_collect hcollect ht
  obtain ⟨-, -, -, ⟨rfl, hfile⟩ | hext⟩ := mem_expand hw hpart hmem
  · rcases hnamed t hpath with hdir | hext
    · -- what is a file is no directory
      unfold isFile at hfile
      unfold isDirectory at hdir
      split at hfile
      · rename_i heq
        rw [heq] at hdir
        cases hdir
      · cases hfile
    · exact hext
  · exact hext

/-- **The exact effect of a run.**  Without links, with an output directory of one ignored name and
    paths that start together and never go up, a run that succeeds adds the tests of its sources
    and does nothing else. -/
theorem generate_effect {fs after : FileSystem} (hw : fs.WellFormed) (hfree : fs.LinkFree)
    {s : Settings} (hs : s.HidesOutput) {paths : List ByteString}
    (hroot : (∀ p ∈ paths, Path.isAbsolute p = true) ∨ (∀ p ∈ paths, Path.isAbsolute p = false))
    (hdown : ∀ p ∈ paths, .parent ∉ Path.components p)
    (hnamed : ∀ p ∈ paths, fs.isDirectory p = true ∨ Path.hasExtension p pythonExtension = true)
    {report : Report} (h : fs.generate s paths = (after, .ok report)) :
    ∃ sources, fs.collect s.filter paths = .ok sources ∧ AddsTests fs after s.render sources := by
  obtain ⟨sources, hcollect, hrun⟩ := generate_eq_ok h
  obtain ⟨absolute, base, -, hsources⟩ := exists_isSource hw hs hroot hdown hcollect
  have hstart : fs.Running sources fs := ⟨hw, hfree, Grows.refl fs, fun _ _ => rfl⟩
  obtain ⟨-, hafter, -, hshapes, htests⟩ :=
    processAll_run hs hsources (fun _ ht => ht) hstart hrun
  have happly := Plan.carryOut_apply (planFor_apart hsources) fs.shapeAt
  rw [← hshapes] at happly
  have hpy : ∀ t ∈ sources, Path.hasExtension t pythonExtension = true :=
    fun _ ht => hasExtension_of_mem_collect hw hnamed hcollect ht
  refine ⟨sources, hcollect, hafter.ordered, hafter.grows.cwd, ?_, ?_, hafter.reads, ?_⟩
  -- what is there: the last file that the plan puts at the place of the tests
  · intro t m first later hsplit hm
    have ht : t ∈ sources := by
      rw [hsplit]
      simp
    refine ⟨testPlace s.render base t, locate?_planned htests ht hm,
      locate?_directory_planned hs hsources hafter htests ht hm,
      shapeAt_directory_planned htests ht hm, fun hlast => ?_⟩
    rw [happly, hsplit, lastAt_planFor hm fun u n hu hn hplace => hlast u n hu hn ?_]
    rw [locate?_planned htests (hsplit ▸ by simp [hu]) hn, hplace]
  -- what else: the plan changes places of tests and their directories only
  · intro loc
    rw [hshapes]
    obtain hsame | ⟨content, hfile, -⟩ | ⟨file, hfile, hloc, -⟩ :=
      Plan.carryOut_cases (planFor_apart hsources) fs.shapeAt loc
    · exact Or.inl hsame
    · obtain ⟨t, m, ht, hm, heq⟩ := hasFunctions_of_mem_planFor hfile
      rw [(Prod.mk.inj heq).1]
      exact Or.inr ⟨t, m, ht, hm, Or.inl (locate?_planned htests ht hm)⟩
    · obtain ⟨t, m, ht, hm, rfl⟩ := hasFunctions_of_mem_planFor hfile
      rw [hloc]
      exact Or.inr ⟨t, m, ht, hm,
        Or.inr (locate?_directory_planned hs hsources hafter htests ht hm)⟩
  · intro a b m n ha hb hm hn hsame
    rw [locate?_planned htests ha hm, locate?_planned htests hb hn] at hsame
    exact eq_or_readAlike_of_testPlace hw hfree hcollect hsources hpy ha hb (Option.some.inj hsame)

theorem generate_effect_project :
    project.WellFormed ∧ project.LinkFree ∧ ({} : Settings).HidesOutput
      ∧ ∃ sources, project.collect {} ["."] = .ok sources
        ∧ AddsTests project (project.generate {} ["."]).1 {} sources := by
  obtain ⟨report, hreport⟩ := project_generates
  exact ⟨project_wellFormed, project_linkFree, default_hidesOutput,
    generate_effect project_wellFormed project_linkFree default_hidesOutput
      (Or.inr (by decide +kernel)) (by decide +kernel) (by decide +kernel) hreport⟩

/-! ## §4. Tests that are not there -/

/-- Of two spellings of one file the first is collected. -/
theorem collect_twice {fs : FileSystem} {filter : FilterSettings} {p q a b : ByteString}
    (hp : fs.expand p = .ok [a]) (hq : fs.expand q = .ok [b]) (ha : filter.accepts a = true)
    (hb : filter.accepts b = true) (h : fs.identity a = fs.identity b) :
    fs.collect filter [p, q] = .ok [a] := by
  refine collect_eq_ok_iff.mpr ⟨[a, b], ?_, ?_⟩
  · exact expandAll_cons_iff.mpr ⟨_, _, hp, expandAll_cons_iff.mpr ⟨_, _, hq, rfl, rfl⟩, rfl⟩
  · simp [firstSpellings, ha, hb, h]

namespace SpellsLongest

variable {path : ByteString} (h : SpellsLongest path)
include h

theorem scanFile_module :
    nested.scanFile (Path.join path "a.py")
      = .error (.read (Path.join path "a.py") .nameTooLong) := by
  unfold scanFile readText readBytes entryAt resolve
  rw [h.route_module]
  rfl

/-- The module below it is noted as one that cannot be read. -/
theorem processAll_module :
    nested.processAll ({} : Settings).render [Path.join path "a.py"]
      = (nested, .ok { failed := [(Path.join path "a.py",
          .read (Path.join path "a.py") .nameTooLong)] }) := by
  have hprocess : nested.process ({} : Settings).render (Path.join path "a.py")
      = (nested, .error (.read (Path.join path "a.py") .nameTooLong)) := by
    unfold process
    rw [h.scanFile_module]
  have hgoes : endsBatch (nested.process ({} : Settings).render (Path.join path "a.py")).2
      = false := by
    rw [hprocess]
    rfl
  rw [processAll_goes_on [] hgoes, hprocess]
  rfl

/-- Alone it leads to nothing that could be read. -/
theorem generate_alone :
    nested.generate {} [path]
      = (nested, .ok { failed := [(Path.join path "a.py",
          .read (Path.join path "a.py") .nameTooLong)] }) := by
  have hcollect : nested.collect ({} : Settings).filter [path] = .ok [Path.join path "a.py"] := by
    refine collect_eq_ok_iff.mpr ⟨[Path.join path "a.py"], ?_, ?_⟩
    · exact expandAll_cons_iff.mpr ⟨_, _, h.expand_path, rfl, rfl⟩
    · simp [firstSpellings, h.accepts_module]
  rw [generate_of_collect hcollect, h.processAll_module]

/-- Behind the shortest spelling it adds nothing. -/
theorem generate_after : nested.generate {} ["d", path] = nested.processAll {} ["d/a.py"] := by
  have hcollect : nested.collect ({} : Settings).filter ["d", path] = .ok ["d/a.py"] :=
    collect_twice (eq_ok_of_toOption (by decide +kernel)) h.expand_path (by decide +kernel)
      h.accepts_module h.identity_module.symm
  exact generate_of_collect hcollect

/-- Before it, it takes the place of the spelling that can be read. -/
theorem generate_before :
    nested.generate {} [path, "d"]
      = (nested, .ok { failed := [(Path.join path "a.py",
          .read (Path.join path "a.py") .nameTooLong)] }) := by
  have hcollect : nested.collect ({} : Settings).filter [path, "d"]
      = .ok [Path.join path "a.py"] :=
    collect_twice h.expand_path (eq_ok_of_toOption (by decide +kernel)) h.accepts_module
      (by decide +kernel) h.identity_module
  rw [generate_of_collect hcollect, h.processAll_module]

end SpellsLongest

/-- A module, and a device where its tests go. -/
def drain : FileSystem :=
  { top := [("a.py", .file "def f():\n  pass\n".toUTF8),
      ("tests", .directory [("test_a.py", .device)])] }

/-- What reads as a module with functions is told from their number. -/
theorem hasFunctions_of_count {fs : FileSystem} {t : ByteString} {n : Nat}
    (h : (fs.scanFile t).toOption.map (·.functions.length) = some (n + 1)) :
    ∃ m, fs.HasFunctions t m := by
  obtain ⟨m, hm, hcount⟩ := Option.map_eq_some_iff.mp h
  refine ⟨m, eq_ok_of_toOption hm, ?_⟩
  rintro hnil
  rw [hnil] at hcount
  cases hcount

/-- What is written to a device is not kept. -/
theorem drain_keeps_nothing :
    (∃ m, drain.HasFunctions "a.py" m)
      ∧ ∃ after report, drain.generate {} ["a.py"] = (after, .ok report)
        ∧ report.written = ["tests/test_a.py"]
        ∧ after.readBytes "tests/test_a.py" = .ok .empty := by
  have hwritten : (drain.generate {} ["a.py"]).2.toOption.map Report.written
      = some (["tests/test_a.py"] : List ByteString) := by decide +kernel
  obtain ⟨report, hreport, hwritten⟩ := Option.map_eq_some_iff.mp hwritten
  have hdevice : (drain.generate {} ["a.py"]).1.shapeAt ["tests", "test_a.py"] = some .device := by
    decide +kernel
  have hlocated : (drain.generate {} ["a.py"]).1.locate? "tests/test_a.py"
      = some (["tests", "test_a.py"] : Location) := by decide +kernel
  refine ⟨hasFunctions_of_count (n := 0) (by decide +kernel), _, report,
    generate_of_report hreport, hwritten, ?_⟩
  obtain ⟨e, he⟩ := locate?_eq_some.mp hlocated
  have hshape := shapeAt_of_entryAt he
  rw [hdevice] at hshape
  unfold readBytes
  cases e with
  | device => rw [he]
  | _ => cases hshape

/-- **Not every source with functions has its tests at the end**: what is written to a device is not
    kept, of two modules with names that are read alike the second takes the place of the first, and
    a module is not read if it is found by a path that is too long. -/
theorem generate_misses_tests :
    ({} : Settings).HidesOutput
      ∧ (drain.WellFormed ∧ drain.LinkFree ∧ drain.collect {} ["a.py"] = .ok ["a.py"]
        ∧ (∃ m, drain.HasFunctions "a.py" m)
        ∧ ∃ after report, drain.generate {} ["a.py"] = (after, .ok report)
          ∧ report.written = ["tests/test_a.py"]
          ∧ after.readBytes "tests/test_a.py" = .ok .empty)
      ∧ (latin.WellFormed ∧ latin.LinkFree ∧ latin.collect {} [graveName, acuteName] = .ok [graveName, acuteName]
        ∧ (∃ m, latin.HasFunctions graveName m)
        ∧ (∃ m, latin.HasFunctions acuteName m)
        ∧ ∃ after report, latin.generate {} [graveName, acuteName] = (after, .ok report)
          ∧ report.written = ["tests/test_\uFFFD.py", "tests/test_\uFFFD.py"])
      ∧ nested.WellFormed ∧ nested.LinkFree
        ∧ Path.isAbsolute (Path.padded "d" 4094) = false
        ∧ .parent ∉ Path.components (Path.padded "d" 4094)
        ∧ nested.isDirectory (Path.padded "d" 4094) = true
        ∧ (∃ m, nested.HasFunctions "d/a.py" m)
        ∧ ∃ report, nested.generate {} [Path.padded "d" 4094] = (nested, .ok report)
          ∧ report.written = [] :=
  ⟨default_hidesOutput,
    ⟨⟨by decide, by decide⟩, linkFree_of_entries (by decide), eq_ok_of_toOption (by decide +kernel),
      drain_keeps_nothing⟩,
    ⟨latin_wellFormed, latin_linkFree, eq_ok_of_toOption (by decide +kernel),
      hasFunctions_of_count (n := 0) (by decide +kernel),
      hasFunctions_of_count (n := 0) (by decide +kernel), latin_generates⟩,
    nested_wellFormed, nested_linkFree, longest_relative.1, longest_relative.2,
    longest_spells.isDirectory_path, hasFunctions_of_count (n := 0) (by decide +kernel), _,
    longest_spells.generate_alone, rfl⟩

end TestScaffold.FileSystem
