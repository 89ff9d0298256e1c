/-
  TestScaffold.Proofs.Batch.Collision — what a batch can do to its own sources.

  The sources of a batch are fixed before the first test module is written.  A file at the
  destination of a test module is overwritten unless it is the source itself, so a source
  can be replaced while it waits: by the tests of another source of the batch.

    * `testLocation_ne` — a prefix keeps a test module apart from its own source;
    * `processAll_keeps_or_replaces` — the invariant of a batch;
    * `generate_keeps_or_replaces` — every source reads as before, or was the destination of
      another source and holds the tests of that one;
    * `generate_replaces_waiting_source` — which does happen.
-/
import TestScaffold.Proofs.Batch.Placement
import TestScaffold.Proofs.Discovery.Sources

namespace TestScaffold.FileSystem

open SourceModule

/-! ## §1. A test module and its own source -/

/-- **A prefix keeps a test module apart from its own source.** -/
theorem testLocation_ne {r : RenderSettings} (hmark : r.modulePrefix ≠ "") {path name : ByteString}
    (hext : Path.hasExtension path pythonExtension = true)
    (hname : Path.fileName? path = some name) {loc : Location} (hloc : loc = loc.dropLast ++ [name]) :
    testLocation r path loc ≠ loc := by
  intro heq
  unfold testLocation at heq
  rw [hloc, List.dropLast_concat] at heq
  have hsame := List.append_cancel_left heq
  -- beside the source the names differ by the prefix, elsewhere the test module is further down
  cases hdir : Path.names r.outputDir with
  | nil =>
      rw [hdir, List.nil_append] at hsame
      have hown : testName r path = name := List.singleton_inj.mp hsame
      -- then the name of the source is a text, which is the name without the prefix
      have htext : name.isText = true := hown ▸ ByteString.isText_ofText _
      have hplain := (Path.fileName_iff_readable hname pythonExtension).mpr ⟨hext, htext⟩
      have hchars := congrArg String.toList (ByteString.ofText_injective (hown.trans hplain.symm))
      rw [String.toList_append] at hchars
      exact hmark (String.toList_inj.mp (List.append_left_eq_self.mp hchars))
  | cons n ns =>
      rw [hdir] at hsame
      have hlen := congrArg List.length hsame
      simp at hlen

/-- The destination of a source does not lead to the source. -/
theorem locate?_destination_ne {fs : FileSystem} (hw : fs.WellFormed) (hfree : fs.LinkFree)
    {r : RenderSettings} (hr : r.StaysBelow) (hmark : r.modulePrefix ≠ "") {path : ByteString}
    (hext : Path.hasExtension path pythonExtension = true) {loc : Location} {content : ByteArray}
    (h : fs.entryAt path = .ok (loc, .file content)) :
    fs.locate? (destination r path) ≠ some loc := by
  obtain ⟨name, es, hname, hloc, -⟩ := follow_directory hw hfree h Shape.noConfusion
  intro hdest
  obtain ⟨e, he⟩ := locate?_eq_some.mp hdest
  have hplace := resolve_destination hw hfree hr.leadsDown h Shape.noConfusion (entryAt_iff.mp he)
  exact testLocation_ne hmark hext hname hloc hplace.symm

/-! ## §2. The invariant of a batch -/

/-- What a batch may do to one of its sources: nothing, or put the tests of another source in its
    place. -/
def KeepsOrReplaces (r : RenderSettings) (sources : List ByteString) (before after : FileSystem)
    (t : ByteString) : Prop :=
  after.readBytes t = before.readBytes t
    ∨ ∃ other ∈ sources, other ≠ t ∧ before.Meets r t other
      ∧ ∃ tests, AreTestsOf before before r sources other tests ∧ after.readBytes t = .ok tests

/-- A source that was kept or replaced reads as it may read. -/
theorem KeepsOrReplaces.mayHold {r : RenderSettings} {sources : List ByteString}
    {before after : FileSystem} {t : ByteString} (h : KeepsOrReplaces r sources before after t)
    {content : ByteArray} (hread : after.readBytes t = .ok content) :
    MayHold before before r sources t content := by
  rcases h with hsame | ⟨other, hother, -, hmeets, tests, htests, hnow⟩
  · rw [hsame] at hread
    exact .own hread
  · rw [hnow] at hread
    cases hread
    exact htests.mayHold hother hmeets

section Batch

variable {fs : FileSystem} (hw : fs.WellFormed) (hfree : fs.LinkFree) {r : RenderSettings}
  (hr : r.StaysBelow) (hmark : r.modulePrefix ≠ "") {sources : List ByteString}
  (hsources : ∀ t ∈ sources, fs.Finds t ∧ Path.hasExtension t pythonExtension = true)
include hw hfree hr hmark hsources

/-- **One step**: processing a source keeps every source or replaces it. -/
theorem process_keeps_or_replaces {path t : ByteString} (hpath : path ∈ sources) (ht : t ∈ sources)
    {g : FileSystem} (hgw : g.WellFormed) (hgfree : g.LinkFree) (hg : Grows fs g)
    (hown : KeepsOrReplaces r sources fs g path) (h : KeepsOrReplaces r sources fs g t) :
    KeepsOrReplaces r sources fs (g.process r path).1 t := by
  obtain ⟨hgw', hgfree', hstep⟩ := process_grows hgw hgfree r path
  have hg' := hg.trans hstep
  by_cases hroute : ∃ r', route t = .ok r'
  · obtain ⟨r', hroute⟩ := hroute
    obtain ⟨loc, content, he⟩ := (hsources t ht).1.leads hroute
    have hl : fs.locate? t = some loc := locate?_eq_some.mpr ⟨_, he⟩
    have hs : fs.shapeAt loc = some (.file content) := shapeAt_of_entryAt he
    obtain ⟨old, hold⟩ := hg.file hs
    rcases @process_at_file g r path loc old hold with
      hkept | ⟨read, functions, hread, hscans, hne, hdest, hnew⟩
    · have hsame : (g.process r path).1.readBytes t = g.readBytes t :=
        readBytes_grows hstep (locate?_grows hg hl) hold hkept
      unfold KeepsOrReplaces at h ⊢
      rwa [hsame]
    · -- the destination leads to this file, so it is the destination of another source
      have hother : path ≠ t := by
        rintro rfl
        obtain ⟨new, hnew⟩ := entryAt_file_grows hg' he
        exact locate?_destination_ne hgw' hgfree' hr hmark (hsources _ ht).2 hnew hdest
      -- its place was the same before the run, and the file was there
      have hbefore : fs.locate? (destination r path) = some loc := by
        obtain ⟨source, hsource, -⟩ := locate?_of_readBytes hread
        obtain ⟨e, he'⟩ := locate?_eq_some.mp hsource
        obtain ⟨lp, first, hp⟩ :=
          (hsources path hpath).1.leads (resolve_eq_follow (entryAt_iff.mp he')).1
        obtain ⟨later, hp'⟩ := entryAt_file_grows hg' hp
        obtain ⟨e', hd⟩ := locate?_eq_some.mp hdest
        have hplace : loc = testLocation r path lp :=
          resolve_destination hgw' hgfree' hr.leadsDown hp' Shape.noConfusion (entryAt_iff.mp hd)
        rw [hplace] at hs ⊢
        exact locate?_destination hw hfree hr.leadsDown hp Shape.noConfusion
          (resolve_eq_follow (entryAt_iff.mp hd)).1 hs
      exact Or.inr ⟨path, hpath, hother, ⟨loc, hl, hbefore⟩, _,
        ⟨read, functions, hown.mayHold hread, hscans, hne, rfl⟩,
        readBytes_eq_ok (locate?_grows hg' hl) hnew⟩
  · exact Or.inl (readBytes_of_no_route (fun r' hr' => hroute ⟨r', hr'⟩) _ _)

/-- **All steps**: a batch keeps every source or replaces it, whether it succeeds or not. -/
theorem processAll_keeps_or_replaces {t : ByteString} (ht : t ∈ sources) :
    KeepsOrReplaces r sources fs (fs.processAll r sources).1 t := by
  -- what is kept besides: the file system is well-formed, without links, and has only grown
  have hrun : ((fs.processAll r sources).1.WellFormed ∧ (fs.processAll r sources).1.LinkFree
      ∧ Grows fs (fs.processAll r sources).1)
      ∧ ∀ u ∈ sources, KeepsOrReplaces r sources fs (fs.processAll r sources).1 u := by
    refine processAll_induct
      (P := fun g => (g.WellFormed ∧ g.LinkFree ∧ Grows fs g)
        ∧ ∀ u ∈ sources, KeepsOrReplaces r sources fs g u)
      ?_ ⟨⟨hw, hfree, Grows.refl fs⟩, fun u _ => Or.inl rfl⟩
    rintro path hpath g ⟨⟨hgw, hgfree, hg⟩, h⟩
    obtain ⟨hgw', hgfree', hstep⟩ := process_grows hgw hgfree r path
    exact ⟨⟨hgw', hgfree', hg.trans hstep⟩, fun u hu =>
      process_keeps_or_replaces hw hfree hr hmark hsources hpath hu hgw hgfree hg (h path hpath)
        (h u hu)⟩
  exact hrun.2 t ht

end Batch

/-! ## §3. A whole run -/

/-- **A run replaces a source only by the tests of another source.**  After a run, whether it
    succeeds or not, every collected source reads as before, unless the destination of another
    collected source led to its file; then it may hold the tests rendered for that one, of the
    functions in what that one read as when its turn came. -/
theorem generate_keeps_or_replaces {fs : FileSystem} (hw : fs.WellFormed) (hfree : fs.LinkFree)
    {s : Settings} (hr : s.render.StaysBelow) (hmark : s.render.modulePrefix ≠ "")
    {paths sources : List ByteString} (hcollect : fs.collect s.filter paths = .ok sources)
    (hpy : ∀ t ∈ sources, Path.hasExtension t pythonExtension = true) {t : ByteString}
    (ht : t ∈ sources) :
    (fs.generate s paths).1.readBytes t = fs.readBytes t
      ∨ ∃ other ∈ sources, other ≠ t ∧ fs.Meets s.render t other
        ∧ ∃ tests, AreTestsOf fs fs s.render sources other tests
          ∧ (fs.generate s paths).1.readBytes t = .ok tests := by
  have hsources : ∀ t ∈ sources, fs.Finds t ∧ Path.hasExtension t pythonExtension = true :=
    fun t ht => ⟨finds_of_mem_collect hcollect hw ht, hpy t ht⟩
  rw [generate_of_collect hcollect]
  exact processAll_keeps_or_replaces hw hfree hr hmark hsources ht

/-- A directory in which one module has the name that the tests of the other get. -/
def crossed : FileSystem :=
  { top := [("a.py", .file "def f():\n  pass\n".toUTF8),
      ("test_a.py", .file "def g():\n  pass\n".toUTF8)] }

/-- Tests are written beside their modules. -/
def beside : Settings :=
  { render := { outputDir := "." } }

theorem crossed_wellFormed : crossed.WellFormed :=
  ⟨by decide, by decide⟩

theorem crossed_linkFree : crossed.LinkFree :=
  linkFree_of_entries (by decide)

theorem beside_staysBelow : beside.render.StaysBelow :=
  ⟨Or.inl rfl, by decide⟩

theorem collect_crossed :
    crossed.collect beside.filter ["."] = .ok ["./a.py", "./test_a.py"] :=
  eq_ok_of_toOption (by decide)

theorem crossed_python :
    ∀ t ∈ (["./a.py", "./test_a.py"] : List ByteString), Path.hasExtension t pythonExtension = true := by
  decide

theorem generate_keeps_or_replaces_crossed :
    crossed.WellFormed ∧ crossed.LinkFree ∧ beside.render.StaysBelow
      ∧ ((crossed.generate beside ["."]).1.readBytes "./test_a.py"
            = crossed.readBytes "./test_a.py"
          ∨ ∃ other ∈ (["./a.py", "./test_a.py"] : List ByteString), other ≠ "./test_a.py"
            ∧ crossed.Meets beside.render "./test_a.py" other
            ∧ ∃ tests, AreTestsOf crossed crossed beside.render ["./a.py", "./test_a.py"] other tests
              ∧ (crossed.generate beside ["."]).1.readBytes "./test_a.py" = .ok tests) :=
  ⟨crossed_wellFormed, crossed_linkFree, beside_staysBelow,
    generate_keeps_or_replaces crossed_wellFormed crossed_linkFree beside_staysBelow
      (by decide +kernel) collect_crossed crossed_python (by decide)⟩

/-- **A source can be replaced while it waits**: without links, with a prefix and with Python
    modules only, a collected source does not read as before the run. -/
theorem generate_replaces_waiting_source :
    crossed.WellFormed ∧ crossed.LinkFree ∧ beside.render.StaysBelow
      ∧ beside.render.modulePrefix ≠ ""
      ∧ crossed.collect beside.filter ["."] = .ok ["./a.py", "./test_a.py"]
      ∧ (∀ t ∈ (["./a.py", "./test_a.py"] : List ByteString), Path.hasExtension t pythonExtension = true)
      ∧ (crossed.generate beside ["."]).1.readBytes "./test_a.py"
          ≠ crossed.readBytes "./test_a.py" := by
  refine ⟨crossed_wellFormed, crossed_linkFree, beside_staysBelow, by decide +kernel,
    collect_crossed, crossed_python, ?_⟩
  intro heq
  have hsame := congrArg Except.toOption heq
  revert hsame
  decide +kernel

end TestScaffold.FileSystem
