/-
  TestScaffold.Proofs.Batch.Sharing — when two modules of a batch share one test module.

  A test module overwrites what stands at its destination, so two sources with one
  destination leave the tests of the later one.  Without links:

    * `destination_unfolded` — folders in the module prefix count as part of the output
      directory;
    * `placed_by_name` — a test module ends in the stem of its source, whatever the settings;
    * `placed_below` — and stands below its source unless the settings lead elsewhere;
    * `processAll_places` — every place written to holds, at the end, the tests of one of the
      sources that are placed there;
    * `generate_separates` — so two sources share a test module exactly if their stems are read
      alike and they have one output directory;
    * `generate_shares_output` — which does happen.
-/
import TestScaffold.Proofs.Batch.Placement
import TestScaffold.Proofs.Discovery.Sources

namespace TestScaffold

/-! ## §1. Folders in the module prefix -/

namespace Path

/-- What stands between a path and a relative one that is joined to it. -/
def separator (a : List UInt8) : List UInt8 :=
  if a.isEmpty || a.getLast? == some slash then [] else [slash]

theorem joinBytes_relative (a : List UInt8) {b : List UInt8} (hb : b.head? ≠ some slash) :
    joinBytes a b = a ++ (separator a ++ b) := by
  unfold joinBytes separator
  simp only [beq_iff_eq, hb, if_false]
  split <;> simp

theorem separator_join (a b : List UInt8) : separator (a ++ (separator a ++ b)) = separator b := by
  by_cases hb : b = []
  · -- a separator ends in a slash, so no second one follows
    subst hb
    unfold separator
    by_cases ha : (a.isEmpty || a.getLast? == some slash) = true
    · simp [ha]
    · simp [ha]
  · have hlast : (a ++ (separator a ++ b)).getLast? = b.getLast? := by
      rw [List.getLast?_append, List.getLast?_append, List.getLast?_eq_some_getLast hb]
      rfl
    show (if _ then _ else _) = (if _ then _ else _)
    rw [hlast]
    simp [hb]

theorem joinBytes_assoc (a b c : List UInt8) :
    joinBytes a (joinBytes b c) = joinBytes (joinBytes a b) c := by
  by_cases hc : c.head? = some slash
  · simp [joinBytes, hc]
  have hhead : (joinBytes b c).head? = some slash ↔ b.head? = some slash := by
    have hsame := head?_join (a := b) hc
    rw [Bool.eq_iff_iff] at hsame
    simpa using hsame
  by_cases hb : b.head? = some slash
  · -- what stands before an absolute path does not count
    have hleft : joinBytes a (joinBytes b c) = joinBytes b c := by
      rw [joinBytes, hhead.mpr hb]
      rfl
    have hright : joinBytes a b = b := by
      rw [joinBytes, hb]
      rfl
    rw [hleft, hright]
  · rw [joinBytes_relative a (fun h => hb (hhead.mp h)), joinBytes_relative b hc,
      joinBytes_relative a hb, joinBytes_relative _ hc, separator_join]
    simp

end Path

namespace Path

/-- Texts joined are a text. -/
theorem isText_join (left right : String) : (join left right).isText = true := by
  refine ByteString.isText_iff.mpr ?_
  unfold join joinBytes
  split
  · exact ⟨right, rfl⟩
  · split
    · exact ⟨left ++ right, (ByteString.ofText_append left right).symm⟩
    · refine ⟨left ++ "/" ++ right, ByteString.toList_inj.mp ?_⟩
      simp [ByteString.ofText_append]

end Path

namespace RenderSettings

/-- The module prefix up to its last slash. -/
def prefixFolder (r : RenderSettings) : String :=
  String.ofList (r.modulePrefix.toList.reverse.dropWhile (· != '/')).reverse

/-- The module prefix after its last slash. -/
def prefixName (r : RenderSettings) : String :=
  String.ofList (r.modulePrefix.toList.reverse.takeWhile (· != '/')).reverse

/-- The settings with the folders of the module prefix moved to the output directory. -/
def unfolded (r : RenderSettings) : RenderSettings :=
  { r with outputDir := (Path.join r.outputDir r.prefixFolder).text, modulePrefix := r.prefixName }

theorem outputDir_unfolded (r : RenderSettings) :
    (r.unfolded.outputDir : ByteString) = Path.join r.outputDir r.prefixFolder :=
  ByteString.ofText_text (Path.isText_join r.outputDir r.prefixFolder)

theorem slash_not_mem_prefixName (r : RenderSettings) : '/' ∉ r.prefixName.toList := by
  intro hmem
  unfold prefixName at hmem
  rw [String.toList_ofList, List.mem_reverse] at hmem
  have hall := List.all_takeWhile (p := (· != '/')) (l := r.modulePrefix.toList.reverse)
  exact absurd (List.all_eq_true.mp hall '/' hmem) (by decide)

theorem prefixFolder_append (r : RenderSettings) :
    r.prefixFolder ++ r.prefixName = r.modulePrefix := by
  apply String.toList_inj.mp
  simp only [prefixFolder, prefixName, String.toList_append, String.toList_ofList]
  rw [← List.reverse_append, List.takeWhile_append_dropWhile, List.reverse_reverse]

theorem separator_prefixFolder (r : RenderSettings) :
    Path.separator (r.prefixFolder : ByteString).toList = [] := by
  -- what is dropped stops at a slash or is everything
  cases hdrop : r.modulePrefix.toList.reverse.dropWhile (· != '/') with
  | nil =>
      have hempty : r.prefixFolder = "" := by
        rw [prefixFolder, hdrop]
        rfl
      rw [hempty]
      rfl
  | cons c cs =>
      have hc := List.head_dropWhile_not (· != '/') (l := r.modulePrefix.toList.reverse)
      simp only [hdrop] at hc
      have hslash : c = '/' := by simpa using hc
      have hfolder : r.prefixFolder = String.ofList cs.reverse ++ "/" := by
        apply String.toList_inj.mp
        simp [prefixFolder, hdrop, hslash]
      rw [hfolder, ByteString.ofText_append]
      simp [Path.separator]

end RenderSettings

namespace SourceModule

/-- **Folders in the module prefix are part of the output directory.** -/
theorem destination_unfolded (r : RenderSettings) (path : ByteString) :
    destination r.unfolded path = destination r path := by
  have hname : (testName r.unfolded path).toList.head? ≠ some slash :=
    Path.head?_ordinary (isOrdinary_testName (r := r.unfolded) r.slash_not_mem_prefixName path)
  have htext : (testName r path).toList
      = Path.joinBytes (r.prefixFolder : ByteString).toList (testName r.unfolded path).toList := by
    rw [Path.joinBytes_relative _ hname, r.separator_prefixFolder]
    unfold testName
    rw [← r.prefixFolder_append, String.append_assoc, ByteString.ofText_append]
    rfl
  show Path.join (Path.join (Path.directory path) r.unfolded.outputDir) (testName r.unfolded path)
    = Path.join (Path.join (Path.directory path) r.outputDir) (testName r path)
  apply ByteString.toList_inj.mp
  simp only [r.outputDir_unfolded, Path.toList_join, htext]
  rw [Path.joinBytes_assoc, Path.joinBytes_assoc]

end SourceModule

/-! ## §2. The place of a test module -/

namespace FileSystem

open SourceModule

/-- The directory that the file at a path stands in. -/
def folder? (fs : FileSystem) (path : ByteString) : Option Location :=
  (fs.locate? path).map List.dropLast

theorem folder?_of_locate? {fs : FileSystem} {path : ByteString} {loc : Location}
    (h : fs.locate? path = some loc) : fs.folder? path = some loc.dropLast := by
  rw [folder?, h]
  rfl

/-- The way to a test module ends with the step to its name. -/
theorem steps_destination_last (r : RenderSettings) (path : ByteString) :
    ∃ xs, (Route.ofPath (destination r path)).steps = xs ++ [.down (testName r.unfolded path)] := by
  rw [← destination_unfolded]
  exact ⟨_, Path.steps_join (isOrdinary_testName (r := r.unfolded) r.slash_not_mem_prefixName path)⟩

section Places

variable {fs : FileSystem} (hw : fs.WellFormed) (hfree : fs.LinkFree)
include hw hfree

/-- Without links a way that ends with a step to a name leads to that name in some directory. -/
theorem follow_to_last {path name : ByteString} {xs : List Step}
    (hsteps : (Route.ofPath path).steps = xs ++ [.down name]) {target : Target}
    (h : fs.resolve path = .ok target) :
    ∃ d es, fs.follow 0 (fs.start (Route.ofPath path)) xs = .ok (.found d (.directory es))
      ∧ fs.follow 0 d [.down name] = .ok target ∧ target.location = d ++ [name] := by
  obtain ⟨-, hf⟩ := resolve_eq_follow h
  rw [hsteps, follow_linkFree hfree] at hf
  obtain ⟨d, es, hd, hlast⟩ := follow_split hfree (hw.start _) (by simp) hf
  exact ⟨d, es, hd, hlast, follow_downward hfree (by simp) hlast⟩

/-- **A test module ends in the stem of its source**, whatever the settings. -/
theorem placed_by_name {r : RenderSettings} {path : ByteString} {loc : Location}
    (h : fs.locate? (destination r path) = some loc) :
    loc = loc.dropLast ++ [testName r.unfolded path] := by
  obtain ⟨xs, hsteps⟩ := steps_destination_last r path
  obtain ⟨e, he⟩ := locate?_eq_some.mp h
  obtain ⟨d, -, -, -, hloc⟩ := follow_to_last hw hfree hsteps (entryAt_iff.mp he)
  have hloc : loc = d ++ [testName r.unfolded path] := hloc
  rw [hloc, List.dropLast_concat]

/-- **It stands below its source**, unless the settings lead elsewhere. -/
theorem placed_below {r : RenderSettings} (hr : r.unfolded.LeadsDown) {path : ByteString}
    {source loc : Location} {content : ByteArray}
    (hsource : fs.entryAt path = .ok (source, .file content))
    (h : fs.locate? (destination r path) = some loc) :
    loc.dropLast = source.dropLast ++ Path.names r.unfolded.outputDir := by
  rw [← destination_unfolded] at h
  obtain ⟨e, he⟩ := locate?_eq_some.mp h
  have hplace := resolve_destination hw hfree hr hsource Shape.noConfusion (entryAt_iff.mp he)
  have hplace : loc = testLocation r.unfolded path source := hplace
  rw [hplace, testLocation, ← List.append_assoc, List.dropLast_concat]

end Places

/-! ## §3. The step -/

/-- What stands at a location are tests of a source, of the functions in what it may read as; only a
    device does not keep them. -/
def HoldsTests (before places : FileSystem) (r : RenderSettings) (sources : List ByteString)
    (fs : FileSystem) (path : ByteString) (loc : Location) : Prop :=
  fs.shapeAt loc = some .device
    ∨ ∃ tests, AreTestsOf before places r sources path tests ∧ fs.shapeAt loc = some (.file tests)

/-- **The step**: a source is left alone, or it is read from a file, and its tests are placed at its
    destination, and only there. -/
theorem process_places {fs : FileSystem} (hw : fs.WellFormed) (r : RenderSettings)
    (path : ByteString) (hgoes : endsBatch (fs.process r path).2 = false) :
    ((fs.process r path).1 = fs
        ∧ ∀ report, (noteOutcome path (fs.process r path).2 report).written = report.written)
    ∨ ((fs.process r path).2 = .ok (.written (destination r path))
        ∧ ∃ source content functions, fs.entryAt path = .ok (source, .file content)
        ∧ Scans content functions ∧ functions ≠ []
        ∧ ∃ loc, (fs.process r path).1.locate? (destination r path) = some loc
          ∧ ((fs.process r path).1.shapeAt loc = some .device
            ∨ (fs.process r path).1.shapeAt loc
                = some (.file ((withFunctions path functions).render r).toUTF8))
          ∧ ∀ l old, l ≠ loc → fs.shapeAt l = some (.file old) →
              (fs.process r path).1.shapeAt l = some (.file old)) := by
  obtain ⟨failure, -, hp⟩ | ⟨m, -, -, hp⟩ | ⟨m, failure, -, -, hfail, hfatal, -⟩ |
    ⟨m, made, done, hscan, hne, -, -, hcreate, hwrite, hp⟩ := process_cases fs r path
  · rw [hp]
    exact Or.inl ⟨rfl, fun report => rfl⟩
  · rw [hp]
    exact Or.inl ⟨rfl, fun report => rfl⟩
  · rw [hfail] at hgoes
    simp [endsBatch, hfatal] at hgoes
  · have hadds := createDirectories_adds fs (Path.directory (destination r path))
    have hmw := createDirectories_wellFormed (Path.directory (destination r path)) hw
    rw [hcreate] at hadds hmw
    obtain ⟨source, content, hl, hs, hread⟩ := file_of_scanFile hscan hne
    obtain ⟨content', hread', hscans⟩ := scans_of_scanFile hscan
    rw [hread] at hread'
    cases hread'
    obtain ⟨target, htarget, -, hshapes⟩ := write_shapes hmw hwrite
    obtain ⟨e, he, -⟩ := entryAt_write hmw hwrite htarget
    have hthere := hshapes target.location
    rw [if_pos rfl] at hthere
    rw [hp]
    refine Or.inr ⟨rfl, source, content, m.functions, entryAt_file hl hs, hscans, hne,
      target.location, locate?_eq_some.mpr ⟨e, he⟩, ?_, ?_⟩
    · obtain ⟨-, -, -, -, -, hm⟩ := scanFile_ok hscan
      by_cases hdevice : made.shapeAt target.location = some .device
      · refine Or.inl ?_
        rw [hthere, hdevice]
        rfl
      · refine Or.inr ?_
        rw [hthere, Shape.written_eq_file hdevice, ← hm]
    · intro l old hne' hold
      rw [hshapes, if_neg hne']
      exact hadds.keep hold

/-! ## §4. The run -/

/-- A device stays a device. -/
theorem Grows.device {fs fs' : FileSystem} (h : Grows fs fs') {loc : Location}
    (hs : fs.shapeAt loc = some .device) : fs'.shapeAt loc = some .device := by
  obtain ⟨e, he, hshape⟩ := find?_of_shapeAt hs
  obtain ⟨e', he', hkind⟩ := h.find? he
  rw [hshape] at hkind
  rw [shapeAt_of_find? he']
  cases e' with
  | device => rfl
  | _ => cases hkind

section Run

variable {fs after : FileSystem} {r : RenderSettings} {sources : List ByteString}
  (hfinds : ∀ t ∈ sources, fs.Finds t)

/-- The states of a batch: the file system has only grown, and every source reads as it may read. -/
structure Underway (fs after : FileSystem) (r : RenderSettings) (sources : List ByteString)
    (g : FileSystem) : Prop where
  /-- The file system stays well-formed. -/
  ordered : g.WellFormed
  /-- No links appear. -/
  linkFree : g.LinkFree
  /-- Nothing is taken away. -/
  grows : Grows fs g
  /-- The sources hold what they had, or tests. -/
  held : ∀ t ∈ sources, ∀ {content}, g.readBytes t = .ok content →
    MayHold fs after r sources t content

include hfinds in
/-- **One step** of a batch that ends in `after`. -/
theorem Underway.process {g : FileSystem} (h : Underway fs after r sources g) {path : ByteString}
    (hpath : path ∈ sources) (hafter : Grows (g.process r path).1 after) :
    Underway fs after r sources (g.process r path).1 := by
  obtain ⟨hw', hfree', hstep⟩ := process_grows h.ordered h.linkFree r path
  refine ⟨hw', hfree', h.grows.trans hstep, ?_⟩
  intro t ht content hread
  -- the source was a file from the start, so it still is
  obtain ⟨loc, hl, -⟩ := locate?_of_readBytes hread
  obtain ⟨e, he⟩ := locate?_eq_some.mp hl
  obtain ⟨lt, first, hfirst⟩ := (hfinds t ht).leads (resolve_eq_follow (entryAt_iff.mp he)).1
  obtain ⟨old, hold⟩ := entryAt_file_grows h.grows hfirst
  have hlt : g.locate? t = some lt := locate?_eq_some.mpr ⟨_, hold⟩
  have hnow := locate?_grows hstep hlt
  rcases @process_at_file g r path lt old (shapeAt_of_entryAt hold) with
    hkept | ⟨was, functions, hwas, hscans, hne, hdest, htests⟩
  · rw [readBytes_eq_ok hnow hkept] at hread
    cases hread
    exact h.held t ht (readBytes_eq_ok hlt (shapeAt_of_entryAt hold))
  · rw [readBytes_eq_ok hnow htests] at hread
    cases hread
    have hmeets : after.Meets r t path :=
      ⟨lt, locate?_grows hafter hnow, locate?_grows hafter hdest⟩
    exact .tests hpath hmeets (h.held path hpath hwas) hscans hne

/-- A batch that succeeds goes through well-formed states that grow. -/
theorem processAll_grows {rest : List ByteString} {g : FileSystem} {report : Report}
    (hw : g.WellFormed) (hfree : g.LinkFree) (h : g.processAll r rest = (after, .ok report)) :
    after.WellFormed ∧ after.LinkFree ∧ Grows g after := by
  have hrun : ((g.processAll r rest).1.WellFormed ∧ (g.processAll r rest).1.LinkFree
      ∧ Grows g (g.processAll r rest).1) := by
    refine processAll_induct (P := fun g' => g'.WellFormed ∧ g'.LinkFree ∧ Grows g g') ?_
      ⟨hw, hfree, Grows.refl g⟩
    rintro path - g' ⟨hw', hfree', hg'⟩
    obtain ⟨hw'', hfree'', hstep⟩ := process_grows hw' hfree' r path
    exact ⟨hw'', hfree'', hg'.trans hstep⟩
  rwa [h] at hrun

include hfinds in
/-- **The run**: a batch that succeeds reports, in order, the destinations of some of its sources;
    each leads to a place that holds the tests of one of those sources, and a file at no such place
    is left alone. -/
theorem processAll_places {rest : List ByteString} (hrest : ∀ t ∈ rest, t ∈ sources) {g : FileSystem}
    {report : Report} (hg : Underway fs after r sources g)
    (h : g.processAll r rest = (after, .ok report)) :
    ∃ named : List ByteString, named.Sublist rest ∧ report.written = named.map (destination r)
      ∧ (∀ t ∈ named, (∃ source content, after.entryAt t = .ok (source, .file content))
          ∧ ∃ loc, after.locate? (destination r t) = some loc ∧ ∃ u ∈ named,
            after.locate? (destination r u) = some loc ∧ HoldsTests fs after r sources after u loc)
      ∧ ∀ l old, g.shapeAt l = some (.file old) → after.shapeAt l = some (.file old)
          ∨ ∃ u ∈ named, after.locate? (destination r u) = some l
            ∧ HoldsTests fs after r sources after u l := by
  -- on the sources that are left; what was placed before is the last of the facts
  induction rest generalizing g report with
  | nil =>
      cases h
      exact ⟨[], List.Sublist.slnil, rfl, by simp, fun l old hs => Or.inl hs⟩
  | cons path rest ih =>
      have hgoes := goes_on_of_ok h
      obtain ⟨hw', hfree', hgrows⟩ := process_grows hg.ordered hg.linkFree r path
      rw [processAll_goes_on rest hgoes] at h
      cases hlater : (g.process r path).1.processAll r rest with
      | mk done result =>
          rw [hlater] at h
          cases result with
          | error failure => cases h
          | ok later =>
              cases h
              obtain ⟨-, -, hagrows⟩ := processAll_grows hw' hfree' hlater
              obtain ⟨named, hsub, hwritten, hplaces, hkept⟩ :=
                ih (fun t ht => hrest t (List.mem_cons_of_mem path ht))
                  (hg.process hfinds (hrest path List.mem_cons_self) hagrows) hlater
              obtain ⟨hsame, hnote⟩ |
                ⟨hout, source, content, functions, hsource, hscans, hne, loc, hloc, hholds, hother⟩ :=
                process_places hg.ordered r path hgoes
              · refine ⟨named, hsub.cons path, (hnote later).trans hwritten, hplaces, ?_⟩
                rw [hsame] at hkept
                exact hkept
              · have hend := locate?_grows hagrows hloc
                have hread : g.readBytes path = .ok content :=
                  readBytes_eq_ok (locate?_eq_some.mpr ⟨_, hsource⟩) (shapeAt_of_entryAt hsource)
                have htests : AreTestsOf fs done r sources path
                    ((withFunctions path functions).render r).toUTF8 :=
                  ⟨content, functions, hg.held path (hrest path List.mem_cons_self) hread, hscans,
                    hne, rfl⟩
                -- a later source keeps these tests or places its own there
                have hlast : ∃ u ∈ path :: named, done.locate? (destination r u) = some loc
                    ∧ HoldsTests fs done r sources done u loc := by
                  rcases hholds with hdevice | hfile
                  · exact ⟨path, List.mem_cons_self, hend, Or.inl (hagrows.device hdevice)⟩
                  · rcases hkept loc _ hfile with hfile | ⟨u, hu, huloc, hutests⟩
                    · exact ⟨path, List.mem_cons_self, hend, Or.inr ⟨_, htests, hfile⟩⟩
                    · exact ⟨u, List.mem_cons_of_mem path hu, huloc, hutests⟩
                refine ⟨path :: named, hsub.cons_cons path, ?_, ?_, ?_⟩
                · rw [hout, List.map_cons, ← hwritten]
                  rfl
                · intro t ht
                  rcases List.mem_cons.mp ht with rfl | ht
                  · obtain ⟨content', hsource'⟩ :=
                      entryAt_file_grows (hgrows.trans hagrows) hsource
                    exact ⟨⟨source, content', hsource'⟩, loc, hend, hlast⟩
                  · obtain ⟨hfile, l, hl, u, hu, hrest⟩ := hplaces t ht
                    exact ⟨hfile, l, hl, u, List.mem_cons_of_mem path hu, hrest⟩
                · intro l old hs
                  by_cases hl : l = loc
                  · exact Or.inr (hl ▸ hlast)
                  · rcases hkept l old (hother l old hl hs) with hfile | ⟨u, hu, hrest⟩
                    · exact Or.inl hfile
                    · exact Or.inr ⟨u, List.mem_cons_of_mem path hu, hrest⟩

end Run

/-! ## §5. Sharing -/

section Shared

variable {fs : FileSystem} (hw : fs.WellFormed) (hfree : fs.LinkFree) {r : RenderSettings}
  {a b : ByteString}
include hw hfree

/-- Two test modules are one exactly if they have one directory and their sources one stem. -/
theorem destinations_meet_iff {la lb : Location} (ha : fs.locate? (destination r a) = some la)
    (hb : fs.locate? (destination r b) = some lb) :
    fs.locate? (destination r a) = fs.locate? (destination r b)
      ↔ Path.stem a = Path.stem b
        ∧ fs.folder? (destination r a) = fs.folder? (destination r b) := by
  have hla := placed_by_name hw hfree ha
  have hlb := placed_by_name hw hfree hb
  rw [folder?_of_locate? ha, folder?_of_locate? hb, ha, hb, ← testName_inj (r := r.unfolded)]
  constructor
  · intro heq
    have heq : la = lb := Option.some.inj heq
    subst heq
    exact ⟨List.singleton_inj.mp (List.append_cancel_left (hla.symm.trans hlb)), rfl⟩
  · rintro ⟨hname, hfolder⟩
    rw [hla, hlb, hname, Option.some.inj hfolder]

variable {sa sb : Location} {ca cb : ByteArray} (hsa : fs.entryAt a = .ok (sa, .file ca))
  (hsb : fs.entryAt b = .ok (sb, .file cb))
include hsa hsb

/-- Where the settings lead down, the directory of a test module tells the directory of its
    source. -/
theorem folders_meet_iff (hr : r.unfolded.LeadsDown) {la lb : Location}
    (ha : fs.locate? (destination r a) = some la) (hb : fs.locate? (destination r b) = some lb) :
    fs.folder? (destination r a) = fs.folder? (destination r b) ↔ fs.folder? a = fs.folder? b := by
  rw [folder?_of_locate? ha, folder?_of_locate? hb, folder?_of_locate? (locate?_eq_some.mpr ⟨_, hsa⟩),
    folder?_of_locate? (locate?_eq_some.mpr ⟨_, hsb⟩), placed_below hw hfree hr hsa ha,
    placed_below hw hfree hr hsb hb]
  simp

/-- Python modules with one stem in one directory are one module. -/
theorem same_file_of_stem (hpa : Path.hasExtension a pythonExtension = true)
    (hpb : Path.hasExtension b pythonExtension = true) (hstem : Path.stemBytes a = Path.stemBytes b)
    (hfolder : fs.folder? a = fs.folder? b) : sa = sb := by
  obtain ⟨na, -, hna, hla, -⟩ := follow_directory hw hfree hsa Shape.noConfusion
  obtain ⟨nb, -, hnb, hlb, -⟩ := follow_directory hw hfree hsb Shape.noConfusion
  rw [folder?_of_locate? (locate?_eq_some.mpr ⟨_, hsa⟩),
    folder?_of_locate? (locate?_eq_some.mpr ⟨_, hsb⟩)] at hfolder
  rw [Path.fileName?_of_hasExtension hpa] at hna
  rw [Path.fileName?_of_hasExtension hpb, ← hstem] at hnb
  rw [hla, hlb, Option.some.inj hfolder, ← Option.some.inj hna, ← Option.some.inj hnb]

end Shared

/-- A path that leads to a file later on was traced to the same place before. -/
theorem Finds.traced?_of_grows {fs after : FileSystem} {t : ByteString} (ht : fs.Finds t)
    (hgrows : Grows fs after) {loc : Location} {content : ByteArray}
    (hfile : after.entryAt t = .ok (loc, .file content)) : fs.traced? t = some loc := by
  obtain ⟨was, old, hfirst⟩ := ht.leads (resolve_eq_follow (entryAt_iff.mp hfile)).1
  obtain ⟨e, hnow⟩ := entryAt_grows hgrows hfirst
  rw [hfile] at hnow
  cases hnow
  exact traced?_of_locate? (locate?_eq_some.mpr ⟨_, hfirst⟩)

/-- **When modules of a batch share a test module**: exactly if their stems are read alike and they have
    one output directory; the tests that are then at that place are those of one of them.  Where the
    settings lead down, the output directory is one exactly if the sources are in one directory, so
    that Python modules that have canonical paths never share, unless different names in that
    directory are read alike: each has tests of its own at the end of the run. -/
theorem generate_separates {fs after : FileSystem} (hw : fs.WellFormed) (hfree : fs.LinkFree)
    {s : Settings} {paths : List ByteString} {report : Report}
    (h : fs.generate s paths = (after, .ok report)) :
    ∃ sources named : List ByteString, fs.collect s.filter paths = .ok sources
      ∧ named.Sublist sources ∧ named.Nodup ∧ report.written = named.map (destination s.render)
      ∧ (∀ t ∈ named, ∃ loc, after.locate? (destination s.render t) = some loc ∧ ∃ u ∈ named,
          after.locate? (destination s.render u) = some loc
            ∧ HoldsTests fs after s.render sources after u loc)
      ∧ (∀ a ∈ named, ∀ b ∈ named,
          (after.locate? (destination s.render a) = after.locate? (destination s.render b)
            ↔ Path.stem a = Path.stem b ∧ after.folder? (destination s.render a)
                = after.folder? (destination s.render b)))
      ∧ (s.render.unfolded.LeadsDown →
          (∀ a ∈ named, ∀ b ∈ named,
            (after.folder? (destination s.render a) = after.folder? (destination s.render b)
              ↔ after.folder? a = after.folder? b))
          ∧ ((∀ t ∈ named, Path.hasExtension t pythonExtension = true
                ∧ fs.isTraceable t = true) →
              (∀ a ∈ named, ∀ b ∈ named, after.folder? a = after.folder? b →
                ¬ Path.ReadAlike a b) →
            report.written.Pairwise (fun p q => after.locate? p ≠ after.locate? q)
            ∧ ∀ t ∈ named, ∃ loc, after.locate? (destination s.render t) = some loc
              ∧ HoldsTests fs after s.render sources after t loc)) := by
  obtain ⟨sources, hcollect, hrun⟩ := generate_eq_ok h
  have hfinds : ∀ t ∈ sources, fs.Finds t := fun t ht => finds_of_mem_collect hcollect hw ht
  have hstart : Underway fs after s.render sources fs :=
    ⟨hw, hfree, Grows.refl fs, fun _ _ _ hread => .own hread⟩
  obtain ⟨haw, hafree, hgrows⟩ := processAll_grows hw hfree hrun
  obtain ⟨named, hsub, hwritten, hplaces, -⟩ :=
    processAll_places hfinds (fun _ ht => ht) hstart hrun
  have hnodup := (nodup_collect hcollect).sublist hsub
  refine ⟨sources, named, hcollect, hsub, hnodup, hwritten, fun t ht => (hplaces t ht).2, ?_, ?_⟩
  · intro a ha b hb
    obtain ⟨-, la, hla, -⟩ := hplaces a ha
    obtain ⟨-, lb, hlb, -⟩ := hplaces b hb
    exact destinations_meet_iff haw hafree hla hlb
  · intro hr
    have hfolders : ∀ a ∈ named, ∀ b ∈ named,
        (after.folder? (destination s.render a) = after.folder? (destination s.render b)
          ↔ after.folder? a = after.folder? b) := by
      intro a ha b hb
      obtain ⟨⟨sa, ca, hsa⟩, la, hla, -⟩ := hplaces a ha
      obtain ⟨⟨sb, cb, hsb⟩, lb, hlb, -⟩ := hplaces b hb
      exact folders_meet_iff haw hafree hsa hsb hr hla hlb
    refine ⟨hfolders, ?_⟩
    intro hpy hread
    -- one place means one stem and one directory, and a Python module is known by these
    have hapart : ∀ a ∈ named, ∀ b ∈ named,
        after.locate? (destination s.render a) = after.locate? (destination s.render b) → a = b := by
      intro a ha b hb hmeet
      obtain ⟨⟨sa, ca, hsa⟩, la, hla, -⟩ := hplaces a ha
      obtain ⟨⟨sb, cb, hsb⟩, lb, hlb, -⟩ := hplaces b hb
      obtain ⟨hstem, hmeets⟩ := (destinations_meet_iff haw hafree hla hlb).mp hmeet
      have hfolder := (hfolders a ha b hb).mp hmeets
      have hsame : sa = sb := same_file_of_stem haw hafree hsa hsb (hpy a ha).1 (hpy b hb).1
        (Path.stemBytes_eq_of_stem hstem (hread a ha b hb hfolder)) hfolder
      subst hsame
      have hwas : ∀ t ∈ named, ∀ {content}, after.entryAt t = .ok (sa, .file content) →
          fs.canonical? t = some sa.path := fun t ht _ hfile =>
        canonical?_of_traced? ((hfinds t (hsub.subset ht)).traced?_of_grows hgrows hfile) (hpy t ht).2
      exact eq_of_canonical_collect hcollect (hsub.subset ha) (hsub.subset hb) (hwas a ha hsa)
        (hwas b hb hsb)
    refine ⟨?_, ?_⟩
    · rw [hwritten, List.pairwise_map]
      exact hnodup.imp_of_mem fun ha hb hne hmeet => hne (hapart _ ha _ hb hmeet)
    · intro t ht
      obtain ⟨-, loc, hloc, u, hu, huloc, hutests⟩ := hplaces t ht
      have hself : u = t := hapart u hu t ht (huloc.trans hloc.symm)
      exact ⟨loc, hloc, hself ▸ hutests⟩

/-- Two modules of one name. -/
def twins : FileSystem :=
  { top := [("a", .directory [("x.py", .file "def f():\n  pass\n".toUTF8)]),
      ("b", .directory [("x.py", .file "def g():\n  pass\n".toUTF8)])] }

/-- Settings that put all tests into one directory beside the modules. -/
def together : Settings :=
  { render := { outputDir := "../out" } }

theorem twins_wellFormed : twins.WellFormed :=
  ⟨by decide +kernel, by decide +kernel⟩

theorem twins_linkFree : twins.LinkFree :=
  linkFree_of_entries (by decide +kernel)

theorem twins_generates (s : Settings) {report : Report}
    (h : (twins.generate s ["a", "b"]).2.toOption = some report) :
    twins.generate s ["a", "b"] = ((twins.generate s ["a", "b"]).1, .ok report) :=
  generate_of_report h

/-- With the default settings each of the two modules has tests of its own. -/
theorem generate_separates_twins :
    twins.WellFormed ∧ twins.LinkFree ∧ ({} : RenderSettings).unfolded.LeadsDown
      ∧ ∃ after report, ∃ named : List ByteString, twins.generate {} ["a", "b"] = (after, .ok report)
        ∧ report.written = named.map (destination {})
        ∧ ∀ t ∈ named, ∃ loc, after.locate? (destination {} t) = some loc
          ∧ HoldsTests twins after {} ["a/x.py", "b/x.py"] after t loc := by
  have hsome : (twins.generate {} ["a", "b"]).2.toOption.isSome = true := by decide +kernel
  obtain ⟨report, hreport⟩ := Option.isSome_iff_exists.mp hsome
  have hrun := twins_generates {} hreport
  have hdown : ({} : RenderSettings).unfolded.LeadsDown :=
    ⟨by decide +kernel, by decide +kernel, by decide +kernel⟩
  obtain ⟨sources, named, hcollect, hsub, -, hwritten, -, -, hapart⟩ :=
    generate_separates twins_wellFormed twins_linkFree hrun
  have hsources : sources = ["a/x.py", "b/x.py"] := by
    have heq : (twins.collect {} ["a", "b"]).toOption = some (["a/x.py", "b/x.py"] : List ByteString) := by
      decide +kernel
    rw [hcollect] at heq
    exact Option.some.inj heq
  subst hsources
  have hboth : ∀ t ∈ (["a/x.py", "b/x.py"] : List ByteString),
      Path.hasExtension t pythonExtension = true ∧ twins.isTraceable t = true := by
    decide +kernel
  have hread : ∀ a ∈ (["a/x.py", "b/x.py"] : List ByteString),
      ∀ b ∈ (["a/x.py", "b/x.py"] : List ByteString), ¬ Path.ReadAlike a b := by
    decide +kernel
  exact ⟨twins_wellFormed, twins_linkFree, hdown, _, report, named, hrun, hwritten,
    ((hapart hdown).2 (fun t ht => hboth t (hsub.subset ht))
      fun a ha b hb _ => hread a (hsub.subset ha) b (hsub.subset hb)).2⟩

/-- **Modules do share a test module**: with an output directory beside the modules the second one takes
    the place of the first, and so it does with the default settings where names are read alike. -/
theorem generate_shares_output :
    (latin.WellFormed ∧ latin.LinkFree
        ∧ ∃ after report, latin.generate {} [graveName, acuteName] = (after, .ok report)
          ∧ report.written = ["tests/test_\uFFFD.py", "tests/test_\uFFFD.py"])
      ∧ twins.WellFormed ∧ twins.LinkFree
      ∧ ∃ report, twins.generate together ["a", "b"]
          = ((twins.generate together ["a", "b"]).1, .ok report)
        ∧ report.written = ["a/../out/test_x.py", "b/../out/test_x.py"]
        ∧ (twins.generate together ["a", "b"]).1.locate? "a/../out/test_x.py"
            = some (["out", "test_x.py"] : Location)
        ∧ (twins.generate together ["a", "b"]).1.locate? "b/../out/test_x.py"
            = some (["out", "test_x.py"] : Location) := by
  refine ⟨⟨latin_wellFormed, latin_linkFree, latin_generates⟩, ?_⟩
  have hsome : ((twins.generate together ["a", "b"]).2.toOption.map Report.written)
      = some (["a/../out/test_x.py", "b/../out/test_x.py"] : List ByteString) := by decide +kernel
  obtain ⟨report, hreport, hwritten⟩ := Option.map_eq_some_iff.mp hsome
  exact ⟨twins_wellFormed, twins_linkFree, report, twins_generates together hreport, hwritten,
    by decide +kernel, by decide +kernel⟩

end FileSystem

end TestScaffold
