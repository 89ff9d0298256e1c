/-
  TestScaffold.Proofs.Batch.Placement — where test modules are placed.

  The destination of a test module is spelled from the path of its source.  Without links
  its place can be told from the place of the source:

    * `steps_destination` — the steps to the directory of the source, those of the output
      directory, and the name of the test module;
    * `resolve_destination` — so the test module stands below the directory of its source;
    * `createDirectories_child` — and making its directory makes that one directory only.
-/
import TestScaffold.Proofs.Batch.Step
import TestScaffold.Proofs.Path.FileName

namespace TestScaffold

open Text

/-! ## §1. Settings that place tests below their sources -/

/-- Test modules stay below the directories of their sources: the output directory is `.` or names
    separated by slashes, and the module prefix is part of a name. -/
structure RenderSettings.StaysBelow (r : RenderSettings) : Prop where
  /-- The output directory is `.` or a sequence of ordinary names. -/
  outward : r.outputDir = "."
    ∨ ∀ s ∈ splitSep slash (r.outputDir : ByteString).toList, Path.isOrdinary (.ofList s) = true
  /-- The module prefix has no slash. -/
  unslashed : '/' ∉ r.modulePrefix.toList

/-- Test modules stand below the directories of their sources: the output directory does not start
    at the root and does not go up, and the module prefix is part of a name. -/
structure RenderSettings.LeadsDown (r : RenderSettings) : Prop where
  /-- The output directory is seen from the source. -/
  relative : Path.isAbsolute r.outputDir = false
  /-- It does not go up. -/
  downward : .parent ∉ Path.components r.outputDir
  /-- The module prefix has no slash. -/
  unslashed : '/' ∉ r.modulePrefix.toList

namespace RenderSettings.LeadsDown

variable {r : RenderSettings} (hr : r.LeadsDown)
include hr

theorem head?_outputDir : (r.outputDir : ByteString).toList.head? ≠ some slash := by
  have hrel := hr.relative
  unfold Path.isAbsolute at hrel
  simpa using hrel

theorem up_not_mem_outputDir : .up ∉ Route.spelled (r.outputDir : ByteString).toList :=
  Path.up_not_mem_spelled hr.downward

end RenderSettings.LeadsDown

/-- Names separated by slashes neither start at the root nor go up. -/
theorem RenderSettings.StaysBelow.leadsDown {r : RenderSettings} (hr : r.StaysBelow) :
    r.LeadsDown := by
  rcases hr.outward with h | h
  · refine ⟨?_, ?_, hr.unslashed⟩
    · rw [h]
      decide
    · rw [h]
      decide
  · have hup : .up ∉ Route.spelled (r.outputDir : ByteString).toList := by
      intro hmem
      obtain ⟨s, hs, hstep⟩ := List.mem_map.mp hmem
      have hord := Route.stepOf_ordinary (h s (List.mem_filter.mp hs).1)
      rw [ByteString.toList_ofList, hstep] at hord
      cases hord
    refine ⟨?_, Path.parent_not_mem_components hup, hr.unslashed⟩
    unfold Path.isAbsolute
    cases hcs : (r.outputDir : ByteString).toList with
    | nil => rfl
    | cons c cs =>
        rw [hcs] at h
        by_cases hc : c = slash
        · -- a slash in front leaves an empty name before it
          subst hc
          have hnil := h [] (by rw [splitSep_cons_sep]; exact List.mem_cons_self)
          exact absurd hnil (by decide)
        · simpa using hc

/-! ## §2. Spelling the destination -/

namespace Path

theorem slash_not_mem_stemBytes (path : ByteString) : slash ∉ (stemBytes path).toList := by
  unfold stemBytes
  split
  · rename_i n hn
    obtain ⟨A, T₁, T₂, hsplit, -, -, -, -, -, -⟩ := fileNameBytes?_split hn
    have hmem : n ∈ splitSep slash (parts path.toList).body := by
      rw [hsplit]
      simp
    have hslash := not_mem_of_mem_splitSep hmem
    rw [ByteString.toList_ofList]
    unfold cutExtension
    simp only
    split
    · exact hslash
    · exact fun hmem => hslash (List.mem_of_mem_take hmem)
  · simp

theorem slash_not_mem_stem (path : ByteString) : slash ∉ (stem path : ByteString).toList :=
  fun h => slash_not_mem_stemBytes path
    (ByteString.slash_mem_of_text (ByteString.slash_mem_of_ofText h))

end Path

namespace SourceModule

/-- The name of the test module of the module at a path. -/
def testName (r : RenderSettings) (path : ByteString) : ByteString :=
  .ofText (r.modulePrefix ++ (Path.stem path ++ "." ++ pythonExtension))

/-- The prefix and the extension do not change what is read of the stem. -/
theorem testName_inj {r : RenderSettings} {a b : ByteString} :
    testName r a = testName r b ↔ Path.stem a = Path.stem b := by
  constructor
  · intro h
    have hchars := congrArg String.toList (ByteString.ofText_injective h)
    simp only [String.toList_append] at hchars
    have hstems := List.append_cancel_left hchars
    exact String.toList_inj.mp (List.append_cancel_right (List.append_cancel_right hstems))
  · intro h
    rw [testName, testName, h]

theorem isOrdinary_testName {r : RenderSettings} (hr : '/' ∉ r.modulePrefix.toList)
    (path : ByteString) : Path.isOrdinary (testName r path) = true := by
  have hbytes : (testName r path).toList = (r.modulePrefix : ByteString).toList
      ++ (Path.stem path : ByteString).toList ++ dot :: (pythonExtension : ByteString).toList := by
    simp [testName, ByteString.ofText_append]
  have hslash : slash ∉ (r.modulePrefix : ByteString).toList :=
    fun h => hr (ByteString.slash_mem_of_ofText h)
  -- the extension alone makes it longer than `.` and `..`
  have hlen : 3 ≤ (testName r path).toList.length := by
    rw [hbytes, List.length_append]
    exact Nat.le_add_left 3 _
  refine Path.isOrdinary_iff.mpr ⟨?_, ?_, ?_, ?_⟩
  · exact List.ne_nil_of_length_pos (Nat.lt_of_lt_of_le (by decide) hlen)
  · rw [hbytes]
    have hext : slash ∉ (pythonExtension : ByteString).toList := by decide
    simp [hslash, Path.slash_not_mem_stem path, hext]
  · intro heq
    rw [heq] at hlen
    exact absurd hlen (by decide)
  · intro heq
    rw [heq] at hlen
    exact absurd hlen (by decide)

/-- The name that a source is assumed to have, which is that of its tests without a prefix. -/
theorem isOrdinary_fileName (path : ByteString) :
    Path.isOrdinary (.ofText (Path.stem path ++ "." ++ pythonExtension)) = true := by
  have hord := isOrdinary_testName (r := { modulePrefix := "" }) (by decide) path
  rwa [testName, String.empty_append] at hord

variable {r : RenderSettings} (hr : r.LeadsDown)
include hr

/-- **The steps to a test module**: to the directory of the source, to the output directory, and
    down to the name. -/
theorem steps_destination (path : ByteString) :
    (Route.ofPath (destination r path)).steps
      = Route.spelled (Path.directory path).toList
        ++ (Route.spelled (r.outputDir : ByteString).toList ++ [.down (testName r path)]) := by
  show (Route.ofPath (Path.join (Path.join (Path.directory path) r.outputDir)
    (testName r path))).steps = _
  rw [Path.steps_join (isOrdinary_testName hr.unslashed path), Path.toList_join,
    Path.spelled_join hr.head?_outputDir, List.append_assoc]

theorem fromRoot_destination {path name : ByteString} (hname : Path.fileName? path = some name) :
    (Route.ofPath (destination r path)).fromRoot = (Route.ofPath path).fromRoot := by
  obtain ⟨-, -, -, -, hroot, -⟩ := Path.steps_of_fileName hname
  show (Route.ofPath (Path.join (Path.join (Path.directory path) r.outputDir)
    (testName r path))).fromRoot = _
  rw [Path.fromRoot_join (isOrdinary_testName hr.unslashed path), Route.ofPath_fromRoot,
    Path.toList_join, Path.head?_join hr.head?_outputDir, hroot]

end SourceModule

/-! ## §3. The place of a test module -/

namespace FileSystem

open SourceModule

/-- The location of the test module of the module at a path, from the location of that module. -/
def testLocation (r : RenderSettings) (path : ByteString) (loc : Location) : Location :=
  loc.dropLast ++ (Path.names r.outputDir ++ [testName r path])

theorem start_directory {fs : FileSystem} {path name : ByteString}
    (hname : Path.fileName? path = some name) :
    fs.start (Route.ofPath (Path.directory path)) = fs.start (Route.ofPath path) := by
  obtain ⟨-, -, -, -, hroot, -⟩ := Path.steps_of_fileName hname
  unfold start
  rw [hroot]
  rfl

theorem start_destination {fs : FileSystem} {r : RenderSettings} (hr : r.LeadsDown)
    {path name : ByteString} (hname : Path.fileName? path = some name) :
    fs.start (Route.ofPath (destination r path)) = fs.start (Route.ofPath path) := by
  unfold start
  rw [fromRoot_destination hr hname]

section Places

variable {fs : FileSystem} (hw : fs.WellFormed) (hfree : fs.LinkFree)
include hw hfree

/-- Without links the directory of a file, as spelled, leads to the directory that it is in. -/
theorem follow_directory {path : ByteString} {loc : Location} {e : Entry}
    (h : fs.entryAt path = .ok (loc, e)) (he : e.shape ≠ .directory) :
    ∃ name es, Path.fileName? path = some name ∧ loc = loc.dropLast ++ [name]
      ∧ fs.follow 0 (fs.start (Route.ofPath path)) (Route.spelled (Path.directory path).toList)
          = .ok (.found loc.dropLast (.directory es)) := by
  obtain ⟨name, hname⟩ := fileName?_of_entryAt hw h he
  have hf := follow_from_directory hname h he
  rw [follow_linkFree hfree] at hf
  obtain ⟨d, es, hd, hlast⟩ := follow_split hfree (hw.start _) (by simp) hf
  have hloc : loc = d ++ [name] := follow_downward hfree (by simp) hlast
  refine ⟨name, es, hname, ?_, ?_⟩
  · rw [hloc, List.dropLast_concat]
  · rw [hloc, List.dropLast_concat]
    exact hd

/-- So does that directory as a path of its own. -/
theorem follow_own_directory {path : ByteString} {loc : Location} {e : Entry}
    (h : fs.entryAt path = .ok (loc, e)) (he : e.shape ≠ .directory) :
    ∃ es, fs.follow 0 (fs.start (Route.ofPath (Path.directory path)))
        (Route.spelled (Path.directory path).toList) = .ok (.found loc.dropLast (.directory es)) := by
  obtain ⟨name, es, hname, -, hd⟩ := follow_directory hw hfree h he
  rw [← start_directory hname] at hd
  exact ⟨es, hd⟩

/-- **A test module stands below the directory of its source.** -/
theorem resolve_destination {r : RenderSettings} (hr : r.LeadsDown) {path : ByteString}
    {loc : Location} {e : Entry} (h : fs.entryAt path = .ok (loc, e)) (he : e.shape ≠ .directory)
    {target : Target} (ht : fs.resolve (destination r path) = .ok target) :
    target.location = testLocation r path loc := by
  obtain ⟨name, es, hname, -, hd⟩ := follow_directory hw hfree h he
  obtain ⟨-, hf⟩ := resolve_eq_follow ht
  rw [start_destination hr hname, follow_linkFree hfree, steps_destination hr,
    follow_append hfree hd] at hf
  -- from the directory of the source the way only goes down
  have hup : Step.up ∉ Route.spelled (r.outputDir : ByteString).toList ++ [.down (testName r path)] := by
    simpa using hr.up_not_mem_outputDir
  rw [follow_downward hfree hup hf, List.filterMap_append, testLocation]
  rfl

/-- Where something stands at the place of a test module, the destination leads there. -/
theorem locate?_destination {r : RenderSettings} (hr : r.LeadsDown) {path : ByteString}
    {loc : Location} {e : Entry} (h : fs.entryAt path = .ok (loc, e)) (he : e.shape ≠ .directory)
    {route' : Route} (hroute : route (destination r path) = .ok route') {s : Shape}
    (hs : fs.shapeAt (testLocation r path loc) = some s) :
    fs.locate? (destination r path) = some (testLocation r path loc) := by
  obtain ⟨name, es, hname, -, hd⟩ := follow_directory hw hfree h he
  obtain ⟨f, hf, -⟩ := find?_of_shapeAt hs
  -- what stands somewhere has names short enough to be looked up
  have hlen : ∀ m, .down m ∈ Route.spelled (r.outputDir : ByteString).toList ++ [.down (testName r path)] →
      m.size ≤ maxNameBytes := by
    intro m hm
    refine (validName_iff.mp (Entries.validName_of_shapeAt hw.ordered hs m ?_)).2
    refine List.mem_append_right _ ?_
    rcases List.mem_append.mp hm with hm | hm
    · exact List.mem_append_left _ (Path.mem_names.mpr hm)
    · cases List.mem_singleton.mp hm
      exact List.mem_append_right _ List.mem_cons_self
  rw [route_eq hroute] at hroute
  refine locate?_eq_some.mpr ⟨f, entryAt_iff.mpr ?_⟩
  rw [resolve_of_route hroute, start_destination hr hname, follow_linkFree hfree,
    steps_destination hr, follow_append hfree hd]
  exact follow_to_name hfree hr.up_not_mem_outputDir hlen hf

end Places

/-! ## §4. Making the directory of a test module -/

theorem ancestors_eq_cons (path : ByteString) :
    ∃ above, Path.ancestors path = path :: above := by
  unfold Path.ancestors
  cases path.size with
  | zero => exact ⟨[], by rw [Path.ancestorsFrom, ByteString.ofList_toList]⟩
  | succ n => exact ⟨_, by rw [Path.ancestorsFrom, ByteString.ofList_toList]⟩

theorem isEmpty_join {outer dir : ByteString} (hdir : Path.isOrdinary dir = true) :
    (Path.join outer dir).isEmpty = false := by
  cases hempty : (Path.join outer dir).isEmpty with
  | false => rfl
  | true =>
      have hnil : Path.join outer dir = "" := by simpa using hempty
      have hne : (Path.join outer dir).toList ≠ [] := Path.join_ne_nil hdir
      exact absurd (by rw [hnil]; rfl) hne

theorem start_join {fs : FileSystem} {outer dir : ByteString} (hdir : Path.isOrdinary dir = true) :
    fs.start (Route.ofPath (Path.join outer dir)) = fs.start (Route.ofPath outer) := by
  unfold start
  rw [Path.fromRoot_join hdir]

section Child

variable {fs : FileSystem} (hw : fs.WellFormed) (hfree : fs.LinkFree) {outer dir : ByteString}
  (hdir : Path.isOrdinary dir = true) {loc : Location} {es : Entries}
  (hd : fs.follow 0 (fs.start (Route.ofPath outer)) (Route.spelled outer.toList)
    = .ok (.found loc (.directory es)))
include hfree hdir hd

/-- Making a directory by its name in a directory that is there. -/
theorem makeDirectory_child {route' : Route} (hroute : route (Path.join outer dir) = .ok route') :
    fs.makeDirectory (Path.join outer dir)
      = if maxNameBytes < dir.size then .error .nameTooLong
        else if (fs.find? (loc ++ [dir])).isSome then .error .alreadyExists
        else .ok (fs.set (loc ++ [dir]) (.directory [])) := by
  rw [route_eq hroute] at hroute
  have hf : fs.follow maxLinks (fs.start (Route.ofPath (Path.join outer dir)))
      (Route.spelled outer.toList) = .ok (.found loc (.directory es)) := by
    rw [start_join hdir, follow_linkFree hfree, hd]
  exact makeDirectory_of_route hroute (Path.steps_join hdir) hf

/-- Nothing above the directory is missing. -/
theorem makeDirectory_child_ne :
    fs.makeDirectory (Path.join outer dir) ≠ .error .noEntry := by
  intro hmake
  cases hroute : route (Path.join outer dir) with
  | ok route' =>
      rw [makeDirectory_child hfree hdir hd hroute] at hmake
      split at hmake
      · cases hmake
      · split at hmake <;> cases hmake
  | error fault =>
      -- of the paths that are not looked at, only the empty one has no entry
      have hfault : fault = .noEntry := by
        unfold makeDirectory at hmake
        rw [hroute] at hmake
        exact Except.error.inj hmake
      unfold route at hroute
      rw [isEmpty_join hdir, hfault, if_neg (by simp : ¬ false = true)] at hroute
      split at hroute
      · cases hroute
      · split at hroute <;> cases hroute

/-- Where the path leads to a directory, the directory is there. -/
theorem shapeAt_child_of_isDirectory (h : fs.isDirectory (Path.join outer dir) = true) :
    fs.shapeAt (loc ++ [dir]) = some .directory := by
  unfold isDirectory at h
  split at h
  · rename_i l inner hentry
    obtain ⟨hroute, hf⟩ := resolve_eq_follow (entryAt_iff.mp hentry)
    rw [start_join hdir, follow_linkFree hfree, Path.steps_join hdir, follow_append hfree hd] at hf
    have hl : l = loc ++ [dir] := follow_downward hfree (by simp) hf
    rw [← hl]
    exact shapeAt_of_entryAt hentry
  · cases h

/-- **Making the directory of a test module** makes that one directory, or finds it. -/
theorem createDirectories_child {made : FileSystem}
    (h : fs.createDirectories (Path.join outer dir) = (made, .ok ())) (l : Location) :
    made.shapeAt l = if l = loc ++ [dir] then some .directory else fs.shapeAt l := by
  have hloc : fs.shapeAt loc = some .directory := shapeAt_of_find? (follow_found hd)
  obtain ⟨above, habove⟩ := ancestors_eq_cons (Path.join outer dir)
  unfold createDirectories at h
  rw [habove, createFirst, isEmpty_join hdir, if_neg (by simp)] at h
  -- the first directory that is tried is made, or it is there already
  split at h
  · rename_i new hnew
    cases h
    obtain ⟨route', hroute⟩ : ∃ route', route (Path.join outer dir) = .ok route' := by
      obtain ⟨-, -, -, -, hroute, -⟩ := makeDirectory_cases hnew
      exact ⟨_, hroute⟩
    rw [makeDirectory_child hfree hdir hd hroute] at hnew
    split at hnew
    · cases hnew
    · split at hnew
      · cases hnew
      · rename_i hfind
        cases hnew
        have hnone : fs.shapeAt (loc ++ [dir]) = none :=
          find?_eq_none_iff.mp (by simpa using hfind)
        rw [shapeAt_set rfl (by rw [hnone]; simp), List.dropLast_concat]
        simp [hloc, Entry.shape]
  · rename_i hnone
    exact absurd hnone (makeDirectory_child_ne hfree hdir hd)
  · split at h
    · rename_i hisdir
      cases h
      have hs := shapeAt_child_of_isDirectory hfree hdir hd hisdir
      split
      · rename_i heq
        rw [heq, hs]
      · rfl
    · cases h

include hw

/-- What stands under the name is what the path leads to. -/
theorem entryAt_child {route' : Route} (hroute : route (Path.join outer dir) = .ok route')
    {e : Entry} (he : fs.find? (loc ++ [dir]) = some e) :
    fs.entryAt (Path.join outer dir) = .ok (loc ++ [dir], e) := by
  rw [route_eq hroute] at hroute
  have hvalid := Entries.validName_of_shapeAt hw.ordered (shapeAt_of_find? he) dir (by simp)
  have hlen := (validName_iff.mp hvalid).2
  refine entryAt_iff.mpr ?_
  rw [resolve_of_route hroute, start_join hdir, follow_linkFree hfree, Path.steps_join hdir,
    follow_append hfree hd]
  exact follow_to_name hfree List.not_mem_nil (by simpa using hlen) he

/-- A directory that is there already is left alone. -/
theorem createDirectories_existing {route' : Route}
    (hroute : route (Path.join outer dir) = .ok route')
    (hs : fs.shapeAt (loc ++ [dir]) = some .directory) :
    fs.createDirectories (Path.join outer dir) = (fs, .ok ()) := by
  obtain ⟨above, habove⟩ := ancestors_eq_cons (Path.join outer dir)
  have hlen := (validName_iff.mp (Entries.validName_of_shapeAt hw.ordered hs dir (by simp))).2
  obtain ⟨f, hf, hshape⟩ := find?_of_shapeAt hs
  -- making it fails, and then it is enough that a directory is there
  have hmake : fs.makeDirectory (Path.join outer dir) = .error .alreadyExists := by
    rw [makeDirectory_child hfree hdir hd hroute, if_neg (Nat.not_lt.mpr hlen), hf]
    rfl
  have hisdir : fs.isDirectory (Path.join outer dir) = true := by
    unfold isDirectory
    rw [entryAt_child hw hfree hdir hd hroute hf]
    cases f with
    | directory inner => rfl
    | _ => cases hshape
  unfold createDirectories
  rw [habove, createFirst, isEmpty_join hdir, hmake, hisdir]
  rfl

end Child

/-! ## §5. Names that are read alike -/

/-- A file name in Latin-1, `è.py`. -/
def graveName : ByteString := .ofList [0xE8, 0x2E, 0x70, 0x79]

/-- A file name in Latin-1, `é.py`. -/
def acuteName : ByteString := .ofList [0xE9, 0x2E, 0x70, 0x79]

/-- Two modules in one directory whose names are no texts in UTF-8 and are read alike. -/
def latin : FileSystem :=
  { top := [(graveName, .file "def f():\n  pass\n".toUTF8),
      (acuteName, .file "def g():\n  pass\n".toUTF8)] }

theorem latin_wellFormed : latin.WellFormed :=
  ⟨by decide +kernel, by decide +kernel⟩

theorem latin_linkFree : latin.LinkFree :=
  linkFree_of_entries (by decide +kernel)

/-- They have one test module, which is written twice. -/
theorem latin_generates :
    ∃ after report, latin.generate {} [graveName, acuteName] = (after, .ok report)
      ∧ report.written = ["tests/test_\uFFFD.py", "tests/test_\uFFFD.py"] := by
  have hwritten : (latin.generate {} [graveName, acuteName]).2.toOption.map Report.written
      = some (["tests/test_\uFFFD.py", "tests/test_\uFFFD.py"] : List ByteString) := by
    decide +kernel
  obtain ⟨report, hreport, hwritten⟩ := Option.map_eq_some_iff.mp hwritten
  exact ⟨_, report, generate_of_report hreport, hwritten⟩

end FileSystem

end TestScaffold
