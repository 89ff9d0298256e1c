/-
  TestScaffold.Proofs.Batch.SourcePath — the path under which a source is compared with its tests.

  A scanned module does not keep the path that it was read from.  It keeps the directory and a
  file name, the latter made of the stem, read as a text, and the Python extension, and the path
  of the source is put together from the two again:

    * `components_assumedPath_iff` — that is the path of the source exactly if the source has the
      Python extension and its file name is a text;
    * `identity_assumedPath` — then both have one identity, although they may be spelled differently;
    * `writeTests_refused_iff` — the tests are refused for that identity and for nothing else;
    * `sourcePath_exact` — so a listed file is compared itself, and a file that is named by the user
      and has no Python extension is compared under another name;
    * `sourcePath_misread` — as is a listed file whose name is no text.
-/
import TestScaffold.Proofs.Batch.Placement
import TestScaffold.Proofs.Batch.SourceGuard
import TestScaffold.Proofs.Discovery.Sources
import TestScaffold.Proofs.Path.FileName

namespace TestScaffold

/-! ## §1. The path that is put together -/

namespace SourceModule

/-- **The assumed path is the path of the source** exactly if the source has the Python extension and
    its file name is a text. -/
theorem components_assumedPath_iff {path own : ByteString} (h : Path.fileName? path = some own) :
    Path.components (assumedPath path) = Path.components path
      ↔ Path.hasExtension path pythonExtension = true ∧ own.isText = true := by
  rw [assumedPath_eq, Path.components_directory_join_iff h (isOrdinary_fileName path),
    Path.fileName_iff_readable h]

theorem fileName?_assumedPath (path : ByteString) :
    Path.fileName? (assumedPath path)
      = some (.ofText (Path.stem path ++ "." ++ pythonExtension)) :=
  Path.fileName?_of_steps (Path.steps_join (isOrdinary_fileName path))

end SourceModule

namespace FileSystem

open SourceModule

/-! ## §2. What is compared -/

section Compared

variable {fs : FileSystem} {path : ByteString} {m : SourceModule}

/-- What was scanned is no directory. -/
theorem entryAt_of_scanFile (h : fs.scanFile path = .ok m) :
    ∃ loc e, fs.entryAt path = .ok (loc, e) ∧ e.shape ≠ .directory := by
  obtain ⟨content, -, hread, -⟩ := scanFile_ok h
  obtain ⟨loc, hloc, hshape⟩ := locate?_of_readBytes hread
  obtain ⟨e, he⟩ := locate?_eq_some.mp hloc
  refine ⟨loc, e, he, ?_⟩
  have hthere := shapeAt_of_entryAt he
  intro hdir
  rw [hdir] at hthere
  rcases hshape with hfile | ⟨hdevice, -⟩
  · rw [hthere] at hfile
    cases hfile
  · rw [hthere] at hdevice
    cases hdevice

/-- Steps that stay before the last name are no stops, so both paths are traced alike. -/
theorem canonical?_assumedPath (h : fs.scanFile path = .ok m)
    (hname : KeepsName path) : fs.canonical? (assumedPath path) = fs.canonical? path := by
  obtain ⟨loc, e, he, hfile⟩ := entryAt_of_scanFile h
  have hord := isOrdinary_fileName path
  have htraced : fs.traced? (assumedPath path) = fs.traced? path := by
    rw [traced?_of_locate? (locate?_assumedPath he hfile hname),
      traced?_of_locate? (locate?_eq_some.mpr ⟨e, he⟩)]
  have hstops : fs.stops maxLinks (fs.start (Route.ofPath (assumedPath path)))
        (Route.ofPath (assumedPath path)).steps
      = fs.stops maxLinks (fs.start (Route.ofPath path)) (Route.ofPath path).steps := by
    obtain ⟨-, -, -, -, hroot, -⟩ := Path.steps_of_fileName hname
    have hstart : fs.start (Route.ofPath (assumedPath path)) = fs.start (Route.ofPath path) := by
      unfold start
      rw [assumedPath_eq, Path.fromRoot_join hord, hroot]
      rfl
    obtain ⟨i, hsteps⟩ := steps_of_entryAt hname he hfile
    rw [hstart, hsteps, stops_drop_heres (List.cons_ne_nil _ _), assumedPath_eq,
      Path.steps_join hord]
    rfl
  have htraceable : fs.isTraceable (assumedPath path) = fs.isTraceable path := by
    simp only [isTraceable, hstops]
  unfold canonical?
  rw [htraced, htraceable]

/-- **A source whose name is kept has the identity of its assumed path**, at any time when it can be
    scanned. -/
theorem identity_assumedPath (h : fs.scanFile path = .ok m) (hname : KeepsName path) :
    fs.identity (assumedPath path) = fs.identity path := by
  have hcomponents := (components_assumedPath_iff hname).mpr ((keepsName_iff hname).mp hname)
  have hclean : Path.clean (assumedPath path) = Path.clean path := by
    rw [Path.clean, Path.clean, hcomponents]
  rw [identity, identity, canonical?_assumedPath h hname, hclean]

/-- **Tests are refused for their identity** and for nothing else. -/
theorem writeTests_refused_iff (fs : FileSystem) (m : SourceModule) (r : RenderSettings) :
    (fs.writeTests m r).2 = .error (.overwritesSource m.sourcePath)
      ↔ fs.identity (m.outputPath r) = fs.identity m.sourcePath := by
  unfold writeTests
  dsimp only
  by_cases hid : fs.identity (m.outputPath r) = fs.identity m.sourcePath
  · rw [if_pos hid]
    exact iff_of_true rfl hid
  · rw [if_neg hid]
    refine iff_of_false ?_ hid
    -- what fails later says so
    split
    · simp
    · split
      · simp
      · split <;> simp

end Compared

/-- Every listed file has the extension. -/
theorem hasExtension_of_mem_filesBelow {fs : FileSystem} (hw : fs.WellFormed)
    {extension : String} {root path : ByteString} {files : List ByteString}
    (h : fs.filesBelow extension root = .ok files) (hmem : path ∈ files) :
    Path.hasExtension path extension = true := by
  unfold filesBelow at h
  split at h
  · rename_i loc es heq
    have hes := hw.below (entryAt_found heq)
    split at h
    · rename_i listed hlisted
      cases h
      rw [((filesIn_eq_ok_iff hes).mp hlisted).2] at hmem
      obtain ⟨-, -, -, -, -, hext⟩ := mem_listing es hes hmem
      exact hext
    · cases h
  · cases h
    cases hmem

/-! ## §3. Listed files and named files -/

/-- **The path under which a source is compared with its tests.**  Put together from the directory and
    the file name of the module, it has the components of the path of the source exactly if the
    source has the Python extension and its file name is a text, and every module that is scanned
    there is compared under it.  So a listed file whose name is a text is compared itself: its tests
    are refused exactly if their path has the identity of that file.  A file that has another
    extension, or none, or whose name is no text, is compared under a name that is not its own. -/
theorem sourcePath_exact (path : ByteString) :
    (∀ own, Path.fileName? path = some own →
        (Path.components (Path.join (ofPath path).baseDir (ofPath path).fileName)
            = Path.components path
          ↔ Path.hasExtension path pythonExtension = true ∧ own.isText = true))
      ∧ (∀ (fs : FileSystem) m, fs.scanFile path = .ok m →
          m.sourcePath = Path.join (ofPath path).baseDir (ofPath path).fileName)
      ∧ (∀ (fs : FileSystem) root files, fs.WellFormed →
          fs.filesBelow pythonExtension root = .ok files → path ∈ files →
          ∀ own, Path.fileName? path = some own → own.isText = true →
          Path.components (ofPath path).sourcePath = Path.components path
            ∧ ∀ (now : FileSystem) m r, now.scanFile path = .ok m →
                ((now.writeTests m r).2 = .error (.overwritesSource m.sourcePath)
                  ↔ now.identity (m.outputPath r) = now.identity path))
      ∧ (∀ fs : FileSystem, fs.WellFormed → fs.isFile path = true →
          ∃ own compared, Path.fileName? path = some own
            ∧ Path.fileName? (ofPath path).sourcePath = some compared
            ∧ (Path.hasExtension path pythonExtension = false ∨ own.isText = false →
                compared ≠ own)) := by
  refine ⟨fun own h => components_assumedPath_iff h, ?_, ?_, ?_⟩
  · intro fs m hscan
    exact (paths_of_scanFile hscan {}).2
  · intro fs root files hw hfiles hmem own hown htext
    have hext := hasExtension_of_mem_filesBelow hw hfiles hmem
    refine ⟨(components_assumedPath_iff hown).mpr ⟨hext, htext⟩, ?_⟩
    intro now m r hscan
    rw [writeTests_refused_iff, (paths_of_scanFile hscan r).2,
      identity_assumedPath hscan ((keepsName_iff hown).mpr ⟨hext, htext⟩)]
  · intro fs hw hfile
    obtain ⟨own, hown⟩ : ∃ own, Path.fileName? path = some own := by
      unfold isFile at hfile
      split at hfile
      · rename_i heq
        exact fileName?_of_entryAt hw heq Shape.noConfusion
      · cases hfile
    refine ⟨own, _, hown, fileName?_assumedPath path, fun hother heq => ?_⟩
    -- the stem with the extension would be the file name
    obtain ⟨hext, htext⟩ := (Path.fileName_iff_readable hown pythonExtension).mp heq
    rcases hother with hext' | htext'
    · rw [hext] at hext'
      cases hext'
    · rw [htext] at htext'
      cases htext'

/-- A directory with a module and with notes, both holding a function. -/
def shelf : FileSystem :=
  { top := [("d", .directory [("a.py", .file "def f():\n  pass\n".toUTF8),
      ("b.txt", .file "def f():\n  pass\n".toUTF8)])] }

/-- The module is listed with slashes that its directory does not keep.  It is compared itself, so its
    tests are refused where they would replace it; the notes are compared as `b.py`. -/
theorem sourcePath_exact_shelf :
    shelf.filesBelow pythonExtension "./d//" = .ok ["./d//a.py"]
      ∧ (ofPath "./d//a.py").sourcePath = "./d/a.py"
      ∧ Path.components (ofPath "./d//a.py").sourcePath = Path.components "./d//a.py"
      ∧ (∃ m, shelf.scanFile "./d//a.py" = .ok m
          ∧ (shelf.writeTests m { outputDir := ".", modulePrefix := "" }).2
            = .error (.overwritesSource "./d/a.py"))
      ∧ Path.components (Path.join (ofPath "d/b.txt").baseDir (ofPath "d/b.txt").fileName)
        ≠ Path.components "d/b.txt"
      ∧ ∃ own compared, Path.fileName? "d/b.txt" = some own
          ∧ Path.fileName? (ofPath "d/b.txt").sourcePath = some compared ∧ compared ≠ own := by
  have hw : shelf.WellFormed := ⟨by decide +kernel, by decide +kernel⟩
  have hlisted : shelf.filesBelow pythonExtension "./d//" = .ok ["./d//a.py"] :=
    eq_ok_of_toOption (by decide +kernel)
  have hsource : (ofPath "./d//a.py").sourcePath = "./d/a.py" := by decide +kernel
  have hscan : shelf.scanFile "./d//a.py"
      = .ok (withFunctions "./d//a.py" [⟨.module, "f", placeholderDocstring⟩]) :=
    eq_ok_of_toOption (by decide +kernel)
  have hmodule : Path.fileName? "./d//a.py" = some (.ofText "a.py") := by decide +kernel
  have hnotes : Path.fileName? "d/b.txt" = some (.ofText "b.txt") := by decide +kernel
  have hother : Path.hasExtension "d/b.txt" pythonExtension = false := by decide +kernel
  obtain ⟨-, hassumed, hwalked, -⟩ := sourcePath_exact "./d//a.py"
  obtain ⟨hcomponents, hrefused⟩ := hwalked shelf "./d//" _ hw hlisted (by decide +kernel) _ hmodule
    (ByteString.isText_ofText "a.py")
  obtain ⟨hiff, -, -, hnamed⟩ := sourcePath_exact "d/b.txt"
  refine ⟨hlisted, hsource, hcomponents, ⟨_, hscan, ?_⟩, ?_, ?_⟩
  · have hpath := (hassumed shelf _ hscan).trans hsource
    rw [← hpath]
    exact (hrefused shelf _ { outputDir := ".", modulePrefix := "" } hscan).mpr (by decide +kernel)
  · rw [ne_eq, hiff _ hnotes, hother]
    simp
  · obtain ⟨own, compared, hown, hcompared, hne⟩ := hnamed shelf hw (by decide +kernel)
    exact ⟨own, compared, hown, hcompared, hne (Or.inl hother)⟩

/-- **A Python module is compared under another path** if its name is no text: the replacement
    characters of its name as read are not its bytes. -/
theorem sourcePath_misread :
    latin.filesBelow pythonExtension "." = .ok [Path.join "." graveName, Path.join "." acuteName]
      ∧ Path.hasExtension graveName pythonExtension = true
      ∧ Path.fileName? graveName = some graveName
      ∧ Path.components (Path.join (ofPath graveName).baseDir (ofPath graveName).fileName)
          ≠ Path.components graveName
      ∧ (ofPath graveName).sourcePath = "\uFFFD.py" := by
  refine ⟨eq_ok_of_toOption ?_, ?_, ?_, ?_, ?_⟩ <;> decide +kernel

end FileSystem

end TestScaffold
