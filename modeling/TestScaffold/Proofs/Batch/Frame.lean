/-
  TestScaffold.Proofs.Batch.Frame — what processing one source file leaves alone.

  A source goes through six stages, and each of them can end it:

    * `process_error_cases` — before the directories are made nothing has changed, and when they
      cannot be made or the tests cannot be built or written, only directories have been added;
    * `AddsOutput` — tests that are written are one entry, with the directories above it;
    * `process_frame` — all exits together.

  A destination that leads to a device is no exit of its own: the device takes the tests, and
  nothing can be read back from it (`process_to_device`).
-/
import TestScaffold.Proofs.Batch.Step
import TestScaffold.Proofs.Path.Ancestors

namespace TestScaffold.FileSystem

open SourceModule

/-! ## §1. Exits without tests -/

/-- **How a source fails**: alone, or because its tests would replace it, with nothing changed; or
    after the directories of its tests were made, as far as they could be. -/
theorem process_error_cases {fs after : FileSystem} {r : RenderSettings} {path : ByteString}
    {failure : Failure} (h : fs.process r path = (after, .error failure)) :
    (failure.isPerModule = true ∧ after = fs)
      ∨ (failure = .overwritesSource (assumedPath path) ∧ after = fs)
      ∨ (((∃ directory fault, failure = .createDirectory directory fault)
            ∨ failure = .textTooLong ∨ ∃ fault, failure = .write (destination r path) fault)
          ∧ after = (fs.createDirectories (Path.directory (destination r path))).1) := by
  unfold process at h
  split at h
  · rename_i own hscan
    cases h
    exact Or.inl ⟨scanFile_error hscan, rfl⟩
  · rename_i m hscan
    obtain ⟨hout, hsource⟩ := paths_of_scanFile hscan r
    split at h
    · cases h
    · unfold writeTests at h
      simp only [hout, hsource] at h
      split at h
      · cases h
      · rename_i done own hwrite
        cases h
        -- the guard, the directories, the text and the write, in this order
        split at hwrite
        · cases hwrite
          exact Or.inr (Or.inl ⟨rfl, rfl⟩)
        · refine Or.inr (Or.inr ?_)
          split at hwrite
          · rename_i made fault hmade
            cases hwrite
            exact ⟨Or.inl ⟨_, fault, rfl⟩, (congrArg Prod.fst hmade).symm⟩
          · rename_i made hmade
            split at hwrite
            · cases hwrite
              exact ⟨Or.inr (Or.inl rfl), (congrArg Prod.fst hmade).symm⟩
            · split at hwrite
              · cases hwrite
              · rename_i fault hfault
                cases hwrite
                exact ⟨Or.inr (Or.inr ⟨fault, rfl⟩), (congrArg Prod.fst hmade).symm⟩

/-! ## §2. Written tests -/

/-- `fs'` is `fs` with a text delivered to where a path leads: one file has it, or a device took it, and
    for the rest there are only directories where nothing stood, each reached by a path above. -/
structure Delivers (path : ByteString) (text : ByteArray) (loc : Location) (fs fs' : FileSystem) :
    Prop where
  /-- The working directory stays. -/
  cwd : fs'.cwd = fs.cwd
  /-- The path leads there. -/
  leads : fs'.locate? path = some loc
  /-- A new file, or one that stood there before; a device stays what it is. -/
  there : ((fs.shapeAt loc = none ∨ ∃ old, fs.shapeAt loc = some (.file old))
      ∧ fs'.shapeAt loc = some (.file text))
    ∨ (fs.shapeAt loc = some .device ∧ fs'.shapeAt loc = some .device)
  /-- Elsewhere nothing is taken away or altered, and what comes is a directory on the way. -/
  elsewhere : ∀ l, l ≠ loc → fs'.shapeAt l = fs.shapeAt l
    ∨ (fs.shapeAt l = none ∧ fs'.shapeAt l = some .directory
      ∧ ∃ above, Path.Above above path ∧ fs'.locate? above = some l)

/-- A delivered text can be read, unless a device took it. -/
theorem Delivers.reads {path : ByteString} {text : ByteArray} {loc : Location} {fs fs' : FileSystem}
    (h : Delivers path text loc fs fs') :
    fs'.readBytes path = .ok (if fs.shapeAt loc = some .device then .empty else text) := by
  rcases h.there with ⟨hbefore, hthere⟩ | ⟨hbefore, hthere⟩
  · have hdevice : fs.shapeAt loc ≠ some .device := by
      rcases hbefore with hnone | ⟨old, hold⟩
      · simp [hnone]
      · simp [hold]
    rw [if_neg hdevice]
    exact readBytes_eq_ok h.leads hthere
  · rw [if_pos hbefore]
    exact readBytes_device h.leads hthere

/-- The directories that a destination needs are reached by paths above it. -/
theorem createDirectories_above (fs : FileSystem) (path : ByteString) :
    AddsReached (Path.Above · path) fs (fs.createDirectories (Path.directory path)).1 :=
  (createDirectories_reached fs (Path.directory path)).mono fun _ h =>
    Path.above_of_mem_ancestors h.1 h.2

/-- **Directories and then a write deliver the text.** -/
theorem delivers_of_write {fs made done : FileSystem} (hw : fs.WellFormed) {path : ByteString}
    {text : ByteArray} (hmade : fs.createDirectories (Path.directory path) = (made, .ok ()))
    (hwrite : made.write path text = .ok done) :
    ∃ loc, Delivers path text loc fs done := by
  have hreached := createDirectories_above fs path
  have hwmade := createDirectories_wellFormed (Path.directory path) hw
  rw [hmade] at hreached hwmade
  have hgrows := write_grows hwrite
  obtain ⟨t, ht, hfree, hshapes⟩ := write_shapes hwmade hwrite
  obtain ⟨e, he, -⟩ := entryAt_write hwmade hwrite ht
  -- what stands at the end of the path is no directory, so it was not made just now
  have hsame : made.shapeAt t.location = fs.shapeAt t.location := by
    rcases hreached.shape t.location with hsame | ⟨-, hdirectory, -⟩
    · exact hsame
    · exact absurd hdirectory hfree
  have hthere := hshapes t.location
  rw [if_pos rfl, hsame] at hthere
  refine ⟨t.location, hgrows.cwd.trans hreached.cwd, locate?_eq_some.mpr ⟨e, he⟩, ?_, ?_⟩
  · obtain ⟨t', ht', hcases⟩ := write_cases hwrite
    cases ht.symm.trans ht'
    rcases hcases with ⟨loc, old, rfl, -⟩ | ⟨loc, rfl, -⟩ | ⟨loc, name, rfl, -⟩
    · have hold := hsame.symm.trans (shapeAt_of_found ht)
      rw [hold] at hthere
      exact Or.inl ⟨Or.inr ⟨old, hold⟩, hthere⟩
    · have hdevice := hsame.symm.trans (shapeAt_of_found ht)
      rw [hdevice] at hthere
      exact Or.inr ⟨hdevice, hthere⟩
    · have hnone := hsame.symm.trans (shapeAt_of_vacant ht)
      rw [show fs.shapeAt (Target.vacant loc name).location = none from hnone] at hthere
      exact Or.inl ⟨Or.inl hnone, hthere⟩
  · intro l hl
    rw [hshapes l, if_neg hl]
    refine (hreached.shape l).imp_right ?_
    rintro ⟨hnone, hdirectory, above, habove, hleads⟩
    exact ⟨hnone, hdirectory, above, habove, locate?_grows hgrows hleads⟩

/-! ## §3. All exits -/

/-- **The frame of one source file.**  Without functions, with a failure of its own, or with tests that
    would replace it, a source changes nothing.  A failure to make directories, or to build or to write
    the tests, leaves at most new directories, each reached by a path above the destination.  Tests
    that are written are delivered to the destination: they are rendered for the functions of the
    text that the source had before, and they can be read there unless a device took them. -/
theorem process_frame {fs : FileSystem} (hw : fs.WellFormed) (r : RenderSettings) (path : ByteString) :
    ((fs.process r path).2 = .ok .noFunctions → (fs.process r path).1 = fs)
      ∧ (∀ failure, (fs.process r path).2 = .error failure →
        ((failure.isPerModule = true ∨ ∃ source, failure = .overwritesSource source)
            ∧ (fs.process r path).1 = fs)
          ∨ (((∃ directory fault, failure = .createDirectory directory fault)
              ∨ failure = .textTooLong ∨ ∃ output fault, failure = .write output fault)
            ∧ AddsReached (Path.Above · (destination r path)) fs (fs.process r path).1))
      ∧ (∀ output, (fs.process r path).2 = .ok (.written output) →
        output = destination r path
          ∧ ∃ text functions loc, fs.readText path = .ok text ∧ scan text = .ok functions
            ∧ functions ≠ []
            ∧ Delivers output ((withFunctions path functions).render r).toUTF8 loc fs
                (fs.process r path).1
            ∧ (fs.shapeAt loc ≠ some .device →
              (fs.process r path).1.readBytes output
                = .ok ((withFunctions path functions).render r).toUTF8)) := by
  refine ⟨?_, ?_, ?_⟩
  · intro hnone
    obtain ⟨failure, -, hp⟩ | ⟨m, -, -, hp⟩ | ⟨m, failure, -, -, hp, -⟩ |
      ⟨m, made, done, -, -, -, -, -, -, hp⟩ := process_cases fs r path
    · rw [hp] at hnone
      cases hnone
    · rw [hp]
    · rw [hp] at hnone
      cases hnone
    · rw [hp] at hnone
      cases hnone
  · intro failure hfailure
    have hends : fs.process r path = ((fs.process r path).1, .error failure) :=
      Prod.ext rfl hfailure
    obtain ⟨hper, hsame⟩ | ⟨hself, hsame⟩ | ⟨houtput, hmade⟩ := process_error_cases hends
    · exact Or.inl ⟨Or.inl hper, hsame⟩
    · exact Or.inl ⟨Or.inr ⟨_, hself⟩, hsame⟩
    · refine Or.inr ⟨houtput.imp_right (Or.imp_right fun ⟨fault, h⟩ => ⟨_, fault, h⟩), ?_⟩
      rw [hmade]
      exact createDirectories_above fs (destination r path)
  · intro output hwritten
    obtain ⟨failure, -, hp⟩ | ⟨m, -, -, hp⟩ | ⟨m, failure, -, -, hp, -⟩ |
      ⟨m, made, done, hscan, hne, -, -, hmade, hwrite, hp⟩ := process_cases fs r path
    · rw [hp] at hwritten
      cases hwritten
    · rw [hp] at hwritten
      cases hwritten
    · rw [hp] at hwritten
      cases hwritten
    · rw [hp] at hwritten ⊢
      cases hwritten
      obtain ⟨content, text, hread, htext, hfunctions, hm⟩ := scanFile_ok hscan
      have hreadText : fs.readText path = .ok text := by
        simp [readText, hread, htext, bind, Except.bind]
      obtain ⟨loc, hdelivers⟩ := delivers_of_write hw hmade hwrite
      rw [hm] at hdelivers
      refine ⟨rfl, text, m.functions, loc, hreadText, hfunctions, hne, hdelivers, ?_⟩
      intro hdevice
      have hreads := hdelivers.reads
      rwa [if_neg hdevice] at hreads

/-- A module whose tests go to a new directory behind a link. -/
def detour : FileSystem :=
  { top := [("a.py", .file "def f():\n  pass\n".toUTF8), ("store", .directory []),
      ("tests", .link "store")] }

theorem process_frame_detour :
    detour.WellFormed
      ∧ (detour.process { outputDir := "tests/new" } "a.py").2 = .ok (.written "tests/new/test_a.py")
      ∧ ∃ text functions loc, detour.readText "a.py" = .ok text ∧ scan text = .ok functions
        ∧ functions ≠ []
        ∧ Delivers "tests/new/test_a.py"
            ((withFunctions "a.py" functions).render { outputDir := "tests/new" }).toUTF8 loc detour
            (detour.process { outputDir := "tests/new" } "a.py").1 := by
  have hw : detour.WellFormed := ⟨by decide +kernel, by decide +kernel⟩
  have hwritten : (detour.process { outputDir := "tests/new" } "a.py").2
      = .ok (.written "tests/new/test_a.py") := eq_ok_of_toOption (by decide +kernel)
  obtain ⟨-, text, functions, loc, hread, hscan, hne, hdelivers, -⟩ :=
    (process_frame hw { outputDir := "tests/new" } "a.py").2.2 _ hwritten
  exact ⟨hw, hwritten, text, functions, loc, hread, hscan, hne, hdelivers⟩

/-- A module whose test module is a link to a device. -/
def sink : FileSystem :=
  { top := [("a.py", .file "def f():\n  pass\n".toUTF8), ("dev", .directory [("null", .device)]),
      ("tests", .directory [("test_a.py", .link "/dev/null")])] }

/-- The device takes the tests: they count as written, and reading the path that was written to does
    not give them. -/
theorem process_to_device :
    (sink.process {} "a.py").2 = .ok (.written "tests/test_a.py")
      ∧ ∃ functions, sink.readText "a.py" = .ok "def f():\n  pass\n"
        ∧ scan "def f():\n  pass\n" = .ok functions
        ∧ (sink.process {} "a.py").1.readBytes "tests/test_a.py"
            ≠ .ok ((withFunctions "a.py" functions).render {}).toUTF8 := by
  refine ⟨eq_ok_of_toOption (by decide +kernel), [⟨.module, "f", placeholderDocstring⟩],
    eq_ok_of_toOption (by decide +kernel), eq_ok_of_toOption (by decide +kernel), ?_⟩
  intro hsame
  have hbytes := congrArg Except.toOption hsame
  revert hbytes
  decide +kernel

end TestScaffold.FileSystem
