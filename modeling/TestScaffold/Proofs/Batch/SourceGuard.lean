/-
  TestScaffold.Proofs.Batch.SourceGuard — when a test module replaces its own source.

  Before a test module is written, the identity of its path is compared with the
  identity of the path that the source is assumed to have.  The comparison is made once,
  before the missing directories are made.  The theorem here says exactly when that is
  not enough, over all file systems with links:

    * the destination leads to the source already, and the source has another file name
      than the one it is compared under, or one of the two paths has no canonical path; or
    * the destination leads nowhere before its directories are made and to the source
      afterwards, and its lexical normal form is not the identity of the source.

  In every other case the source reads as before, whatever becomes of the run.
-/
import TestScaffold.Proofs.Batch.Step
import TestScaffold.Proofs.FileSystem.Tracing
import TestScaffold.Proofs.Path.FileName

namespace TestScaffold

/-! ## §1. The path that a source is assumed to have -/

namespace SourceModule

/-- The module at a path keeps the file name of the path. -/
def KeepsName (path : ByteString) : Prop :=
  Path.fileName? path = some (.ofText (ofPath path).fileName)

instance (path : ByteString) : Decidable (KeepsName path) :=
  inferInstanceAs (Decidable (_ = _))

/-- **A file name is kept** exactly if it has the Python extension and is a text. -/
theorem keepsName_iff {path own : ByteString} (h : Path.fileName? path = some own) :
    KeepsName path ↔ Path.hasExtension path pythonExtension = true ∧ own.isText = true := by
  rw [← Path.fileName_iff_readable h, KeepsName, h, Option.some_inj, eq_comm]
  rfl

end SourceModule

namespace FileSystem

open SourceModule

/-- **A source whose name is kept is where it is assumed to be.** -/
theorem locate?_assumedPath {fs : FileSystem} {path : ByteString} {loc : Location} {e : Entry}
    (h : fs.entryAt path = .ok (loc, e)) (hfile : e.shape ≠ .directory)
    (hname : KeepsName path) : fs.locate? (assumedPath path) = some loc := by
  unfold KeepsName at hname
  show fs.locate? (Path.join (Path.directory path) (ofPath path).fileName) = some loc
  generalize ByteString.ofText (ofPath path).fileName = name at hname ⊢
  obtain ⟨-, -, -, -, hroot, hord⟩ := Path.steps_of_fileName hname
  -- the assumed path leaves bytes of the path out, so it is looked at as well
  have hroute : route (Path.join (Path.directory path) name)
      = .ok (Route.ofPath (Path.join (Path.directory path) name)) :=
    route_of_sublist (resolve_eq_follow (entryAt_iff.mp h)).1 (Path.join_directory_sublist hname)
      (Path.join_ne_nil hord)
  refine locate?_eq_some.mpr ⟨e, entryAt_iff.mpr ?_⟩
  rw [resolve_of_route hroute, Path.steps_join hord]
  have hstart : fs.start (Route.ofPath (Path.join (Path.directory path) name))
      = fs.start (Route.ofPath path) := by
    unfold start
    rw [Path.fromRoot_join hord, hroot]
    rfl
  rw [hstart]
  exact follow_from_directory hname h hfile

/-! ## §2. What the comparison misses -/

section Guard

variable {fs made : FileSystem} {r : RenderSettings} {path : ByteString} {loc : Location}

/-- Of a source whose name is kept and whose destination leads to itself, the two canonical paths are
    one. -/
theorem canonical?_agree {m : SourceModule} (hscan : fs.scanFile path = .ok m)
    (hne : m.functions ≠ []) (hl : fs.locate? path = some loc)
    (hname : KeepsName path)
    (hdest : fs.locate? (destination r path) = some loc) {c c' : ByteString}
    (hc : fs.canonical? (destination r path) = some c)
    (hc' : fs.canonical? (assumedPath path) = some c') : c = c' := by
  obtain ⟨loc', content, hl', hs, -⟩ := file_of_scanFile hscan hne
  rw [hl] at hl'
  cases hl'
  have hassumed := locate?_assumedPath (entryAt_file hl hs) Shape.noConfusion hname
  rw [canonical?_of_traced? (traced?_of_locate? hdest) (canonical?_eq_some.mp hc).1] at hc
  rw [canonical?_of_traced? (traced?_of_locate? hassumed) (canonical?_eq_some.mp hc').1] at hc'
  cases hc
  cases hc'
  rfl

/-- **When the comparison does not tell** that the destination comes to lead to the source: it led
    there already, but the source has not the file name under which it is compared, or one of the
    paths has no canonical path; or it led nowhere, and its lexical normal form was compared. -/
theorem identity_ne_iff {m : SourceModule} (hscan : fs.scanFile path = .ok m)
    (hne : m.functions ≠ [])
    (hmade : fs.createDirectories (Path.directory (destination r path)) = (made, .ok ()))
    (hl : fs.locate? path = some loc) (hdest : made.locate? (destination r path) = some loc) :
    fs.identity (destination r path) ≠ fs.identity (assumedPath path) ↔
      (fs.locate? (destination r path) = some loc
          ∧ (¬ KeepsName path
            ∨ fs.canonical? (destination r path) = none ∨ fs.canonical? (assumedPath path) = none)
          ∧ fs.identity (assumedPath path) ≠ fs.identity (destination r path))
        ∨ (fs.locate? (destination r path) = none
          ∧ fs.identity (assumedPath path) ≠ Path.clean (destination r path)) := by
  cases hbefore : fs.locate? (destination r path) with
  | none =>
      -- the directories are not there yet: the lexical normal form is compared
      obtain ⟨e, he⟩ := locate?_eq_some.mp hdest
      rw [identity_of_locate?_none (resolve_eq_follow (entryAt_iff.mp he)).1 hbefore]
      constructor
      · exact fun hid => Or.inr ⟨rfl, hid.symm⟩
      · rintro (⟨hsome, -⟩ | ⟨-, hid⟩)
        · cases hsome
        · exact hid.symm
  | some l =>
      have hadds := createDirectories_adds fs (Path.directory (destination r path))
      rw [hmade] at hadds
      -- making directories does not change where the destination leads
      have hsame : l = loc :=
        Option.some.inj ((locate?_grows hadds.grows hbefore).symm.trans hdest)
      subst hsame
      constructor
      · intro hid
        refine Or.inl ⟨rfl, ?_, hid.symm⟩
        by_cases hname : KeepsName path
        · refine Or.inr ?_
          cases hc : fs.canonical? (destination r path) with
          | none => exact Or.inl rfl
          | some c =>
              cases hc' : fs.canonical? (assumedPath path) with
              | none => exact Or.inr rfl
              | some c' =>
                  -- the source is where it is assumed to be, so the comparison tells
                  rw [identity_of_canonical? hc, identity_of_canonical? hc'] at hid
                  exact absurd (canonical?_agree hscan hne hl hname hbefore hc hc') hid
        · exact Or.inl hname
      · rintro (⟨-, -, hid⟩ | ⟨hnone, -⟩)
        · exact hid.symm
        · cases hnone

/-- A source file that was changed was the destination of its own tests. -/
theorem written_of_changed
    (h : (fs.process r path).1.readBytes path ≠ fs.readBytes path) :
    ∃ m made loc, fs.scanFile path = .ok m ∧ m.functions ≠ []
      ∧ fs.identity (destination r path) ≠ fs.identity (assumedPath path)
      ∧ m.overflows r = false
      ∧ fs.createDirectories (Path.directory (destination r path)) = (made, .ok ())
      ∧ fs.locate? path = some loc ∧ made.locate? (destination r path) = some loc
      ∧ (fs.process r path).1.readBytes path = .ok (m.render r).toUTF8 := by
  have hadds := createDirectories_adds fs (Path.directory (destination r path))
  obtain ⟨failure, -, hp⟩ | ⟨m, -, -, hp⟩ | ⟨m, failure, hscan, hne, -, -, hfs⟩ |
    ⟨m, made, done, hscan, hne, hguard, hfits, hmade, hwrite, hp⟩ := process_cases fs r path
  · rw [hp] at h
    exact absurd rfl h
  · rw [hp] at h
    exact absurd rfl h
  · -- nothing was written, and directories do not touch a file
    obtain ⟨-, content, -, -, hr⟩ := file_of_scanFile hscan hne
    rcases hfs with hfs | hfs
    · rw [hfs] at h
      exact absurd rfl h
    · rw [hfs] at h
      exact absurd (readBytes_adds hadds hr) h
  · obtain ⟨loc, content, hl, hs, hr⟩ := file_of_scanFile hscan hne
    rw [hmade] at hadds
    have hgrows : Grows fs done := hadds.grows.trans (write_grows hwrite)
    rw [hp] at h ⊢
    rcases write_at_file hwrite (hadds.keep hs) with ⟨hdest, hdone⟩ | ⟨-, hdone⟩
    · exact ⟨m, made, loc, hscan, hne, hguard, hfits, hmade, hl, hdest,
        readBytes_eq_ok (locate?_grows hgrows hl) hdone⟩
    · have hkept : done.shapeAt loc = fs.shapeAt loc := by rw [hdone, hadds.keep hs, hs]
      exact absurd (readBytes_of_keep hgrows hr hl hkept) h

/-- A source file that is the destination of its own tests comes to hold them, unless the comparison
    tells. -/
theorem readBytes_written {m : SourceModule} (hscan : fs.scanFile path = .ok m)
    (hne : m.functions ≠ [])
    (hguard : fs.identity (destination r path) ≠ fs.identity (assumedPath path))
    (hfits : m.overflows r = false)
    (hmade : fs.createDirectories (Path.directory (destination r path)) = (made, .ok ()))
    (hl : fs.locate? path = some loc) (hdest : made.locate? (destination r path) = some loc) :
    (fs.process r path).1.readBytes path = .ok (m.render r).toUTF8 := by
  obtain ⟨loc', content, hl', hs, -⟩ := file_of_scanFile hscan hne
  rw [hl] at hl'
  cases hl'
  have hadds := createDirectories_adds fs (Path.directory (destination r path))
  rw [hmade] at hadds
  have hwrite := write_of_locate? hdest (hadds.keep hs) (m.render r).toUTF8
  have hgrows := hadds.grows.trans (write_grows hwrite)
  rw [process_written hscan hne hguard hfits hmade hwrite]
  rcases write_at_file hwrite (hadds.keep hs) with ⟨-, hdone⟩ | ⟨hno, -⟩
  · exact readBytes_eq_ok (locate?_grows hgrows hl) hdone
  · exact absurd hdest hno

end Guard

/-! ## §3. The exact condition -/

/-- **A source file is changed by its own test module** exactly when it has functions, its tests are
    not too long to be built, its bytes are not the rendered tests anyway, the directories of the
    destination can be made, the destination then leads to the source, and the comparison beforehand
    did not tell: either the destination led to the source already, and the source has not the file
    name under which it is compared or one of the two paths has no canonical path; or the destination
    led nowhere and its lexical normal form was compared. -/
theorem process_changes_source_iff (fs : FileSystem) (r : RenderSettings) (path : ByteString) :
    (fs.process r path).1.readBytes path ≠ fs.readBytes path ↔
      ∃ m made loc, fs.scanFile path = .ok m ∧ m.functions ≠ [] ∧ m.overflows r = false
        ∧ fs.readBytes path ≠ .ok (m.render r).toUTF8
        ∧ fs.createDirectories (Path.directory (destination r path)) = (made, .ok ())
        ∧ fs.locate? path = some loc ∧ made.locate? (destination r path) = some loc
        ∧ ((fs.locate? (destination r path) = some loc
              ∧ (¬ KeepsName path
                ∨ fs.canonical? (destination r path) = none
                ∨ fs.canonical? (assumedPath path) = none)
              ∧ fs.identity (assumedPath path) ≠ fs.identity (destination r path))
            ∨ (fs.locate? (destination r path) = none
              ∧ fs.identity (assumedPath path) ≠ Path.clean (destination r path))) := by
  constructor
  · intro hchanged
    obtain ⟨m, made, loc, hscan, hne, hid, hfits, hmade, hl, hdest, hnew⟩ :=
      written_of_changed hchanged
    exact ⟨m, made, loc, hscan, hne, hfits, fun hsame => hchanged (hnew.trans hsame.symm), hmade,
      hl, hdest, (identity_ne_iff hscan hne hmade hl hdest).mp hid⟩
  -- the source comes to hold the rendered tests, which it did not hold before
  · rintro ⟨m, made, loc, hscan, hne, hfits, hrender, hmade, hl, hdest, htold⟩ hsame
    have hid := (identity_ne_iff hscan hne hmade hl hdest).mpr htold
    exact hrender (hsame.symm.trans (readBytes_written hscan hne hid hfits hmade hl hdest))

/-- A directory with one module. -/
def lone : FileSystem :=
  { top := [("a.py", .file "def f():\n  pass\n".toUTF8)] }

/-- Such a source: its tests go, without a prefix, to a directory that is entered and left again and
    that is not there when the comparison is made. -/
theorem process_changes_lone_source :
    (lone.process { outputDir := "new/..", modulePrefix := "" } "a.py").1.readBytes "a.py"
      ≠ lone.readBytes "a.py" := by
  intro hsame
  have hbytes := congrArg Except.toOption hsame
  revert hbytes
  decide +kernel

end FileSystem

end TestScaffold
