/-
  TestScaffold.Proofs.Discovery.Listing — what is listed below a directory, and in which order.

  Below a directory all regular files with the extension are listed, and links are not gone
  through.  Such a file is given by the names from the directory down, and these increase
  name by name in the order of their bytes.  The bytes of the paths need not: `a/b.py` comes
  before `a.py`.

    * `FileSystem.FileBelow`, `FileSystem.Lists` — a file below a directory, and a list of all
      of them in byte order;
    * `Lists.nodup`, `Lists.unique` — it names each once, and there is only one;
    * `lists_listedIn` — it is the one that the walk goes along;
    * `filesBelow_complete` — so the walk is complete, without repetitions and reproducible.
-/
import TestScaffold.Proofs.Discovery.Sources
import TestScaffold.Proofs.Text.ByteString
import Mathlib.Data.List.Nodup

namespace TestScaffold

namespace FileSystem

/-! ## §1. Files below a directory -/

/-- `rel` are the names from a directory down to a regular file with the extension, through no
    link. -/
structure FileBelow (fs : FileSystem) (extension : String) (loc : Location) (rel : List ByteString) :
    Prop where
  /-- On the way there are directories. -/
  directories : ∀ i < rel.length, fs.shapeAt (loc ++ rel.take i) = some .directory
  /-- At the end there is a regular file. -/
  file : ∃ content, fs.shapeAt (loc ++ rel) = some (.file content)
  /-- Its name has the extension, and something before it. -/
  named : ∃ stem : ByteString, stem ≠ "" ∧ rel.getLast? = some (stem ++ "." ++ extension)

/-- Names that lead somewhere are ordinary. -/
theorem FileBelow.ordinary {fs : FileSystem} {extension : String} {loc : Location}
    {rel : List ByteString} (h : fs.FileBelow extension loc rel) (hw : fs.WellFormed) :
    ∀ n ∈ rel, Path.isOrdinary n = true := by
  obtain ⟨content, hfile⟩ := h.file
  intro n hn
  exact (validName_iff.mp
    (Entries.validName_of_shapeAt hw.ordered hfile n (List.mem_append_right loc hn))).1

/-- A list of the files below a directory, in the order of the bytes of their names. -/
structure Lists (fs : FileSystem) (extension : String) (loc : Location)
    (listing : List (List ByteString)) : Prop where
  /-- It holds them all, and nothing else. -/
  mem_iff : ∀ rel, rel ∈ listing ↔ fs.FileBelow extension loc rel
  /-- They increase, name by name. -/
  increasing : listing.Pairwise fun a b => a.map ByteString.toList < b.map ByteString.toList

namespace Lists

variable {fs fs' : FileSystem} {extension : String} {loc loc' : Location}
  {listing listing' : List (List ByteString)}

theorem nodup (h : fs.Lists extension loc listing) : listing.Nodup := by
  refine h.increasing.imp ?_
  rintro a b hlt rfl
  exact List.lt_irrefl _ hlt

/-- **There is only one list of the same files**, wherever they are. -/
theorem unique (h : fs.Lists extension loc listing) (h' : fs'.Lists extension loc' listing')
    (hsame : ∀ rel, fs.FileBelow extension loc rel ↔ fs'.FileBelow extension loc' rel) :
    listing = listing' := by
  have hperm : listing.Perm listing' := by
    refine (List.perm_ext_iff_of_nodup h.nodup h'.nodup).mpr fun rel => ?_
    rw [h.mem_iff, h'.mem_iff, hsame]
  refine hperm.eq_of_pairwise ?_ h.increasing h'.increasing
  intro a b _ _ hab hba
  exact absurd hba (List.lt_asymm hab)

end Lists

/-! ## §2. The walk -/

mutual

theorem listedAt_increasing {extension : String} {name : ByteString} (e : Entry) (hw : e.isWellFormed = true) :
    (listedAt extension name e).Pairwise fun a b => a.map ByteString.toList < b.map ByteString.toList := by
  match e with
  | .file content =>
      rw [listedAt]
      split
      · exact List.pairwise_singleton _ _
      · exact List.Pairwise.nil
  | .link _ => exact List.Pairwise.nil
  | .device => exact List.Pairwise.nil
  | .directory es =>
      rw [listedAt, List.pairwise_map]
      refine (listedIn_increasing es hw).imp fun {a b} hab => ?_
      rw [List.map_cons, List.map_cons]
      exact List.cons_lt_cons_self.mpr hab

/-- **The names increase in the order of their bytes**, since those of each directory do. -/
theorem listedIn_increasing {extension : String} (es : List (ByteString × Entry))
    (hw : entriesWellFormed es = true) :
    (listedIn extension es).Pairwise fun a b => a.map ByteString.toList < b.map ByteString.toList := by
  match es with
  | [] => exact List.Pairwise.nil
  | (name, e) :: rest =>
      obtain ⟨-, hlt, he, hrest⟩ := Entries.wellFormed_cons.mp hw
      rw [listedIn, List.pairwise_append]
      refine ⟨listedAt_increasing e he, listedIn_increasing rest hrest, ?_⟩
      -- the first names decide
      intro a ha b hb
      obtain ⟨tail, rfl⟩ := head_of_mem_listedAt ha
      obtain ⟨p, hp, tail', rfl⟩ := head_of_mem_listedIn hb
      exact List.cons_lt_cons_iff.mpr (Or.inl (hlt p hp))

end

/-- The extension of the last name on the way to a file, as it is spelled. -/
theorem named_iff {es : Entries} (hw : entriesWellFormed es = true) {rel : List ByteString}
    {e : Entry} (he : Entries.find? es rel = some e) {extension : String}
    (hdot : dot ∉ (extension : ByteString).toList) :
    (∃ last ∈ rel.getLast?, Path.hasExtension last extension = true)
      ↔ ∃ stem : ByteString, stem ≠ "" ∧ rel.getLast? = some (stem ++ "." ++ extension) := by
  cases hlast : rel.getLast? with
  | none => simp
  | some last =>
      have hord := Entries.isOrdinary_of_find? hw he last (List.mem_of_getLast? hlast)
      simp [Path.hasExtension_iff hord hdot]

section Directory

variable {fs : FileSystem} {loc : Location} {es : Entries}
  (hes : fs.find? loc = some (.directory es))
include hes

/-- A file below a directory is a file below its entries. -/
theorem shapeAt_file_iff {rel : List ByteString} {content : ByteArray} :
    fs.shapeAt (loc ++ rel) = some (.file content)
      ↔ Entries.find? es rel = some (.file content) := by
  rw [shapeAt_below hes, Entries.shapeAt, Option.map_eq_some_iff]
  constructor
  · rintro ⟨e, he, hfile⟩
    cases e <;> cases hfile
    exact he
  · exact fun hfind => ⟨_, hfind, rfl⟩

theorem fileBelow_iff {extension : String} (hw : entriesWellFormed es = true)
    (hdot : dot ∉ (extension : ByteString).toList) {rel : List ByteString} :
    fs.FileBelow extension loc rel
      ↔ (∃ content, Entries.find? es rel = some (.file content))
        ∧ ∃ last ∈ rel.getLast?, Path.hasExtension last extension = true := by
  constructor
  · rintro ⟨-, ⟨content, hfile⟩, hnamed⟩
    have hfind := (shapeAt_file_iff hes).mp hfile
    exact ⟨⟨content, hfind⟩, (named_iff hw hfind hdot).mpr hnamed⟩
  · rintro ⟨⟨content, hfind⟩, hlast⟩
    have hfile := (shapeAt_file_iff hes).mpr hfind
    refine ⟨fun i hi => ?_, ⟨content, hfile⟩, (named_iff hw hfind hdot).mp hlast⟩
    -- what is above the file is a directory
    have hrest : rel.drop i ≠ [] := fun hnil => by
      have := List.drop_eq_nil_iff.mp hnil
      omega
    rw [← List.take_append_drop i rel, ← List.append_assoc] at hfile
    exact shapeAt_of_append hfile hrest

/-- **The list of the files below a directory** is the one that the walk goes along. -/
theorem lists_listedIn {extension : String} (hw : entriesWellFormed es = true)
    (hdot : dot ∉ (extension : ByteString).toList) : fs.Lists extension loc (listedIn extension es) where
  mem_iff rel := by rw [mem_listedIn es hw, fileBelow_iff hes hw hdot]
  increasing := listedIn_increasing es hw

end Directory

/-- The walk below the directory that a path leads to, if it comes to an end. -/
theorem filesBelow_lists {fs : FileSystem} (hw : fs.WellFormed) {path : ByteString} {loc : Location}
    {es : Entries} (h : fs.entryAt path = .ok (loc, .directory es)) :
    fs.Lists pythonExtension loc (listedIn pythonExtension es)
      ∧ ∀ files, fs.filesBelow pythonExtension path = .ok files
          ↔ fs.Listable path ∧ files = (listedIn pythonExtension es).map (·.foldl Path.join path) := by
  have hes : entriesWellFormed es = true := hw.below (entryAt_found h)
  refine ⟨lists_listedIn (entryAt_found h) hes (by decide), fun files => ⟨fun hfiles => ?_, ?_⟩⟩
  · unfold filesBelow at hfiles
    rw [h] at hfiles
    cases hwalk : filesIn pythonExtension path es with
    | error directory => simp [hwalk] at hfiles
    | ok listed =>
        simp only [hwalk, Except.ok.injEq] at hfiles
        obtain ⟨hshort, hlisted⟩ := (filesIn_eq_ok_iff hes).mp hwalk
        exact ⟨(listable_iff h).mpr hshort, hfiles ▸ hlisted⟩
  · rintro ⟨hlist, rfl⟩
    exact filesBelow_directory hw pythonExtension h hlist

/-- **The walk below a directory is complete, without repetitions and reproducible.**  It comes to an
    end if and only if no directory below has a path that is too long to be opened.  Then it gives
    the paths of the files below the directory in the one order in which their names increase, name
    by name and byte by byte.  The path of ordinary names below the directory is among them exactly
    if the names lead through directories, and no link, to a regular file with the extension; no
    path comes twice; and wherever the same files are below a directory, however it came about,
    they come in the same order. -/
theorem filesBelow_complete {fs : FileSystem} (hw : fs.WellFormed) {path : ByteString} {loc : Location}
    {es : Entries} (h : fs.entryAt path = .ok (loc, .directory es)) :
    ∃ listing, fs.Lists pythonExtension loc listing
      ∧ ((∃ files, fs.filesBelow pythonExtension path = .ok files) ↔ fs.Listable path)
      ∧ (∀ files, fs.filesBelow pythonExtension path = .ok files →
          files = listing.map (·.foldl Path.join path) ∧ files.Nodup
            ∧ ∀ rel : List ByteString, (∀ n ∈ rel, Path.isOrdinary n = true) →
                (rel.foldl Path.join path ∈ files ↔ fs.FileBelow pythonExtension loc rel))
      ∧ ∀ (fs' : FileSystem) path' loc' es' files', fs'.WellFormed →
          fs'.entryAt path' = .ok (loc', .directory es') →
          (∀ rel, fs.FileBelow pythonExtension loc rel
            ↔ fs'.FileBelow pythonExtension loc' rel) →
          fs'.filesBelow pythonExtension path' = .ok files' →
          files' = listing.map (·.foldl Path.join path') := by
  obtain ⟨hlists, hfiles⟩ := filesBelow_lists hw h
  have hord : ∀ rel ∈ listedIn pythonExtension es, ∀ n ∈ rel, Path.isOrdinary n = true :=
    fun rel hrel => ((hlists.mem_iff rel).mp hrel).ordinary hw
  refine ⟨_, hlists, ?_, ?_, ?_⟩
  · exact ⟨fun ⟨files, hok⟩ => ((hfiles files).mp hok).1, fun hlist => ⟨_, (hfiles _).mpr ⟨hlist, rfl⟩⟩⟩
  · intro files hok
    obtain ⟨-, rfl⟩ := (hfiles files).mp hok
    refine ⟨rfl, ?_, ?_⟩
    · exact List.Nodup.map_on
        (fun a ha b hb => Path.eq_of_foldl_join (hord a ha) (hord b hb)) hlists.nodup
    · intro rel hrel
      rw [List.mem_map, ← hlists.mem_iff]
      constructor
      · rintro ⟨other, hother, hpath⟩
        rwa [← Path.eq_of_foldl_join (hord other hother) hrel hpath]
      · exact fun hmem => ⟨rel, hmem, rfl⟩
  · intro fs' path' loc' es' files' hw' h' hsame hok
    obtain ⟨hlists', hfiles'⟩ := filesBelow_lists hw' h'
    rw [((hfiles' files').mp hok).2, hlists.unique hlists' hsame]

/-- A directory whose names are alike: a module and a directory of its name, a directory and a link
    that are called like modules, a name that is all extension, and a link to a directory above. -/
def alike : FileSystem :=
  { top := [("p", .directory
      [(".py", .file .empty), ("a", .directory [("b.py", .file .empty), ("up", .link "..")]),
        ("a.py", .file .empty), ("l.py", .link "a.py"),
        ("x.py", .directory [("y.py", .file .empty)])])] }

/-- The directory comes before the module, although the bytes of its path would not. -/
theorem filesBelow_complete_alike :
    ∃ files, alike.filesBelow pythonExtension "p" = .ok files
      ∧ files = ["p/a/b.py", "p/a.py", "p/x.py/y.py"] ∧ ("p/a.py" : ByteString) < "p/a/b.py" ∧ files.Nodup
      ∧ alike.FileBelow pythonExtension ["p"] ["x.py", "y.py"]
      ∧ ¬ alike.FileBelow pythonExtension ["p"] ["l.py"]
      ∧ ¬ alike.FileBelow pythonExtension ["p"] ["a", "up", "a.py"]
      ∧ ¬ alike.FileBelow pythonExtension ["p"] [".py"] := by
  have hw : alike.WellFormed := ⟨by decide +kernel, by decide +kernel⟩
  have hfiles : alike.filesBelow pythonExtension "p"
      = .ok ["p/a/b.py", "p/a.py", "p/x.py/y.py"] := rfl
  have hdir : alike.entryAt "p" = .ok (["p"], .directory _) := rfl
  obtain ⟨_, -, -, hall, -⟩ := filesBelow_complete hw hdir
  obtain ⟨-, hnodup, hmem⟩ := hall _ hfiles
  refine ⟨_, hfiles, rfl, by decide, hnodup, (hmem _ (by decide)).mp (by decide), ?_, ?_, ?_⟩
  · exact mt (hmem _ (by decide)).mpr (by decide)
  · exact mt (hmem _ (by decide)).mpr (by decide)
  · exact mt (hmem _ (by decide)).mpr (by decide)

end FileSystem

end TestScaffold
