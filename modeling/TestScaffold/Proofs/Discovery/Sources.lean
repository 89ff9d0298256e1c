/-
  TestScaffold.Proofs.Discovery.Sources — what the collected sources are.

    * `mem_listing` — a listed file stands where its names lead;
    * `follow_listed` — so does its path, whatever links lead to the directory;
    * `mem_collect` — every collected path was accepted, ends in a name, and comes from one
      of the paths that were asked for;
    * `eq_of_canonical_collect` — two collected paths do not have one canonical path.
-/
import TestScaffold.Proofs.Discovery.Walk
import TestScaffold.Proofs.FileSystem.Tracing

namespace TestScaffold

/-! ## §1. Names joined to a path -/

namespace Path

theorem spelled_foldl_join {rel : List ByteString} (h : ∀ n ∈ rel, isOrdinary n = true)
    (path : ByteString) :
    Route.spelled (rel.foldl join path).toList
      = Route.spelled path.toList ++ rel.map Step.down := by
  induction rel generalizing path with
  | nil => simp
  | cons n rel ih =>
      rw [List.foldl_cons, ih fun m hm => h m (List.mem_cons_of_mem n hm),
        spelled_join_name (h n List.mem_cons_self), List.append_assoc]
      rfl

/-- The names of names joined to a path. -/
theorem names_foldl_join {rel : List ByteString} (h : ∀ n ∈ rel, isOrdinary n = true)
    (path : ByteString) : names (rel.foldl join path) = names path ++ rel := by
  rw [names, spelled_foldl_join h, List.filterMap_append, filterMap_name?_downs]
  rfl

/-- Names joined to a path can be told from the result. -/
theorem eq_of_foldl_join {a b : List ByteString} {path : ByteString} (ha : ∀ n ∈ a, isOrdinary n = true)
    (hb : ∀ n ∈ b, isOrdinary n = true) (h : a.foldl join path = b.foldl join path) : a = b := by
  have hnames := congrArg names h
  rw [names_foldl_join ha, names_foldl_join hb] at hnames
  exact List.append_cancel_left hnames

/-- The steps of names joined to a path. -/
theorem steps_foldl_join {rel : List ByteString} (h : ∀ n ∈ rel, isOrdinary n = true)
    (hne : rel ≠ []) (path : ByteString) :
    (Route.ofPath (rel.foldl join path)).steps
      = Route.spelled path.toList ++ rel.map Step.down := by
  rcases List.eq_nil_or_concat rel with rfl | ⟨init, n, rfl⟩
  · exact absurd rfl hne
  · rw [List.concat_eq_append] at h ⊢
    have hinit : ∀ m ∈ init, isOrdinary m = true := fun m hm => h m (List.mem_append_left _ hm)
    have hn : isOrdinary n = true := h n (by simp)
    rw [List.foldl_append, List.foldl_cons, List.foldl_nil, steps_join hn,
      spelled_foldl_join hinit, List.map_append, List.append_assoc]
    rfl

theorem fromRoot_foldl_join {rel : List ByteString} (h : ∀ n ∈ rel, isOrdinary n = true)
    (path : ByteString) :
    (Route.ofPath (rel.foldl join path)).fromRoot = (Route.ofPath path).fromRoot := by
  induction rel generalizing path with
  | nil => rfl
  | cons n rel ih =>
      rw [List.foldl_cons, ih fun m hm => h m (List.mem_cons_of_mem n hm),
        fromRoot_join (h n List.mem_cons_self)]

end Path

/-! ## §2. Listed files -/

namespace FileSystem

/-- **A listed file** stands where its names lead, and has the extension. -/
theorem mem_listing {extension : String} {path t : ByteString} (es : List (ByteString × Entry))
    (hw : entriesWellFormed es = true) (h : t ∈ listing extension path es) :
    ∃ rel content, rel ≠ [] ∧ Entries.find? es rel = some (.file content)
      ∧ t = rel.foldl Path.join path ∧ Path.hasExtension t extension = true := by
  obtain ⟨rel, hrel, rfl⟩ := List.mem_map.mp h
  obtain ⟨⟨content, hfind⟩, last, hlast, hext⟩ := (mem_listedIn es hw).mp hrel
  obtain ⟨init, rfl⟩ := List.getLast?_eq_some_iff.mp hlast
  have hord := Entries.isOrdinary_of_find? hw hfind last (by simp)
  refine ⟨init ++ [last], content, by simp, hfind, rfl, ?_⟩
  -- the extension is that of the last name
  rw [List.foldl_append, List.foldl_cons, List.foldl_nil, Path.hasExtension_join hord]
  exact hext

/-- What is below the entries of a directory is below its location. -/
theorem find?_listed {fs : FileSystem} {path : ByteString} {loc : Location} {es : Entries}
    (hp : fs.entryAt path = .ok (loc, .directory es)) {rel : List ByteString} {e : Entry}
    (hfind : Entries.find? es rel = some e) : fs.find? (loc ++ rel) = some e := by
  show Entries.find? fs.top _ = _
  rw [Entries.find?_append]
  show (fs.find? loc).bind _ = _
  rw [entryAt_found hp]
  exact hfind

section Listed

variable {fs : FileSystem} (hw : fs.WellFormed) {path : ByteString} {loc : Location} {es : Entries}
  (hp : fs.entryAt path = .ok (loc, .directory es)) {rel : List ByteString} {content : ByteArray}
  (hne : rel ≠ []) (hfind : Entries.find? es rel = some (.file content))
include hw hp hne hfind

/-- **A listed file is where its path leads**, whatever links lead to the directory. -/
theorem follow_listed :
    fs.follow maxLinks (fs.start (Route.ofPath (rel.foldl Path.join path)))
        (Route.ofPath (rel.foldl Path.join path)).steps
      = .ok (.found (loc ++ rel) (.file content)) := by
  have hthere : fs.find? (loc ++ rel) = some (.file content) := find?_listed hp hfind
  -- names that stand somewhere are valid, so each can be spelled and looked up
  have hvalid : ∀ n ∈ rel, validName n = true := fun n hn =>
    Entries.validName_of_shapeAt hw.ordered (shapeAt_of_find? hthere) n
      (List.mem_append_right loc hn)
  have hord : ∀ n ∈ rel, Path.isOrdinary n = true := fun n hn => (validName_iff.mp (hvalid n hn)).1
  have hlen : ∀ n ∈ rel, n.size ≤ maxNameBytes :=
    fun n hn => (validName_iff.mp (hvalid n hn)).2
  have hstart : fs.start (Route.ofPath (rel.foldl Path.join path))
      = fs.start (Route.ofPath path) := by
    unfold start
    rw [Path.fromRoot_foldl_join hord]
  -- the slash at the end of the directory's path is not in the path of the file
  obtain ⟨-, hf⟩ := resolve_eq_follow (entryAt_iff.mp hp)
  obtain ⟨j, hj, -⟩ := Route.ofPath_steps path
  have hdowns : rel.map Step.down ≠ [] := by simpa using hne
  rw [hstart, Path.steps_foldl_join hord hne,
    ← follow_drop_heres hdowns maxLinks _ (Route.spelled path.toList) j, ← List.append_assoc, ← hj]
  exact follow_append_directory (fun _ => walkSteps_to_end hne hlen hthere rfl) hf

/-- So is its path, if it is of a length that is looked at. -/
theorem entryAt_listed {route' : Route} (hroute : route (rel.foldl Path.join path) = .ok route') :
    fs.entryAt (rel.foldl Path.join path) = .ok (loc ++ rel, .file content) := by
  rw [route_eq hroute] at hroute
  refine entryAt_iff.mpr ?_
  rw [resolve_of_route hroute]
  exact follow_listed hw hp hne hfind

theorem traced?_listed : fs.traced? (rel.foldl Path.join path) = some (loc ++ rel) := by
  have hf := follow_listed hw hp hne hfind
  refine traced?_eq_some.mpr ⟨?_, _, hf⟩
  intro hempty
  -- the empty path would be the working directory, which is no file
  rw [hempty] at hf
  obtain ⟨e, he, ht⟩ := walkSteps_nil_ok hf
  rw [← (Target.found.inj ht).2] at he
  have hdir := hw.start (Route.ofPath "")
  rw [shapeAt_of_find? he] at hdir
  cases hdir

end Listed

/-! ## §3. Expanded paths -/

/-- Whether all that is below the directory that a path leads to can be listed: no directory there has
    a path, spelled from it, that is too long. -/
def Listable (fs : FileSystem) (path : ByteString) : Prop :=
  ∀ loc es rel, fs.entryAt path = .ok (loc, .directory es) → rel ≠ [] →
    fs.shapeAt (loc ++ rel) = some .directory →
    (rel.foldl Path.join path).size ≤ maxPathBytes

theorem listable_iff {fs : FileSystem} {path : ByteString} {loc : Location} {es : Entries}
    (he : fs.entryAt path = .ok (loc, .directory es)) : fs.Listable path ↔ ShortBelow path es := by
  constructor
  · intro h rel inner hne hfind
    exact h loc es rel he hne (shapeAt_of_find? (find?_listed he hfind))
  · intro h loc' es' rel he' hne hshape
    rw [he] at he'
    cases he'
    rw [shapeAt_below (entryAt_found he), Entries.shapeAt, Option.map_eq_some_iff] at hshape
    obtain ⟨e, hfind, hdir⟩ := hshape
    cases e with
    | directory inner => exact h rel inner hne hfind
    | _ => cases hdir

/-- What a path is that was found: it ends in a name, and if it is looked at it leads to a file. -/
structure Finds (fs : FileSystem) (t : ByteString) : Prop where
  /-- It ends in a name. -/
  named : ∃ name, Path.fileName? t = some name
  /-- It can be traced to a file. -/
  traced : ∃ loc content, fs.traced? t = some loc ∧ fs.find? loc = some (.file content)
  /-- It leads to a file, unless it is too long. -/
  leads : ∀ {r}, route t = .ok r → ∃ loc content, fs.entryAt t = .ok (loc, .file content)

theorem expand_cases {fs : FileSystem} (hw : fs.WellFormed) {path : ByteString} {files : List ByteString}
    (h : fs.expand path = .ok files) :
    (∃ loc content, fs.entryAt path = .ok (loc, .file content) ∧ files = [path])
      ∨ (∃ loc es, fs.entryAt path = .ok (loc, .directory es) ∧ fs.Listable path
          ∧ files = listing pythonExtension path es) := by
  unfold expand isFile isDirectory filesBelow at h
  cases he : fs.entryAt path with
  | error fault => simp [he] at h
  | ok found =>
      obtain ⟨loc, e⟩ := found
      cases e with
      | file content =>
          simp only [he, if_true] at h
          exact Or.inl ⟨loc, content, rfl, (Except.ok.inj h).symm⟩
      | directory es =>
          simp only [he, if_true, Bool.false_eq_true, if_false] at h
          cases hfiles : filesIn pythonExtension path es with
          | error directory => simp [hfiles] at h
          | ok listed =>
              rw [hfiles] at h
              cases h
              obtain ⟨hshort, hlisted⟩ := (filesIn_eq_ok_iff (hw.below (entryAt_found he))).mp hfiles
              exact Or.inr ⟨loc, es, rfl, (listable_iff he).mpr hshort, hlisted⟩
      | link target => simp [he] at h
      | device => simp [he] at h

theorem filesBelow_directory {fs : FileSystem} (hw : fs.WellFormed) (extension : String)
    {path : ByteString} {loc : Location} {es : Entries}
    (he : fs.entryAt path = .ok (loc, .directory es)) (hlist : fs.Listable path) :
    fs.filesBelow extension path = .ok (listing extension path es) := by
  have hfiles : filesIn extension path es = .ok (listing extension path es) :=
    (filesIn_eq_ok_iff (hw.below (entryAt_found he))).mpr ⟨(listable_iff he).mp hlist, rfl⟩
  unfold filesBelow
  simp only [he, hfiles]

/-- **A listing that fails** names a directory whose path is too long. -/
theorem filesBelow_error {fs : FileSystem} (hw : fs.WellFormed) {extension : String} {path : ByteString}
    {failure : Failure} (h : fs.filesBelow extension path = .error failure) :
    ∃ loc es rel, fs.entryAt path = .ok (loc, .directory es) ∧ rel ≠ []
      ∧ fs.shapeAt (loc ++ rel) = some .directory
      ∧ maxPathBytes < (rel.foldl Path.join path).size
      ∧ failure = .scanDirectory path (rel.foldl Path.join path) .nameTooLong := by
  unfold filesBelow at h
  split at h
  · rename_i loc es he
    split at h
    · cases h
    · rename_i directory hfiles
      cases h
      obtain ⟨rel, inner, hne, hfind, rfl, hlong⟩ :=
        filesIn_error es (hw.below (entryAt_found he)) hfiles
      exact ⟨loc, es, rel, he, hne, shapeAt_of_find? (find?_listed he hfind), hlong, rfl⟩
  · cases h

/-- A directory expands to what is listed below it, if it can be listed. -/
theorem expand_directory {fs : FileSystem} (hw : fs.WellFormed) {path : ByteString} {loc : Location}
    {es : Entries} (he : fs.entryAt path = .ok (loc, .directory es)) (hlist : fs.Listable path) :
    fs.expand path = .ok (listing pythonExtension path es) := by
  unfold expand isFile isDirectory
  simp only [he, if_true, Bool.false_eq_true, if_false, filesBelow_directory hw pythonExtension he hlist]

/-- **What a path expands to**: paths of files that start where it starts and go up only where it
    does; other paths than itself have the Python extension. -/
theorem mem_expand {fs : FileSystem} (hw : fs.WellFormed) {path t : ByteString} {files : List ByteString}
    (h : fs.expand path = .ok files) (ht : t ∈ files) :
    fs.Finds t ∧ (Route.ofPath t).fromRoot = (Route.ofPath path).fromRoot
      ∧ (.up ∉ Route.spelled path.toList → .up ∉ (Route.ofPath t).steps)
      ∧ ((t = path ∧ fs.isFile path = true) ∨ Path.hasExtension t pythonExtension = true) := by
  obtain ⟨loc, content, he, rfl⟩ | ⟨loc, es, he, -, rfl⟩ := expand_cases hw h
  · cases List.mem_singleton.mp ht
    have hfile : fs.isFile path = true := by
      unfold isFile
      rw [he]
    have hl : fs.locate? path = some loc := locate?_eq_some.mpr ⟨_, he⟩
    exact ⟨⟨fileName?_of_entryAt hw he Shape.noConfusion,
      ⟨loc, content, traced?_of_locate? hl, entryAt_found he⟩, fun _ => ⟨loc, content, he⟩⟩, rfl,
      Path.up_not_mem_steps, Or.inl ⟨rfl, hfile⟩⟩
  · have hthere := entryAt_found he
    have hes : entriesWellFormed es = true := hw.below hthere
    obtain ⟨rel, content, hne, hfind, rfl, hext⟩ := mem_listing es hes ht
    have hord := Entries.isOrdinary_of_find? hes hfind
    refine ⟨⟨⟨_, Path.fileName?_of_hasExtension hext⟩, ⟨_, content, traced?_listed hw he hne hfind,
      find?_listed he hfind⟩, ?_⟩, Path.fromRoot_foldl_join hord path, ?_, Or.inr hext⟩
    · intro r hr
      exact ⟨_, _, entryAt_listed hw he hne hfind hr⟩
    · intro hup hmem
      rw [Path.steps_foldl_join hord hne] at hmem
      rcases List.mem_append.mp hmem with hmem | hmem
      · exact hup hmem
      · obtain ⟨n, -, hn⟩ := List.mem_map.mp hmem
        cases hn

theorem expandAll_cons_iff {fs : FileSystem} {path : ByteString} {rest files : List ByteString} :
    fs.expandAll (path :: rest) = .ok files ↔
      ∃ part more, fs.expand path = .ok part ∧ fs.expandAll rest = .ok more
        ∧ files = part ++ more := by
  rw [expandAll]
  cases fs.expand path with
  | error failure => simp [bind, Except.bind]
  | ok part =>
      cases fs.expandAll rest with
      | error failure => simp [bind, Except.bind]
      | ok more => simp [bind, Except.bind, eq_comm]

theorem mem_expandAll {fs : FileSystem} {paths files : List ByteString}
    (h : fs.expandAll paths = .ok files) {t : ByteString} (ht : t ∈ files) :
    ∃ path ∈ paths, ∃ part, fs.expand path = .ok part ∧ t ∈ part := by
  induction paths generalizing files with
  | nil =>
      cases h
      exact absurd ht List.not_mem_nil
  | cons path rest ih =>
      obtain ⟨part, more, hpart, hmore, rfl⟩ := expandAll_cons_iff.mp h
      rcases List.mem_append.mp ht with ht | ht
      · exact ⟨path, List.mem_cons_self, part, hpart, ht⟩
      · obtain ⟨path', hmem, part', hpart', ht'⟩ := ih hmore ht
        exact ⟨path', List.mem_cons_of_mem path hmem, part', hpart', ht'⟩

theorem mem_expandAll_of_mem {fs : FileSystem} {paths files : List ByteString}
    (h : fs.expandAll paths = .ok files) {path : ByteString} (hpath : path ∈ paths) {part : List ByteString}
    (hpart : fs.expand path = .ok part) {t : ByteString} (ht : t ∈ part) : t ∈ files := by
  induction paths generalizing files with
  | nil => exact absurd hpath List.not_mem_nil
  | cons first rest ih =>
      obtain ⟨own, more, hown, hmore, rfl⟩ := expandAll_cons_iff.mp h
      rcases List.mem_cons.mp hpath with rfl | hpath
      · cases hown.symm.trans hpart
        exact List.mem_append_left more ht
      · exact List.mem_append_right own (ih hmore hpath)

/-! ## §4. Each file once -/

theorem firstSpellings_sublist (fs : FileSystem) (seen paths : List ByteString) :
    (fs.firstSpellings seen paths).Sublist paths := by
  induction paths generalizing seen with
  | nil => exact List.Sublist.slnil
  | cons path rest ih =>
      simp only [firstSpellings]
      split
      · exact (ih _).cons path
      · exact (ih _).cons_cons path

theorem identity_not_mem_seen {fs : FileSystem} {seen paths : List ByteString} {t : ByteString}
    (ht : t ∈ fs.firstSpellings seen paths) : fs.identity t ∉ seen := by
  induction paths generalizing seen with
  | nil => exact absurd ht List.not_mem_nil
  | cons path rest ih =>
      simp only [firstSpellings] at ht
      split at ht
      · exact ih ht
      · rename_i hseen
        rcases List.mem_cons.mp ht with rfl | ht
        · simpa using hseen
        · exact fun hmem => ih ht (List.mem_cons_of_mem _ hmem)

/-- Of all spellings with one identity the first is kept. -/
theorem eq_of_identity_eq {fs : FileSystem} {seen paths : List ByteString} {a b : ByteString}
    (ha : a ∈ fs.firstSpellings seen paths) (hb : b ∈ fs.firstSpellings seen paths)
    (h : fs.identity a = fs.identity b) : a = b := by
  induction paths generalizing seen with
  | nil => exact absurd ha List.not_mem_nil
  | cons path rest ih =>
      simp only [firstSpellings] at ha hb
      split at ha
      · rename_i hseen
        rw [if_pos hseen] at hb
        exact ih ha hb
      · rename_i hseen
        rw [if_neg hseen] at hb
        -- the identity of a kept path is seen from then on, so no later one has it
        rcases List.mem_cons.mp ha with rfl | ha <;> rcases List.mem_cons.mp hb with rfl | hb
        · rfl
        · exact absurd (h ▸ List.mem_cons_self) (identity_not_mem_seen hb)
        · exact absurd (h ▸ List.mem_cons_self) (identity_not_mem_seen ha)
        · exact ih ha hb

theorem firstSpellings_nodup (fs : FileSystem) (seen paths : List ByteString) :
    (fs.firstSpellings seen paths).Nodup := by
  induction paths generalizing seen with
  | nil => exact List.nodup_nil
  | cons path rest ih =>
      simp only [firstSpellings]
      split
      · exact ih seen
      · refine List.nodup_cons.mpr ⟨?_, ih _⟩
        intro hmem
        exact identity_not_mem_seen hmem List.mem_cons_self

/-- A spelling of every file is kept. -/
theorem exists_mem_firstSpellings {fs : FileSystem} {seen paths : List ByteString} {t : ByteString}
    (ht : t ∈ paths) (hseen : fs.identity t ∉ seen) :
    ∃ u ∈ fs.firstSpellings seen paths, fs.identity u = fs.identity t := by
  induction paths generalizing seen with
  | nil => exact absurd ht List.not_mem_nil
  | cons path rest ih =>
      simp only [firstSpellings]
      split
      · rename_i hpath
        rcases List.mem_cons.mp ht with rfl | ht
        · exact absurd (List.contains_iff_mem.mp hpath) hseen
        · exact ih ht hseen
      · by_cases hsame : fs.identity t = fs.identity path
        · exact ⟨path, List.mem_cons_self, hsame.symm⟩
        · -- the path that is kept here is a spelling of another file
          have hlater : t ∈ rest := by
            rcases List.mem_cons.mp ht with rfl | ht
            · exact absurd rfl hsame
            · exact ht
          obtain ⟨u, hu, hidentity⟩ :=
            ih hlater (List.not_mem_cons_of_ne_of_not_mem hsame hseen)
          exact ⟨u, List.mem_cons_of_mem path hu, hidentity⟩

theorem collect_eq_ok_iff {fs : FileSystem} {filter : FilterSettings} {paths sources : List ByteString} :
    fs.collect filter paths = .ok sources ↔
      ∃ files, fs.expandAll paths = .ok files
        ∧ sources = fs.firstSpellings [] (files.filter filter.accepts) := by
  unfold collect
  cases fs.expandAll paths with
  | error failure => simp [bind, Except.bind]
  | ok files => simp [bind, Except.bind, eq_comm]

/-- A collection fails where an expansion does. -/
theorem collect_eq_error_iff {fs : FileSystem} {filter : FilterSettings} {paths : List ByteString}
    {failure : Failure} :
    fs.collect filter paths = .error failure ↔ fs.expandAll paths = .error failure := by
  unfold collect
  cases fs.expandAll paths <;> simp [bind, Except.bind]

section Collected

variable {fs : FileSystem} {filter : FilterSettings} {paths sources : List ByteString}
  (h : fs.collect filter paths = .ok sources)
include h

/-- **A collected path** was accepted and comes from one of the paths that were asked for. -/
theorem mem_collect {t : ByteString} (ht : t ∈ sources) :
    filter.accepts t = true ∧ ∃ path ∈ paths, ∃ part, fs.expand path = .ok part ∧ t ∈ part := by
  obtain ⟨files, hfiles, rfl⟩ := collect_eq_ok_iff.mp h
  obtain ⟨hmem, haccepts⟩ :=
    List.mem_filter.mp ((firstSpellings_sublist fs [] _).subset ht)
  exact ⟨haccepts, mem_expandAll hfiles hmem⟩

/-- A collected path leads to a file, unless it is too long. -/
theorem finds_of_mem_collect (hw : fs.WellFormed) {t : ByteString} (ht : t ∈ sources) : fs.Finds t := by
  obtain ⟨-, path, -, part, hpart, hmem⟩ := mem_collect h ht
  exact (mem_expand hw hpart hmem).1

/-- **A spelling of every accepted file is collected.** -/
theorem exists_mem_collect {path : ByteString} (hpath : path ∈ paths) {part : List ByteString}
    (hpart : fs.expand path = .ok part) {t : ByteString} (ht : t ∈ part)
    (haccepts : filter.accepts t = true) : ∃ u ∈ sources, fs.identity u = fs.identity t := by
  obtain ⟨files, hfiles, rfl⟩ := collect_eq_ok_iff.mp h
  have hmem : t ∈ files.filter filter.accepts :=
    List.mem_filter.mpr ⟨mem_expandAll_of_mem hfiles hpath hpart ht, haccepts⟩
  exact exists_mem_firstSpellings hmem List.not_mem_nil

theorem nodup_collect : sources.Nodup := by
  obtain ⟨files, -, rfl⟩ := collect_eq_ok_iff.mp h
  exact firstSpellings_nodup fs [] _

theorem eq_of_identity_collect {a b : ByteString} (ha : a ∈ sources) (hb : b ∈ sources)
    (hsame : fs.identity a = fs.identity b) : a = b := by
  obtain ⟨files, -, rfl⟩ := collect_eq_ok_iff.mp h
  exact eq_of_identity_eq ha hb hsame

/-- **Two collected paths do not have one canonical path.** -/
theorem eq_of_canonical_collect {a b : ByteString} (ha : a ∈ sources) (hb : b ∈ sources) {c : ByteString}
    (hca : fs.canonical? a = some c) (hcb : fs.canonical? b = some c) : a = b := by
  refine eq_of_identity_collect h ha hb ?_
  rw [identity_of_canonical? hca, identity_of_canonical? hcb]

end Collected

end FileSystem

end TestScaffold
