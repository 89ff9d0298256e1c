/-
  TestScaffold.Proofs.Discovery.FirstSpelling — what a batch consists of, said without a loop.

  A path stands for the files that it expands to.  Acceptance looks at the spelling of such
  a candidate, repetition at its identity, so that a file whose first spelling is rejected is
  still kept under a later one:

    * `canonical?_candidate` — the identity of a candidate is its canonical path, unless a path on
      the way to it is too long; then it has none;
    * `firstSpellings_eq` — the loop over the candidates keeps the accepted ones whose identity
      no accepted candidate before them has;
    * `collect_keeps_first_spellings` — so does a collection, unless a path leads nowhere or a
      directory cannot be listed; then the first such path is named;
    * `collect_keeps_two_spellings` — where a file has no canonical path, two spellings are kept.
-/
import TestScaffold.Proofs.Discovery.LongPaths

namespace TestScaffold.FileSystem

/-! ## §1. Candidates -/

/-- Whether a path leads to a file or to a directory. -/
def leads (fs : FileSystem) (path : ByteString) : Bool :=
  fs.isFile path || fs.isDirectory path

/-- Whether a path leads to a file, or to a directory that can be listed. -/
def Opens (fs : FileSystem) (path : ByteString) : Prop :=
  fs.leads path = true ∧ ∃ files, fs.filesBelow pythonExtension path = .ok files

/-- The candidates that a path stands for: the file itself, or the Python files below it. -/
def expansion (fs : FileSystem) (path : ByteString) : List ByteString :=
  if fs.isFile path then [path] else (fs.filesBelow pythonExtension path).toOption.getD []

theorem expand_of_opens {fs : FileSystem} {path : ByteString} (h : fs.Opens path) :
    fs.expand path = .ok (fs.expansion path) := by
  obtain ⟨hleads, files, hfiles⟩ := h
  unfold expand expansion
  unfold leads at hleads
  by_cases hfile : fs.isFile path = true
  · simp only [hfile, if_true]
  · have hdir : fs.isDirectory path = true := by simpa [hfile] using hleads
    simp only [hfile, hdir, hfiles, if_true, Bool.false_eq_true, if_false]
    rfl

theorem expand_of_not_leads {fs : FileSystem} {path : ByteString} (h : fs.leads path = false) :
    fs.expand path = .error (.invalidPath path) := by
  unfold expand
  unfold leads at h
  obtain ⟨hfile, hdir⟩ := Bool.or_eq_false_iff.mp h
  simp only [hfile, hdir, Bool.false_eq_true, if_false]

/-- A path that is too long leads nowhere. -/
theorem leads_of_long {fs : FileSystem} {t : ByteString} (h : maxPathBytes < t.size) :
    fs.leads t = false := by
  have hentry : ∃ fault, fs.entryAt t = .error fault := by
    cases he : fs.entryAt t with
    | error fault => exact ⟨fault, rfl⟩
    | ok found =>
        obtain ⟨-, -, hsize, -⟩ := route_ok_iff.mp (resolve_eq_follow (entryAt_iff.mp he)).1
        omega
  obtain ⟨fault, he⟩ := hentry
  unfold leads isFile isDirectory
  rw [he]
  rfl

/-- Why a path has no expansion: it leads nowhere, or what is below it cannot be listed. -/
def Refuses (fs : FileSystem) (path : ByteString) (failure : Failure) : Prop :=
  (fs.leads path = false ∧ failure = .invalidPath path)
    ∨ fs.filesBelow pythonExtension path = .error failure

/-- Only a directory fails to be listed. -/
theorem isDirectory_of_filesBelow_error {fs : FileSystem} {path : ByteString} {failure : Failure}
    (h : fs.filesBelow pythonExtension path = .error failure) :
    fs.isFile path = false ∧ fs.isDirectory path = true := by
  unfold filesBelow at h
  unfold isFile isDirectory
  split at h
  · rename_i loc es heq
    rw [heq]
    exact ⟨rfl, rfl⟩
  · cases h

/-- What is reported then is the directory that could not be listed. -/
theorem scanDirectory_of_filesBelow_error {fs : FileSystem} {path : ByteString} {failure : Failure}
    (h : fs.filesBelow pythonExtension path = .error failure) :
    ∃ directory, failure = .scanDirectory path directory .nameTooLong := by
  unfold filesBelow at h
  split at h
  · split at h
    · cases h
    · rename_i directory hfiles
      cases h
      exact ⟨directory, rfl⟩
  · cases h

theorem expand_error_iff {fs : FileSystem} {path : ByteString} {failure : Failure} :
    fs.expand path = .error failure ↔ fs.Refuses path failure := by
  unfold Refuses
  cases hleads : fs.leads path with
  | false =>
      rw [expand_of_not_leads hleads]
      have hlisted : fs.filesBelow pythonExtension path ≠ .error failure := by
        intro h
        obtain ⟨-, hdir⟩ := isDirectory_of_filesBelow_error h
        simp [leads, hdir] at hleads
      simp [hlisted, eq_comm]
  | true =>
      cases hlisted : fs.filesBelow pythonExtension path with
      | ok files =>
          rw [expand_of_opens ⟨hleads, files, hlisted⟩]
          simp
      | error other =>
          obtain ⟨hfile, hdir⟩ := isDirectory_of_filesBelow_error hlisted
          unfold expand
          simp [hfile, hdir, hlisted]

theorem expandAll_of_opens {fs : FileSystem} {paths : List ByteString}
    (h : ∀ p ∈ paths, fs.Opens p) : fs.expandAll paths = .ok (paths.flatMap fs.expansion) := by
  induction paths with
  | nil => rfl
  | cons path rest ih =>
      have hrest := ih fun p hp => h p (List.mem_cons_of_mem path hp)
      refine expandAll_cons_iff.mpr ⟨_, _, expand_of_opens (h path List.mem_cons_self), hrest, ?_⟩
      exact List.flatMap_cons

/-- A path is opened, or it is refused for one reason. -/
theorem opens_or_refuses (fs : FileSystem) (path : ByteString) :
    fs.Opens path ∨ ∃ failure, fs.expand path = .error failure := by
  cases h : fs.expand path with
  | error failure => exact Or.inr ⟨failure, rfl⟩
  | ok files =>
      refine Or.inl ⟨?_, ?_⟩
      · rw [← Bool.not_eq_false]
        intro hleads
        rw [expand_of_not_leads hleads] at h
        cases h
      · cases hlisted : fs.filesBelow pythonExtension path with
        | ok files => exact ⟨files, rfl⟩
        | error failure =>
            rw [expand_error_iff.mpr (Or.inr hlisted)] at h
            cases h

/-- **What is opened**: a file, or a directory below which everything can be listed. -/
theorem opens_iff {fs : FileSystem} (hw : fs.WellFormed) {path : ByteString} :
    fs.Opens path ↔ fs.leads path = true ∧ fs.Listable path := by
  refine and_congr_right fun hleads => ?_
  constructor
  · rintro ⟨files, hfiles⟩ loc es rel he hne hdir
    refine (listable_iff he).mpr ?_ loc es rel he hne hdir
    unfold filesBelow at hfiles
    simp only [he] at hfiles
    split at hfiles
    · rename_i listed hlisted
      exact ((filesIn_eq_ok_iff (hw.below (entryAt_found he))).mp hlisted).1
    · cases hfiles
  · intro hlist
    cases hlisted : fs.filesBelow pythonExtension path with
    | ok files => exact ⟨files, rfl⟩
    | error failure =>
        obtain ⟨loc, es, rel, he, hne, hdir, hlong, -⟩ := filesBelow_error hw hlisted
        exact absurd (hlist loc es rel he hne hdir) (Nat.not_le_of_lt hlong)

theorem leads_grows {fs fs' : FileSystem} (hg : Grows fs fs') {path : ByteString}
    (h : fs.leads path = true) : fs'.leads path = true := by
  unfold leads isFile isDirectory at h ⊢
  cases he : fs.entryAt path with
  | error fault => simp [he] at h
  | ok found =>
      obtain ⟨loc, e⟩ := found
      cases e with
      | file content =>
          obtain ⟨content', he'⟩ := entryAt_file_grows hg he
          simp [he']
      | directory es =>
          obtain ⟨es', he'⟩ := entryAt_directory_grows hg he
          simp [he']
      | link target => simp [he] at h
      | device => simp [he] at h

/-- A path that was opened and leads to a directory now has led there before. -/
theorem entryAt_directory_of_grows {fs fs' : FileSystem} (hg : Grows fs fs') {path : ByteString}
    (h : fs.leads path = true) {loc : Location} {es' : Entries}
    (he' : fs'.entryAt path = .ok (loc, .directory es')) :
    ∃ es, fs.entryAt path = .ok (loc, .directory es) := by
  unfold leads isFile isDirectory at h
  cases he : fs.entryAt path with
  | error fault => simp [he] at h
  | ok found =>
      obtain ⟨l, e⟩ := found
      cases e with
      | file content =>
          obtain ⟨content', hfile⟩ := entryAt_file_grows hg he
          rw [he'] at hfile
          cases hfile
      | directory es =>
          obtain ⟨es'', hdir⟩ := entryAt_directory_grows hg he
          rw [he'] at hdir
          cases hdir
          exact ⟨es, rfl⟩
      | link target => simp [he] at h
      | device => simp [he] at h

theorem Opens.not_refuses {fs : FileSystem} {path : ByteString} (h : fs.Opens path)
    (failure : Failure) : ¬ fs.Refuses path failure := by
  rw [← expand_error_iff, expand_of_opens h]
  exact nofun

theorem opens_of_expand {fs : FileSystem} {path : ByteString} {files : List ByteString}
    (h : fs.expand path = .ok files) : fs.Opens path := by
  rcases fs.opens_or_refuses path with hopens | ⟨failure, hfailure⟩
  · exact hopens
  · rw [h] at hfailure
    cases hfailure

/-- Where all paths together are expanded, each of them is opened. -/
theorem opens_of_expandAll {fs : FileSystem} {paths files : List ByteString}
    (h : fs.expandAll paths = .ok files) {p : ByteString} (hp : p ∈ paths) : fs.Opens p := by
  induction paths generalizing files with
  | nil => exact absurd hp List.not_mem_nil
  | cons path rest ih =>
      obtain ⟨own, more, hown, hmore, -⟩ := expandAll_cons_iff.mp h
      rcases List.mem_cons.mp hp with rfl | hp
      · exact opens_of_expand hown
      · exact ih hmore hp

/-- The first path that is refused is the one that is named. -/
theorem expandAll_error_iff {fs : FileSystem} {paths : List ByteString} {failure : Failure} :
    fs.expandAll paths = .error failure ↔
      ∃ before p after, paths = before ++ p :: after ∧ (∀ q ∈ before, fs.Opens q)
        ∧ fs.Refuses p failure := by
  induction paths with
  | nil =>
      constructor
      · intro h
        cases h
      · rintro ⟨before, p, after, hsplit, -⟩
        simp at hsplit
  | cons path rest ih =>
      rcases fs.opens_or_refuses path with hopens | ⟨own, hown⟩
      · have hstep : fs.expandAll (path :: rest) = .error failure
            ↔ fs.expandAll rest = .error failure := by
          rw [expandAll, expand_of_opens hopens]
          cases fs.expandAll rest <;> simp [bind, Except.bind]
        rw [hstep, ih]
        constructor
        · rintro ⟨before, p, after, rfl, hbefore, hp⟩
          exact ⟨path :: before, p, after, rfl, List.forall_mem_cons.mpr ⟨hopens, hbefore⟩, hp⟩
        · rintro ⟨before, p, after, hsplit, hbefore, hp⟩
          cases before with
          | nil =>
              rw [List.nil_append] at hsplit
              rw [← (List.cons.inj hsplit).1] at hp
              exact absurd hp (hopens.not_refuses failure)
          | cons q before =>
              exact ⟨before, p, after, (List.cons.inj hsplit).2,
                (List.forall_mem_cons.mp hbefore).2, hp⟩
      · -- the failure is about this path, and no split has it among the good ones
        have herror : fs.expandAll (path :: rest) = .error own := by
          rw [expandAll, hown]
          rfl
        rw [herror]
        constructor
        · intro h
          cases h
          exact ⟨[], path, rest, rfl, by simp, expand_error_iff.mp hown⟩
        · rintro ⟨before, p, after, hsplit, hbefore, hp⟩
          cases before with
          | nil =>
              rw [List.nil_append] at hsplit
              rw [← (List.cons.inj hsplit).1, ← expand_error_iff, hown] at hp
              exact hp
          | cons q before =>
              rw [List.cons_append] at hsplit
              have hopens := (List.forall_mem_cons.mp hbefore).1
              rw [← (List.cons.inj hsplit).1] at hopens
              exact absurd (expand_error_iff.mp hown) (hopens.not_refuses own)

/-- **The identity of a candidate** is its canonical path, also below a link and however long it is
    spelled, unless a path on the way to it is too long; then it is the lexical normal form. -/
theorem canonical?_candidate {fs : FileSystem} (hw : fs.WellFormed) {paths : List ByteString}
    (h : ∀ p ∈ paths, fs.Opens p) {t : ByteString} (ht : t ∈ paths.flatMap fs.expansion) :
    (fs.isTraceable t = true → fs.canonical? t = some (fs.identity t))
      ∧ (fs.isTraceable t = false → fs.canonical? t = none ∧ fs.identity t = Path.clean t) := by
  obtain ⟨path, hpath, hmem⟩ := List.mem_flatMap.mp ht
  obtain ⟨loc, -, hloc, -⟩ := (mem_expand hw (expand_of_opens (h path hpath)) hmem).1.traced
  constructor
  · intro htraceable
    have hc := canonical?_of_traced? hloc htraceable
    rw [identity_of_canonical? hc, hc]
  · intro hlong
    have hnone := canonical?_of_not_isTraceable hlong
    exact ⟨hnone, identity_of_canonical?_none hnone⟩

/-! ## §2. First spellings -/

/-- Whether the candidate `t` at position `i` is kept: it is accepted, and no accepted candidate
    before it has its identity. -/
def keepsAt (fs : FileSystem) (filter : FilterSettings) (files : List ByteString) (t : ByteString)
    (i : Nat) : Bool :=
  filter.accepts t
    && (files.take i).all fun u => !(filter.accepts u && fs.identity u == fs.identity t)

/-- The candidates that are kept, in order. -/
def firstAccepted (fs : FileSystem) (filter : FilterSettings) (files : List ByteString) : List ByteString :=
  (files.zipIdx.filter fun (t, i) => fs.keepsAt filter files t i).map Prod.fst

section FirstSpellings

variable {fs : FileSystem} {filter : FilterSettings} {files : List ByteString}

theorem keepsAt_iff {t : ByteString} {i : Nat} :
    fs.keepsAt filter files t i = true
      ↔ filter.accepts t = true
        ∧ ∀ u ∈ files.take i, filter.accepts u = true → fs.identity u ≠ fs.identity t := by
  unfold keepsAt
  rw [Bool.and_eq_true, List.all_eq_true]
  refine and_congr_right fun _ => forall_congr' fun u => imp_congr_right fun _ => ?_
  cases filter.accepts u <;> simp

/-- The loop, from any point on: the identities seen are those of the accepted candidates before. -/
theorem firstSpellings_from (before : List ByteString) {rest seen : List ByteString}
    (hfiles : files = before ++ rest)
    (hseen : ∀ key, key ∈ seen ↔ ∃ u ∈ before, filter.accepts u = true ∧ fs.identity u = key) :
    fs.firstSpellings seen (rest.filter filter.accepts)
      = ((rest.zipIdx before.length).filter fun (t, i) => fs.keepsAt filter files t i).map
          Prod.fst := by
  induction rest generalizing before seen with
  | nil => rfl
  | cons t rest ih =>
      have hnext : files = (before ++ [t]) ++ rest := by simpa using hfiles
      have htake : files.take before.length = before := by simp [hfiles]
      -- what is seen after this candidate
      have hlater : ∀ key, (∃ u ∈ before ++ [t], filter.accepts u = true ∧ fs.identity u = key)
          ↔ key ∈ seen ∨ (filter.accepts t = true ∧ fs.identity t = key) := by
        intro key
        rw [hseen]
        simp [or_and_right, exists_or]
      have hkeeps : fs.keepsAt filter files t before.length = true
          ↔ filter.accepts t = true ∧ fs.identity t ∉ seen := by
        rw [keepsAt_iff, htake, hseen]
        simp
      rw [List.zipIdx_cons, List.filter_cons]
      by_cases haccepts : filter.accepts t = true
      · rw [if_pos haccepts, firstSpellings, List.filter_cons]
        by_cases hmem : fs.identity t ∈ seen
        · -- an accepted candidate whose identity was seen is dropped
          have hdrop : fs.keepsAt filter files t before.length = false := by
            rw [← Bool.not_eq_true, hkeeps]
            exact fun hnot => hnot.2 hmem
          simp only [List.contains_iff_mem, hmem, hdrop, if_true, Bool.false_eq_true, if_false]
          rw [ih _ hnext, List.length_append, List.length_singleton]
          intro key
          rw [hlater]
          constructor
          · exact Or.inl
          · rintro (hkey | ⟨-, rfl⟩)
            · exact hkey
            · exact hmem
        · simp only [List.contains_iff_mem, hmem, hkeeps.mpr ⟨haccepts, hmem⟩, if_true, if_false,
            List.map_cons]
          rw [ih _ hnext, List.length_append, List.length_singleton]
          intro key
          rw [hlater, List.mem_cons, or_comm, eq_comm]
          simp only [haccepts, true_and]
      · -- a rejected candidate leaves no trace, so a later spelling can still be kept
        have hdrop : fs.keepsAt filter files t before.length = false := by
          simp [keepsAt, haccepts]
        rw [if_neg haccepts, List.filter_cons]
        simp only [hdrop, Bool.false_eq_true, if_false]
        rw [ih _ hnext, List.length_append, List.length_singleton]
        intro key
        rw [hlater]
        simp only [haccepts, Bool.false_eq_true, false_and, or_false]

/-- **The loop keeps the first accepted spelling of each identity.** -/
theorem firstSpellings_eq :
    fs.firstSpellings [] (files.filter filter.accepts) = fs.firstAccepted filter files :=
  firstSpellings_from [] rfl (by simp)

end FirstSpellings

theorem firstAccepted_sublist (fs : FileSystem) (filter : FilterSettings) (files : List ByteString) :
    (fs.firstAccepted filter files).Sublist files := by
  have hsub := (List.filter_sublist (l := files.zipIdx)
    (p := fun (t, i) => fs.keepsAt filter files t i)).map Prod.fst
  simpa [firstAccepted] using hsub

theorem accepts_of_mem_firstAccepted {fs : FileSystem} {filter : FilterSettings}
    {files : List ByteString} {t : ByteString} (h : t ∈ fs.firstAccepted filter files) :
    filter.accepts t = true := by
  obtain ⟨⟨u, i⟩, hmem, rfl⟩ := List.mem_map.mp h
  have hkeeps := (List.mem_filter.mp hmem).2
  exact (Bool.and_eq_true_iff.mp hkeeps).1

/-- No two kept candidates have one identity. -/
theorem firstAccepted_pairwise (fs : FileSystem) (filter : FilterSettings) (files : List ByteString) :
    (fs.firstAccepted filter files).Pairwise fun a b => fs.identity a ≠ fs.identity b := by
  unfold firstAccepted
  rw [List.pairwise_map, List.pairwise_filter]
  -- positions increase along the list, and a kept candidate looks at all positions before its own
  have hpositions : files.zipIdx.Pairwise fun a b => a.2 < b.2 := by
    rw [List.pairwise_iff_getElem]
    intro i j hi hj hij
    simpa using hij
  refine hpositions.imp_of_mem ?_
  rintro ⟨a, i⟩ ⟨b, j⟩ ha hb hij hkeepsA hkeepsB
  have hmem : a ∈ files.take j := by
    refine List.mem_take_iff_getElem.mpr ?_
    have hget := List.mem_zipIdx_iff_getElem?.mp ha
    obtain ⟨hlt, hval⟩ := List.getElem?_eq_some_iff.mp hget
    exact ⟨i, by simp only at hij; omega, hval⟩
  exact (keepsAt_iff.mp hkeepsB).2 a hmem (keepsAt_iff.mp hkeepsA).1

/-! ## §3. Collection -/

/-- **A collection is the ordered filter without repetitions.**  It fails exactly if a path leads to
    neither a file nor a directory, or to a directory that cannot be listed, and it names the first
    such path.  Otherwise it is the part of the candidates, taken in the order of the paths, that
    are accepted and whose identity no accepted candidate before them has; no two of them have one
    canonical path.  The identity of a candidate is its canonical path, and its lexical normal form
    if a path on the way to it is too long; where that is so for no accepted candidate, canonical
    paths alone are compared. -/
theorem collect_keeps_first_spellings {fs : FileSystem} (hw : fs.WellFormed)
    (filter : FilterSettings) (paths : List ByteString) :
    (∀ failure, fs.collect filter paths = .error failure ↔
        ∃ before p after, paths = before ++ p :: after ∧ (∀ q ∈ before, fs.Opens q)
          ∧ fs.Refuses p failure)
      ∧ ((∀ p ∈ paths, fs.Opens p) →
        ∃ sources, fs.collect filter paths = .ok sources
          ∧ sources = fs.firstAccepted filter (paths.flatMap fs.expansion)
          ∧ sources.Sublist (paths.flatMap fs.expansion)
          ∧ (∀ t ∈ sources, filter.accepts t = true)
          ∧ sources.Pairwise (fun a b => ∀ c, fs.canonical? a = some c → fs.canonical? b ≠ some c)
          ∧ (∀ t ∈ paths.flatMap fs.expansion,
              (fs.isTraceable t = true → fs.canonical? t = some (fs.identity t))
                ∧ (fs.isTraceable t = false →
                    fs.canonical? t = none ∧ fs.identity t = Path.clean t))
          ∧ ((∀ t ∈ paths.flatMap fs.expansion, filter.accepts t = true →
                fs.isTraceable t = true) →
              ∀ t i, (paths.flatMap fs.expansion)[i]? = some t →
                (fs.keepsAt filter (paths.flatMap fs.expansion) t i = true
                  ↔ filter.accepts t = true
                    ∧ ∀ u ∈ (paths.flatMap fs.expansion).take i, filter.accepts u = true →
                        fs.canonical? u ≠ fs.canonical? t))) := by
  refine ⟨fun failure => by rw [← expandAll_error_iff, collect_eq_error_iff], fun hopens => ?_⟩
  have hcandidate := fun t ht => canonical?_candidate hw hopens (t := t) ht
  refine ⟨_, collect_eq_ok_iff.mpr ⟨_, expandAll_of_opens hopens, firstSpellings_eq.symm⟩, rfl,
    firstAccepted_sublist fs filter _, fun t => accepts_of_mem_firstAccepted, ?_, hcandidate, ?_⟩
  · refine (firstAccepted_pairwise fs filter _).imp fun {a b} hne c ha hb => hne ?_
    rw [identity_of_canonical? ha, identity_of_canonical? hb]
  · intro htraceable t i hi
    rw [keepsAt_iff]
    refine and_congr_right fun ht => forall_congr' fun u => imp_congr_right fun hu =>
      imp_congr_right fun haccepts => ?_
    have hmem := List.mem_of_getElem? hi
    have hmem' := List.mem_of_mem_take hu
    rw [(hcandidate t hmem).1 (htraceable t hmem ht),
      (hcandidate u hmem').1 (htraceable u hmem' haccepts), ne_eq, ne_eq, Option.some_inj]

/-- A module that can also be reached by a link with an ignored name. -/
def linked : FileSystem :=
  { top := [("app", .directory [("a.py", .file .empty)]), ("tests", .link "app")] }

theorem collect_keeps_first_spellings_linked :
    linked.WellFormed ∧ (∀ p ∈ (["tests", "app", "./app"] : List ByteString), linked.Opens p)
      ∧ linked.firstAccepted {} ((["tests", "app", "./app"] : List ByteString).flatMap linked.expansion)
        = ["app/a.py"]
      ∧ ∃ sources, linked.collect {} ["tests", "app", "./app"] = .ok sources
        ∧ sources = linked.firstAccepted {} ((["tests", "app", "./app"] : List ByteString).flatMap linked.expansion) := by
  have hw : linked.WellFormed := ⟨by decide +kernel, by decide +kernel⟩
  have hopens : ∀ p ∈ (["tests", "app", "./app"] : List ByteString), linked.Opens p := by
    intro p hp
    rcases List.mem_cons.mp hp with rfl | hp
    · exact ⟨by decide +kernel, _, rfl⟩
    rcases List.mem_cons.mp hp with rfl | hp
    · exact ⟨by decide +kernel, _, rfl⟩
    · cases List.mem_singleton.mp hp
      exact ⟨by decide +kernel, _, rfl⟩
  obtain ⟨sources, hcollect, heq, -⟩ :=
    (collect_keeps_first_spellings hw {} ["tests", "app", "./app"]).2 hopens
  exact ⟨hw, hopens, by decide +kernel, sources, hcollect, heq⟩

/-- **The first spelling of a file is not always the only one that is kept.**  In a deep directory a
    module has no canonical path; so the module and a link to it have different identities, their
    normal forms, and both are kept.  And a spelling of a directory that is too long is refused. -/
theorem collect_keeps_two_spellings :
    cellar.locate? "a.py" = some (cellar.cwd ++ (["a.py"] : Location))
      ∧ cellar.locate? "b.py" = some (cellar.cwd ++ (["a.py"] : Location))
      ∧ cellar.canonical? "b.py" = none ∧ cellar.identity "b.py" = Path.clean "b.py"
      ∧ cellar.collect {} ["a.py", "b.py"] = .ok ["a.py", "b.py"]
      ∧ nested.isDirectory "d" = true
      ∧ nested.collect {} [Path.padded "d" 5000] = .error (.invalidPath (Path.padded "d" 5000)) := by
  have ha := identity_of_canonical?_none (canonical?_cellar entryAt_cellar_module)
  have hb := identity_of_canonical?_none (canonical?_cellar entryAt_cellar_link)
  refine ⟨locate?_eq_some.mpr ⟨_, entryAt_cellar_module⟩,
    locate?_eq_some.mpr ⟨_, entryAt_cellar_link⟩, canonical?_cellar entryAt_cellar_link, hb, ?_,
    by decide, ?_⟩
  · refine collect_eq_ok_iff.mpr ⟨["a.py", "b.py"], ?_, ?_⟩
    · have hfile : ∀ {path}, cellar.entryAt path = .ok (cellar.cwd ++ (["a.py"] : Location), .file .empty) →
          cellar.expand path = .ok [path] := by
        intro path h
        unfold expand isFile
        rw [h]
        rfl
      exact expandAll_cons_iff.mpr ⟨_, _, hfile entryAt_cellar_module,
        expandAll_cons_iff.mpr ⟨_, _, hfile entryAt_cellar_link, rfl, rfl⟩, rfl⟩
    · have hfilter : (["a.py", "b.py"] : List ByteString).filter ({} : FilterSettings).accepts = ["a.py", "b.py"] := by
        decide +kernel
      have hdiffer : Path.clean "b.py" ≠ Path.clean "a.py" := by decide
      rw [hfilter]
      simp [firstSpellings, ha, hb, hdiffer]
  · refine collect_eq_error_iff.mpr (expandAll_error_iff.mpr ⟨[], _, [], rfl, by simp, Or.inl ⟨?_, rfl⟩⟩)
    exact leads_of_long (by rw [Path.size_padded]; decide)

end TestScaffold.FileSystem
