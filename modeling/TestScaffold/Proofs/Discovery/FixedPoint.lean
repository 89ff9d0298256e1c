/-
  TestScaffold.Proofs.Discovery.FixedPoint — collecting what was collected.

  A source is spelled as it was asked for, or as the path of a directory with names behind it.
  Both lead to the file again, so a batch that is asked for collects itself; only a spelling
  that is too long to be looked at, which a listed path can be, leads nowhere:

    * `FileSystem.ZeroFree` — names as a path can spell them;
    * `expand_short` — what a source expands to;
    * `firstSpellings_again`, `firstSpellings_append` — first spellings are their own, and what
      is spelled again behind them adds nothing;
    * `collect_fixed_point` — so it is with a batch;
    * `listed_not_collected` — a listed path that is too long.
-/
import TestScaffold.Proofs.Discovery.FirstSpelling
import TestScaffold.Proofs.Discovery.LongPaths

namespace TestScaffold

/-! ## §1. Names that a path can spell -/

mutual

/-- Whether no name below an entry has a zero byte. -/
def Entry.isZeroFree : Entry → Bool
  | .directory es => entriesZeroFree es
  | _ => true

/-- Whether no name of entries has one, and so on below them. -/
def entriesZeroFree : List (ByteString × Entry) → Bool
  | [] => true
  | (name, entry) :: rest =>
    !name.toList.contains (0) && entry.isZeroFree && entriesZeroFree rest

end

namespace Entries

theorem zeroFree_of_mem {es : Entries} {n : ByteString} {e : Entry}
    (h : entriesZeroFree es = true) (hm : (n, e) ∈ es) :
    0 ∉ n.toList ∧ e.isZeroFree = true := by
  induction es with
  | nil => exact absurd hm List.not_mem_nil
  | cons p es ih =>
      obtain ⟨m, f⟩ := p
      simp only [entriesZeroFree, Bool.and_eq_true] at h
      obtain ⟨⟨hzero, hf⟩, hes⟩ := h
      rcases List.mem_cons.mp hm with heq | hm
      · cases heq
        exact ⟨by simpa using hzero, hf⟩
      · exact ih hes hm

/-- No name on the way to an entry has a zero byte. -/
theorem zero_not_mem_of_find? {es : Entries} {loc : Location} {e : Entry}
    (h : entriesZeroFree es = true) (he : Entries.find? es loc = some e) :
    ∀ n ∈ loc, 0 ∉ n.toList := by
  induction loc generalizing es with
  | nil => exact fun n hn => absurd hn List.not_mem_nil
  | cons m loc ih =>
      rw [find?_cons] at he
      obtain ⟨f, hf, hbelow⟩ := Option.bind_eq_some_iff.mp he
      obtain ⟨hzero, hfree⟩ := zeroFree_of_mem h (Text.mem_of_lookup hf)
      intro n hn
      rcases List.mem_cons.mp hn with rfl | hn
      · exact hzero
      · cases loc with
        | nil => exact absurd hn List.not_mem_nil
        | cons k ks =>
            cases f with
            | directory inner => exact ih hfree hbelow n hn
            | _ => cases hbelow

end Entries

/-- Names joined to a path bring no zero byte if they have none. -/
theorem Path.zero_not_mem_foldl_join {rel : List ByteString} {path : ByteString}
    (hord : ∀ n ∈ rel, isOrdinary n = true) (hpath : 0 ∉ path.toList)
    (hrel : ∀ n ∈ rel, 0 ∉ n.toList) :
    0 ∉ (rel.foldl join path).toList := by
  intro hzero
  obtain ⟨n, hn, hmem⟩ := exists_mem_names hzero (by decide) (by decide)
  rw [names_foldl_join hord] at hn
  rcases List.mem_append.mp hn with hn | hn
  · exact hpath ((infix_of_mem_names hn).subset hmem)
  · exact hrel n hn hmem

namespace FileSystem

/-- Every name can be spelled in a path: none has a zero byte. -/
def ZeroFree (fs : FileSystem) : Prop :=
  entriesZeroFree fs.top = true

instance (fs : FileSystem) : Decidable fs.ZeroFree :=
  inferInstanceAs (Decidable (_ = _))

/-! ## §2. Sources as paths -/

/-- What a path expands to can be looked at, unless it is too long. -/
theorem route_of_mem_expand {fs : FileSystem} (hw : fs.WellFormed) (hz : fs.ZeroFree)
    {path t : ByteString} {files : List ByteString} (h : fs.expand path = .ok files) (ht : t ∈ files)
    (hsize : t.size ≤ maxPathBytes) : route t = .ok (Route.ofPath t) := by
  obtain ⟨loc, -, hloc, -⟩ := (mem_expand hw h ht).1.traced
  refine route_ok_iff.mpr ⟨?_, (traced?_eq_some.mp hloc).1, hsize, rfl⟩
  obtain ⟨loc, content, he, rfl⟩ | ⟨loc, es, he, -, rfl⟩ := expand_cases hw h
  · cases List.mem_singleton.mp ht
    exact (route_ok_iff.mp (resolve_eq_follow (entryAt_iff.mp he)).1).1
  · have hes : entriesWellFormed es = true := hw.below (entryAt_found he)
    obtain ⟨rel, content, -, hfind, rfl, -⟩ := mem_listing es hes ht
    have hwhole : Entries.find? fs.top (loc ++ rel) = some (.file content) := find?_listed he hfind
    have hzero := Entries.zero_not_mem_of_find? hz hwhole
    exact Path.zero_not_mem_foldl_join (Entries.isOrdinary_of_find? hes hfind)
      (route_ok_iff.mp (resolve_eq_follow (entryAt_iff.mp he)).1).1
      fun n hn => hzero n (List.mem_append_right loc hn)

/-- **What a path expands to expands to itself**, unless it is too long. -/
theorem expand_short {fs : FileSystem} (hw : fs.WellFormed) (hz : fs.ZeroFree) {path t : ByteString}
    {files : List ByteString} (h : fs.expand path = .ok files) (ht : t ∈ files)
    (hsize : t.size ≤ maxPathBytes) : fs.expand t = .ok [t] := by
  obtain ⟨loc, content, he⟩ :=
    (mem_expand hw h ht).1.leads (route_of_mem_expand hw hz h ht hsize)
  unfold expand isFile
  rw [he]
  rfl

theorem expandAll_self {fs : FileSystem} {sources : List ByteString}
    (h : ∀ t ∈ sources, fs.expand t = .ok [t]) : fs.expandAll sources = .ok sources := by
  induction sources with
  | nil => rfl
  | cons t rest ih =>
      exact expandAll_cons_iff.mpr ⟨[t], rest, h t List.mem_cons_self,
        ih fun u hu => h u (List.mem_cons_of_mem t hu), rfl⟩

theorem expandAll_append {fs : FileSystem} {paths extra files more : List ByteString}
    (h : fs.expandAll paths = .ok files) (hextra : fs.expandAll extra = .ok more) :
    fs.expandAll (paths ++ extra) = .ok (files ++ more) := by
  induction paths generalizing files with
  | nil =>
      cases h
      exact hextra
  | cons path rest ih =>
      obtain ⟨part, others, hpart, hothers, rfl⟩ := expandAll_cons_iff.mp h
      exact expandAll_cons_iff.mpr ⟨part, others ++ more, hpart, ih hothers, List.append_assoc ..⟩

/-! ## §3. First spellings -/

/-- **First spellings are their own first spellings.** -/
theorem firstSpellings_again (fs : FileSystem) (seen paths : List ByteString) :
    fs.firstSpellings seen (fs.firstSpellings seen paths) = fs.firstSpellings seen paths := by
  induction paths generalizing seen with
  | nil => rfl
  | cons path rest ih =>
      by_cases hseen : fs.identity path ∈ seen
      · simp only [firstSpellings, List.contains_iff_mem, hseen, if_true]
        exact ih seen
      · simp only [firstSpellings, List.contains_iff_mem, hseen, if_false]
        rw [ih]

theorem firstSpellings_of_seen {fs : FileSystem} {seen paths : List ByteString}
    (h : ∀ t ∈ paths, fs.identity t ∈ seen) : fs.firstSpellings seen paths = [] := by
  induction paths with
  | nil => rfl
  | cons path rest ih =>
      rw [firstSpellings, if_pos (List.contains_iff_mem.mpr (h path List.mem_cons_self))]
      exact ih fun t ht => h t (List.mem_cons_of_mem path ht)

/-- Behind other paths, spellings of what is seen or of one of these paths add nothing. -/
theorem firstSpellings_append {fs : FileSystem} {seen paths more : List ByteString}
    (h : ∀ t ∈ more, fs.identity t ∈ seen ∨ ∃ u ∈ paths, fs.identity t = fs.identity u) :
    fs.firstSpellings seen (paths ++ more) = fs.firstSpellings seen paths := by
  induction paths generalizing seen with
  | nil => exact firstSpellings_of_seen fun t ht => by simpa using h t ht
  | cons path rest ih =>
      -- after the first path, what it spells is seen
      have hrest : ∀ seen', (∀ key ∈ seen, key ∈ seen') → fs.identity path ∈ seen' →
          fs.firstSpellings seen' (rest ++ more) = fs.firstSpellings seen' rest := by
        intro seen' hsub hpath
        refine ih fun t ht => ?_
        rcases h t ht with hseen | ⟨u, hu, hsame⟩
        · exact Or.inl (hsub _ hseen)
        · rcases List.mem_cons.mp hu with rfl | hu
          · exact Or.inl (hsame ▸ hpath)
          · exact Or.inr ⟨u, hu, hsame⟩
      rw [List.cons_append, firstSpellings, firstSpellings]
      by_cases hpath : fs.identity path ∈ seen
      · rw [if_pos (List.contains_iff_mem.mpr hpath), if_pos (List.contains_iff_mem.mpr hpath)]
        exact hrest seen (fun _ => id) hpath
      · rw [if_neg (mt List.contains_iff_mem.mp hpath), if_neg (mt List.contains_iff_mem.mp hpath)]
        exact congrArg (path :: ·)
          (hrest _ (fun _ => List.mem_cons_of_mem _) List.mem_cons_self)

/-! ## §4. Batches -/

section Collected

variable {fs : FileSystem} {filter : FilterSettings} {paths sources : List ByteString}

/-- Sources that expand to themselves are collected again. -/
theorem collect_self (h : fs.collect filter paths = .ok sources)
    (hself : ∀ t ∈ sources, fs.expand t = .ok [t]) : fs.collect filter sources = .ok sources := by
  have haccepted : sources.filter filter.accepts = sources :=
    List.filter_eq_self.mpr fun t ht => (mem_collect h ht).1
  refine collect_eq_ok_iff.mpr ⟨sources, expandAll_self hself, ?_⟩
  rw [haccepted]
  obtain ⟨files, -, rfl⟩ := collect_eq_ok_iff.mp h
  exact (firstSpellings_again fs [] _).symm

/-- A path that leads nowhere is named if those before it have an expansion. -/
theorem collect_of_not_leads {before after : List ByteString} {t : ByteString}
    (hbefore : ∀ u ∈ before, fs.Opens u) (ht : fs.leads t = false) :
    fs.collect filter (before ++ t :: after) = .error (.invalidPath t) :=
  collect_eq_error_iff.mpr
    (expandAll_error_iff.mpr ⟨before, t, after, rfl, hbefore, Or.inl ⟨ht, rfl⟩⟩)

/-- Paths whose accepted candidates are spellings of collected files add nothing. -/
theorem collect_append (h : fs.collect filter paths = .ok sources)
    {extra more : List ByteString} (hextra : fs.expandAll extra = .ok more)
    (hknown : ∀ t ∈ more, filter.accepts t = true →
      ∃ u ∈ sources, ∃ c, fs.canonical? t = some c ∧ fs.canonical? u = some c) :
    fs.collect filter (paths ++ extra) = .ok sources := by
  obtain ⟨files, hfiles, rfl⟩ := collect_eq_ok_iff.mp h
  refine collect_eq_ok_iff.mpr ⟨files ++ more, expandAll_append hfiles hextra, ?_⟩
  rw [List.filter_append]
  refine (firstSpellings_append fun t ht => Or.inr ?_).symm
  obtain ⟨hmem, haccepts⟩ := List.mem_filter.mp ht
  obtain ⟨u, hu, c, hct, hcu⟩ := hknown t hmem haccepts
  refine ⟨u, (firstSpellings_sublist fs [] _).subset hu, ?_⟩
  rw [identity_of_canonical? hct, identity_of_canonical? hcu]

end Collected

/-- **A collected batch is a fixed point.**  Collecting the sources of a batch gives the batch
    again, if none of their paths is longer than the system takes; otherwise the first that is
    longer is named as a path that leads nowhere.  Other paths asked for behind those of the batch
    change nothing, if each of their accepted candidates has the canonical path of a source. -/
theorem collect_fixed_point {fs : FileSystem} (hw : fs.WellFormed) (hz : fs.ZeroFree)
    {filter : FilterSettings} {paths sources : List ByteString}
    (h : fs.collect filter paths = .ok sources) :
    ((∀ t ∈ sources, t.size ≤ maxPathBytes) → fs.collect filter sources = .ok sources)
      ∧ (∀ before t after, sources = before ++ t :: after →
          (∀ u ∈ before, u.size ≤ maxPathBytes) → maxPathBytes < t.size →
          fs.collect filter sources = .error (.invalidPath t))
      ∧ ∀ extra files, fs.expandAll extra = .ok files →
          (∀ t ∈ files, filter.accepts t = true →
            ∃ u ∈ sources, ∃ c, fs.canonical? t = some c ∧ fs.canonical? u = some c) →
          fs.collect filter (paths ++ extra) = .ok sources := by
  have hself : ∀ t ∈ sources, t.size ≤ maxPathBytes → fs.expand t = .ok [t] := by
    intro t ht hsize
    obtain ⟨-, path, -, part, hpart, hmem⟩ := mem_collect h ht
    exact expand_short hw hz hpart hmem hsize
  refine ⟨?_, ?_, ?_⟩
  · exact fun hsizes => collect_self h fun t ht => hself t ht (hsizes t ht)
  · rintro before t after rfl hbefore ht
    refine collect_of_not_leads (fun u hu => ?_) (leads_of_long ht)
    exact opens_of_expand (hself u (List.mem_append_left _ hu) (hbefore u hu))
  · exact fun extra files hextra hknown => collect_append h hextra hknown

/-- A directory asked for by a link with an ignored name and by its own name; then its module; then
    the directory four times, by a longer spelling too. -/
theorem collect_fixed_point_linked :
    linked.collect {} ["tests", "app"] = .ok ["app/a.py"]
      ∧ linked.collect {} ["app/a.py"] = .ok ["app/a.py"]
      ∧ linked.collect {} ["tests", "app", "./app", "tests"] = .ok ["app/a.py"] := by
  have hw : linked.WellFormed := ⟨by decide +kernel, by decide +kernel⟩
  have hcollect : linked.collect {} ["tests", "app"] = .ok ["app/a.py"] := rfl
  have hextra : linked.expandAll ["./app", "tests"] = .ok ["./app/a.py", "tests/a.py"] := rfl
  obtain ⟨hagain, -, hmore⟩ := collect_fixed_point hw (by decide +kernel) hcollect
  refine ⟨hcollect, hagain (by decide +kernel), hmore _ _ hextra fun t ht haccepts => ?_⟩
  refine ⟨_, List.mem_singleton_self _, "/app/a.py", ?_, by decide +kernel⟩
  rcases List.mem_cons.mp ht with rfl | ht
  · decide +kernel
  · cases List.mem_singleton.mp ht
    decide +kernel

namespace SpellsLongest

variable {path : ByteString} (h : SpellsLongest path)
include h

theorem collect_path : nested.collect {} [path] = .ok [Path.join path "a.py"] := by
  refine collect_eq_ok_iff.mpr ⟨[Path.join path "a.py"], ?_, ?_⟩
  · exact expandAll_cons_iff.mpr ⟨_, _, h.expand_path, rfl, rfl⟩
  · simp [firstSpellings, h.accepts_module]

/-- The module below it cannot be asked for by its own path. -/
theorem collect_module :
    nested.collect {} [Path.join path "a.py"] = .error (.invalidPath (Path.join path "a.py")) := by
  have hnone : ∀ u ∈ ([] : List ByteString), nested.Opens u := by simp
  exact collect_of_not_leads hnone (leads_of_long h.size_module)

end SpellsLongest

/-- **Not every batch is a fixed point.**  Below the path of the greatest length a module is listed,
    but its own path leads nowhere. -/
theorem listed_not_collected :
    nested.collect {} [Path.padded "d" 4094] = .ok [Path.join (Path.padded "d" 4094) "a.py"]
      ∧ nested.collect {} [Path.join (Path.padded "d" 4094) "a.py"]
        = .error (.invalidPath (Path.join (Path.padded "d" 4094) "a.py")) :=
  ⟨longest_spells.collect_path, longest_spells.collect_module⟩

end FileSystem

end TestScaffold
