/-
  TestScaffold.Proofs.Discovery.Hidden — collection does not see what is in ignored directories.

  Two file systems that differ only in directories of one name look alike once these
  directories are taken out.  If that name is ignored, collection looks at no more than that:

    * `entriesWithout_eq` — taking out the directories of a name takes out the difference;
    * `filter_listing_without` — the accepted files are the same without them;
    * `collect_hidden` — so the same sources are collected, in the same order.
-/
import TestScaffold.Proofs.Discovery.Sources

namespace TestScaffold

/-! ## §1. Entries without the directories of a name -/

mutual

/-- An entry, the directories of a name below it taken out. -/
def Entry.without (name : ByteString) : Entry → Entry
  | .directory es => .directory (entriesWithout name es)
  | e => e

/-- Entries, the directories of a name among and below them taken out. -/
def entriesWithout (name : ByteString) : List (ByteString × Entry) → List (ByteString × Entry)
  | [] => []
  | (n, e) :: rest =>
    if n = name ∧ e.shape = .directory then entriesWithout name rest
    else (n, e.without name) :: entriesWithout name rest

end

namespace Entries

variable {name : ByteString}

/-- Whether a location leads through or to a directory of a name. -/
def Crosses (name : ByteString) (es : Entries) (loc : Location) : Prop :=
  ∃ a b, loc = a ++ name :: b ∧ shapeAt es (a ++ [name]) = some .directory

theorem mem_entriesWithout {es : Entries} {p : ByteString × Entry} (h : p ∈ entriesWithout name es) :
    ∃ e, (p.1, e) ∈ es := by
  induction es with
  | nil => exact absurd h (by simp [entriesWithout])
  | cons q rest ih =>
      obtain ⟨n, e⟩ := q
      have hrest : p ∈ entriesWithout name rest → ∃ e', (p.1, e') ∈ (n, e) :: rest := by
        intro hmem
        obtain ⟨e', he'⟩ := ih hmem
        exact ⟨e', List.mem_cons_of_mem _ he'⟩
      rw [entriesWithout] at h
      split at h
      · exact hrest h
      · rcases List.mem_cons.mp h with rfl | h
        · exact ⟨e, List.mem_cons_self⟩
        · exact hrest h

/-- The entry of a name once directories were taken out. -/
theorem lookup_entriesWithout {es : Entries} (hw : entriesWellFormed es = true) (m : ByteString) :
    (entriesWithout name es).lookup m
      = (es.lookup m).bind fun e =>
          if m = name ∧ e.shape = .directory then none else some (e.without name) := by
  induction es with
  | nil => rfl
  | cons q rest ih =>
      obtain ⟨n, e⟩ := q
      obtain ⟨-, hlt, -, hrest⟩ := wellFormed_cons.mp hw
      rw [entriesWithout]
      by_cases hm : m = n
      · subst hm
        rw [List.lookup_cons_self]
        split
        · rename_i hhidden
          -- a later entry of that name would break the order
          rw [ih hrest, lookup_none_of_lt hlt]
          exact (if_pos hhidden).symm
        · rename_i hseen
          rw [List.lookup_cons_self]
          exact (if_neg hseen).symm
      · rw [lookup_cons_ne hm, ← ih hrest]
        split
        · rfl
        · rw [lookup_cons_ne hm]

end Entries

mutual

theorem Entry.without_wellFormed (name : ByteString) (e : Entry) (h : e.isWellFormed = true) :
    (e.without name).isWellFormed = true := by
  match e with
  | .directory es => exact entriesWithout_wellFormed name es h
  | .file _ => rfl
  | .link _ => rfl
  | .device => rfl

/-- Name order is kept. -/
theorem entriesWithout_wellFormed (name : ByteString) (es : List (ByteString × Entry))
    (h : entriesWellFormed es = true) : entriesWellFormed (entriesWithout name es) = true := by
  match es with
  | [] => rfl
  | (n, e) :: rest =>
      obtain ⟨hn, hlt, he, hrest⟩ := Entries.wellFormed_cons.mp h
      have ih := entriesWithout_wellFormed name rest hrest
      rw [entriesWithout]
      split
      · exact ih
      · refine Entries.wellFormed_cons.mpr ⟨hn, ?_, Entry.without_wellFormed name e he, ih⟩
        intro p hp
        obtain ⟨e', he'⟩ := Entries.mem_entriesWithout hp
        exact hlt (p.1, e') he'

end

namespace Entries

variable {name : ByteString}

/-- What stands at a location of which the first name is not taken out. -/
theorem shapeAt_without_cons {es : Entries} (hw : entriesWellFormed es = true) {m : ByteString}
    {e : Entry} (he : es.lookup m = some e) (hseen : ¬ (m = name ∧ e.shape = .directory))
    (ms : Location) :
    shapeAt (entriesWithout name es) (m :: ms) = ((e.without name).below? ms).map Entry.shape := by
  rw [shapeAt_cons, lookup_entriesWithout hw, he, Option.bind_some, if_neg hseen]
  rfl

theorem shapeAt_of_lookup {es : Entries} {m : ByteString} {e : Entry} (he : es.lookup m = some e)
    (ms : Location) : shapeAt es (m :: ms) = (e.below? ms).map Entry.shape := by
  rw [shapeAt_cons, he]
  rfl

/-- A location that does not end at its first name crosses a directory where the rest does. -/
theorem crosses_cons_iff {es inner : Entries} {m : ByteString}
    (he : es.lookup m = some (.directory inner)) (hm : m ≠ name) (ms : Location) :
    Crosses name es (m :: ms) ↔ Crosses name inner ms := by
  have hinner : ∀ ns, shapeAt es (m :: ns) = shapeAt inner ns := fun ns => shapeAt_of_lookup he ns
  constructor
  · rintro ⟨a, b, heq, hs⟩
    cases a with
    | nil => exact absurd (List.cons.inj heq).1 hm
    | cons k a =>
        obtain ⟨rfl, hrest⟩ := List.cons.inj heq
        exact ⟨a, b, hrest, (hinner _).symm.trans hs⟩
  · rintro ⟨a, b, rfl, hs⟩
    exact ⟨m :: a, b, rfl, (hinner _).trans hs⟩

/-- **What stands at a location once directories were taken out**: nothing if the location leads
    through or to one of them, and what stood there otherwise. -/
theorem shapeAt_without (name : ByteString) {es : Entries} (hw : entriesWellFormed es = true)
    (loc : Location) :
    (Crosses name es loc → shapeAt (entriesWithout name es) loc = none)
      ∧ (¬ Crosses name es loc → shapeAt (entriesWithout name es) loc = shapeAt es loc) := by
  -- name by name, into the directories that stay
  induction loc generalizing es with
  | nil =>
      refine ⟨?_, fun _ => rfl⟩
      rintro ⟨a, b, heq, -⟩
      simp at heq
  | cons m ms ih =>
      cases he : es.lookup m with
      | none =>
          have hnone : shapeAt (entriesWithout name es) (m :: ms) = none := by
            rw [shapeAt_cons, lookup_entriesWithout hw, he]
            rfl
          have hnone' : shapeAt es (m :: ms) = none := by
            rw [shapeAt_cons, he]
            rfl
          exact ⟨fun _ => hnone, fun _ => hnone.trans hnone'.symm⟩
      | some e =>
          by_cases hhidden : m = name ∧ e.shape = .directory
          · have hnone : shapeAt (entriesWithout name es) (m :: ms) = none := by
              rw [shapeAt_cons, lookup_entriesWithout hw, he, Option.bind_some, if_pos hhidden]
              rfl
            refine ⟨fun _ => hnone, ?_⟩
            intro hno
            obtain ⟨rfl, hdir⟩ := hhidden
            refine absurd ⟨[], ms, rfl, ?_⟩ hno
            rw [List.nil_append, shapeAt_of_lookup he, Entry.below?_nil, Option.map_some, hdir]
          · rw [shapeAt_without_cons hw he hhidden, shapeAt_of_lookup he]
            cases e with
            | directory inner =>
                have hm : m ≠ name := fun heq => hhidden ⟨heq, rfl⟩
                rw [crosses_cons_iff he hm]
                exact ih (wellFormed_of_mem hw (Text.mem_of_lookup he)).2
            | _ =>
                -- nothing is below a leaf, so there is nothing to cross
                refine ⟨?_, fun _ => rfl⟩
                rintro ⟨a, b, heq, hs⟩
                cases a with
                | nil =>
                    obtain ⟨rfl, -⟩ := List.cons.inj heq
                    rw [List.nil_append, shapeAt_of_lookup he] at hs
                    cases hs
                | cons k a =>
                    obtain ⟨rfl, -⟩ := List.cons.inj heq
                    rw [List.cons_append, shapeAt_of_lookup he] at hs
                    cases a <;> cases hs

/-- **Taking out the directories of a name takes out the difference** between entries that grew only
    in and at directories of that name. -/
theorem entriesWithout_eq {es es' : Entries} (hw : entriesWellFormed es = true)
    (hw' : entriesWellFormed es' = true)
    (hkeep : ∀ loc, shapeAt es loc = some .directory → shapeAt es' loc = some .directory)
    (hnew : ∀ loc, shapeAt es' loc = some .directory →
      shapeAt es loc = none ∨ shapeAt es loc = some .directory)
    (hdiff : ∀ loc, shapeAt es' loc ≠ shapeAt es loc → Crosses name es' loc) :
    entriesWithout name es' = entriesWithout name es := by
  refine eq_of_shapeAt_eq _ _ (entriesWithout_wellFormed name es' hw')
    (entriesWithout_wellFormed name es hw) ?_
  intro loc
  obtain ⟨hcross, hseen⟩ := shapeAt_without name hw loc
  obtain ⟨hcross', hseen'⟩ := shapeAt_without name hw' loc
  by_cases h : Crosses name es loc
  · obtain ⟨a, b, heq, hs⟩ := h
    rw [hcross ⟨a, b, heq, hs⟩, hcross' ⟨a, b, heq, hkeep _ hs⟩]
  · by_cases h' : Crosses name es' loc
    · -- the directory is new, so nothing stood there before
      rw [hcross' h', hseen h]
      obtain ⟨a, b, heq, hs⟩ := h'
      have hnone : shapeAt es (a ++ [name]) = none := by
        rcases hnew _ hs with hnone | hdir
        · exact hnone
        · exact absurd ⟨a, b, heq, hdir⟩ h
      have hsplit : loc = (a ++ [name]) ++ b := by simpa using heq
      cases b with
      | nil => rw [hsplit, List.append_nil, hnone]
      | cons k b =>
          rw [hsplit]
          exact (shapeAt_below_none (by rw [hnone]; simp) k b).symm
    · rw [hseen h, hseen' h']
      exact Decidable.not_not.mp fun hne => h' (hdiff loc hne)

end Entries

/-! ## §2. Accepted files -/

namespace FileSystem

/-- A file listed below a directory has the names of that directory before its own. -/
theorem names_directory_listed {rel : List ByteString} (hord : ∀ n ∈ rel, Path.isOrdinary n = true)
    (hne : rel ≠ []) (path : ByteString) :
    Path.names (Path.directory (rel.foldl Path.join path)) = Path.names path ++ rel.dropLast := by
  rcases List.eq_nil_or_concat rel with rfl | ⟨init, n, rfl⟩
  · exact absurd rfl hne
  · rw [List.concat_eq_append] at hord ⊢
    have hn : Path.isOrdinary n = true := hord n (by simp)
    have hinit : ∀ m ∈ init, Path.isOrdinary m = true :=
      fun m hm => hord m (List.mem_append_left _ hm)
    rw [List.foldl_append, List.foldl_cons, List.foldl_nil, List.dropLast_concat]
    have hsteps : (Route.ofPath (Path.join (init.foldl Path.join path) n)).steps
        = Route.spelled (init.foldl Path.join path).toList ++ [.down n] := Path.steps_join hn
    have hfull := Path.names_of_fileName (Path.fileName?_of_steps hsteps)
    rw [Path.names_join hn] at hfull
    rw [← List.append_inj_left' hfull rfl, Path.names_foldl_join hinit]

section Accepted

variable {name : ByteString} {accepts : ByteString → Bool}
  (hreject : ∀ t, name ∈ Path.names (Path.directory t) → accepts t = false)
include hreject

/-- No file below a directory that has the name on its way is accepted. -/
theorem filter_listing_hidden {extension : String} {path : ByteString} {es : Entries}
    (hw : entriesWellFormed es = true) (hname : name ∈ Path.names path) :
    (listing extension path es).filter accepts = [] := by
  refine List.filter_eq_nil_iff.mpr ?_
  intro t ht
  obtain ⟨rel, content, hne, hfind, rfl, -⟩ := mem_listing es hw ht
  have hord := Entries.isOrdinary_of_find? hw hfind
  have hmem : name ∈ Path.names (Path.directory (rel.foldl Path.join path)) := by
    rw [names_directory_listed hord hne]
    exact List.mem_append_left _ hname
  rw [hreject _ hmem]
  exact Bool.false_ne_true

end Accepted

mutual

theorem filter_listedAt_without {name : ByteString} {accepts : ByteString → Bool}
    (hreject : ∀ t, name ∈ Path.names (Path.directory t) → accepts t = false)
    {extension : String} {path n : ByteString} (e : Entry) (hw : e.isWellFormed = true) :
    ((listedAt extension n (e.without name)).map (·.foldl Path.join path)).filter accepts
      = ((listedAt extension n e).map (·.foldl Path.join path)).filter accepts := by
  match e with
  | .directory es =>
      rw [Entry.without, map_listedAt_directory, map_listedAt_directory]
      exact filter_listing_without hreject es hw
  | .file _ => rfl
  | .link _ => rfl
  | .device => rfl

/-- **The accepted files are the same** without the directories of an ignored name. -/
theorem filter_listing_without {name : ByteString} {accepts : ByteString → Bool}
    (hreject : ∀ t, name ∈ Path.names (Path.directory t) → accepts t = false)
    {extension : String} {path : ByteString} (es : List (ByteString × Entry)) (hw : entriesWellFormed es = true) :
    (listing extension path (entriesWithout name es)).filter accepts
      = (listing extension path es).filter accepts := by
  match es with
  | [] => rfl
  | (n, e) :: rest =>
      obtain ⟨hn, -, he, hrest⟩ := Entries.wellFormed_cons.mp hw
      have ih : (listing extension path (entriesWithout name rest)).filter accepts
          = (listing extension path rest).filter accepts :=
        filter_listing_without hreject rest hrest
      rw [entriesWithout]
      split
      · -- the directory was taken out, and no file below it was accepted anyway
        rename_i hhidden
        obtain ⟨rfl, hdir⟩ := hhidden
        cases e with
        | directory inner =>
            have hmem : n ∈ Path.names (Path.join path n) := by
              rw [Path.names_join (validName_iff.mp hn).1]
              simp
            rw [listing_cons, List.filter_append, map_listedAt_directory,
              filter_listing_hidden hreject he hmem, ih]
            rfl
        | _ => cases hdir
      · rw [listing_cons, listing_cons, List.filter_append, List.filter_append,
          filter_listedAt_without hreject e he, ih]

end

/-! ## §3. Collection -/

theorem firstSpellings_congr {fs fs' : FileSystem} {paths : List ByteString}
    (h : ∀ t ∈ paths, fs'.identity t = fs.identity t) (seen : List ByteString) :
    fs'.firstSpellings seen paths = fs.firstSpellings seen paths := by
  induction paths generalizing seen with
  | nil => rfl
  | cons path rest ih =>
      have hrest := fun t ht => h t (List.mem_cons_of_mem path ht)
      simp only [firstSpellings, h path List.mem_cons_self, ih hrest]

/-- A path that was found keeps its identity when nothing is taken away. -/
theorem identity_grows {fs fs' : FileSystem} (hg : Grows fs fs') {t : ByteString} (ht : fs.Finds t) :
    fs'.identity t = fs.identity t := by
  -- growth keeps where paths lead, and what is looked at on the way
  obtain ⟨loc, -, hl, -⟩ := ht.traced
  rw [identity, identity, canonical?_grows hg hl]

/-- `fs'` differs from `fs` only in and at directories of a name below `base`. -/
def GrowsInside (name : ByteString) (base : Location) (fs fs' : FileSystem) : Prop :=
  ∀ loc, fs'.shapeAt loc ≠ fs.shapeAt loc →
    ∃ a b, loc = base ++ (a ++ name :: b) ∧ fs'.shapeAt (base ++ (a ++ [name])) = some .directory

/-- A name that is not in the first part of a list is in the rest. -/
theorem append_split {name : ByteString} {xs ys a b : List ByteString} (hname : name ∉ xs)
    (h : xs ++ ys = a ++ name :: b) : ∃ c, a = xs ++ c ∧ ys = c ++ name :: b := by
  rcases List.append_eq_append_iff.mp h with ⟨c, ha, hys⟩ | ⟨c, hxs, hb⟩
  · exact ⟨c, ha, hys⟩
  · cases c with
    | nil => exact ⟨[], by rw [hxs]; simp, hb.symm⟩
    | cons k c =>
        obtain ⟨rfl, -⟩ := List.cons.inj hb
        exact absurd (by rw [hxs]; simp) hname

section Hidden

variable {fs fs' : FileSystem} (hw : fs.WellFormed) (hfree : fs.LinkFree) (hw' : fs'.WellFormed)
  (hg : Grows fs fs') {filter : FilterSettings} {name : ByteString}
  (hreject : ∀ t, name ∈ Path.names (Path.directory t) → filter.accepts t = false)
  {base : Location} (hinside : GrowsInside name base fs fs')
include hw hfree hw' hg hreject hinside

/-- **A path expands to the same accepted files.** -/
theorem expand_hidden {path : ByteString} (hstart : fs.start (Route.ofPath path) = base)
    (hup : .up ∉ Route.spelled path.toList) (hlist : fs'.Listable path) {part : List ByteString}
    (h : fs.expand path = .ok part) :
    ∃ part', fs'.expand path = .ok part' ∧ part'.filter filter.accepts
      = part.filter filter.accepts := by
  obtain ⟨loc, content, he, rfl⟩ | ⟨loc, es, he, -, rfl⟩ := expand_cases hw h
  · obtain ⟨content', he'⟩ := entryAt_file_grows hg he
    refine ⟨[path], ?_, rfl⟩
    unfold expand isFile
    rw [he']
    rfl
  · obtain ⟨es', he'⟩ := entryAt_directory_grows hg he
    have hes := hw.below (entryAt_found he)
    have hes' := hw'.below (entryAt_found he')
    refine ⟨listing pythonExtension path es', expand_directory hw' he' hlist, ?_⟩
    · have hloc := location_of_entryAt hfree (Path.up_not_mem_steps hup) he
      rw [hstart] at hloc
      by_cases hname : name ∈ Path.names path
      · -- the directory is hidden itself
        rw [filter_listing_hidden hreject hes hname, filter_listing_hidden hreject hes' hname]
      · -- seen from the directory, what differs is still in directories of the name
        have hbelow := shapeAt_below (entryAt_found he)
        have hbelow' := shapeAt_below (entryAt_found he')
        have hsame : entriesWithout name es' = entriesWithout name es := by
          refine Entries.entriesWithout_eq hes hes' ?_ ?_ ?_
          · intro rel hs
            rw [← hbelow] at hs
            rw [← hbelow']
            exact hg.directory hs
          · intro rel hs
            rw [← hbelow'] at hs
            rw [← hbelow]
            exact hg.directory_or_none hs
          · intro rel hne
            rw [← hbelow, ← hbelow'] at hne
            obtain ⟨a, b, heq, hs⟩ := hinside _ hne
            rw [hloc, List.append_assoc] at heq
            obtain ⟨c, rfl, rfl⟩ := append_split hname (List.append_cancel_left heq)
            refine ⟨c, b, rfl, ?_⟩
            rw [← hbelow', hloc, List.append_assoc, ← List.append_assoc (Path.names path)]
            exact hs
        rw [← filter_listing_without hreject es hes, ← filter_listing_without hreject es' hes',
          hsame]

/-- So all paths together do. -/
theorem expandAll_hidden {paths : List ByteString}
    (hstart : ∀ p ∈ paths, fs.start (Route.ofPath p) = base)
    (hup : ∀ p ∈ paths, .up ∉ Route.spelled p.toList) (hlist : ∀ p ∈ paths, fs'.Listable p)
    {files : List ByteString} (h : fs.expandAll paths = .ok files) :
    ∃ files', fs'.expandAll paths = .ok files'
      ∧ files'.filter filter.accepts = files.filter filter.accepts := by
  induction paths generalizing files with
  | nil =>
      cases h
      exact ⟨[], rfl, rfl⟩
  | cons path rest ih =>
      obtain ⟨part, more, hpart, hmore, rfl⟩ := expandAll_cons_iff.mp h
      obtain ⟨part', hpart', hsame⟩ := expand_hidden hw hfree hw' hg hreject hinside
        (hstart path List.mem_cons_self) (hup path List.mem_cons_self)
        (hlist path List.mem_cons_self) hpart
      obtain ⟨more', hmore', hsame'⟩ := ih (fun p hp => hstart p (List.mem_cons_of_mem path hp))
        (fun p hp => hup p (List.mem_cons_of_mem path hp))
        (fun p hp => hlist p (List.mem_cons_of_mem path hp)) hmore
      refine ⟨part' ++ more', expandAll_cons_iff.mpr ⟨part', more', hpart', hmore', rfl⟩, ?_⟩
      rw [List.filter_append, List.filter_append, hsame, hsame']

/-- **The same sources are collected**, in the same order, if all that is below the paths can still be
    listed. -/
theorem collect_hidden {paths : List ByteString}
    (hstart : ∀ p ∈ paths, fs.start (Route.ofPath p) = base)
    (hup : ∀ p ∈ paths, .up ∉ Route.spelled p.toList) (hlist : ∀ p ∈ paths, fs'.Listable p)
    {sources : List ByteString} (h : fs.collect filter paths = .ok sources) : fs'.collect filter paths = .ok sources := by
  obtain ⟨files, hfiles, rfl⟩ := collect_eq_ok_iff.mp h
  obtain ⟨files', hfiles', hsame⟩ :=
    expandAll_hidden hw hfree hw' hg hreject hinside hstart hup hlist hfiles
  refine collect_eq_ok_iff.mpr ⟨files', hfiles', ?_⟩
  rw [hsame]
  symm
  -- duplicates are told by identity, and found paths keep theirs
  refine firstSpellings_congr ?_ []
  intro t ht
  obtain ⟨path, hpath, part, hpart, hmem⟩ := mem_expandAll hfiles (List.mem_filter.mp ht).1
  exact identity_grows hg (mem_expand hw hpart hmem).1

end Hidden

end FileSystem

end TestScaffold
