/-
  TestScaffold.Proofs.FileSystem.Effects — what making directories and writing files changes.

    * `createDirectories_adds` — making directories only adds directories, also when it
      fails half-way;
    * `createDirectories_reached` — and each of them is reached by the path or one above it;
    * `write_cases` — a write replaces one file, goes to a device, or takes a free name;
    * `write_shapes` — seen by shapes, one location changes.

  Both keep a file system well-formed.
-/
import TestScaffold.Proofs.FileSystem.Resolution

namespace TestScaffold

/-- What stands at a location after a write there: a device takes everything and stays. -/
def Shape.written (content : ByteArray) : Option Shape → Shape
  | some .device => .device
  | _ => .file content

theorem Shape.written_eq_file {content : ByteArray} {s : Option Shape} (h : s ≠ some .device) :
    Shape.written content s = .file content := by
  cases s with
  | none => rfl
  | some s =>
      cases s with
      | device => exact absurd rfl h
      | _ => rfl

theorem Shape.written_written (a b : ByteArray) (s : Option Shape) :
    Shape.written b (some (Shape.written a s)) = Shape.written b s := by
  cases s with
  | none => rfl
  | some s => cases s <;> rfl

theorem Shape.written_ne_directory (content : ByteArray) (s : Option Shape) :
    Shape.written content s ≠ .directory := by
  cases s with
  | none => simp [written]
  | some s => cases s <;> simp [written]

theorem Shape.written_ne_link (content : ByteArray) (s : Option Shape) (target : ByteString) :
    some (Shape.written content s) ≠ some (.link target) := by
  cases s with
  | none => simp [written]
  | some s => cases s <;> simp [written]

namespace FileSystem

/-! ## §1. Adding directories -/

/-- `fs'` is `fs` with directories where nothing stood. -/
structure AddsDirectories (fs fs' : FileSystem) : Prop where
  /-- The working directory stays. -/
  cwd : fs'.cwd = fs.cwd
  /-- What stands somewhere stays, and what comes is a directory. -/
  shape : ∀ loc, fs'.shapeAt loc = fs.shapeAt loc
    ∨ (fs.shapeAt loc = none ∧ fs'.shapeAt loc = some .directory)

namespace AddsDirectories

variable {fs fs' fs'' : FileSystem}

theorem refl (fs : FileSystem) : AddsDirectories fs fs :=
  ⟨rfl, fun _ => Or.inl rfl⟩

theorem trans (h : AddsDirectories fs fs') (h' : AddsDirectories fs' fs'') :
    AddsDirectories fs fs'' := by
  refine ⟨h'.cwd.trans h.cwd, ?_⟩
  intro loc
  rcases h.shape loc with hs | ⟨hnone, hs⟩ <;> rcases h'.shape loc with hs' | ⟨hnone', hs'⟩
  · exact Or.inl (hs'.trans hs)
  · exact Or.inr ⟨hs ▸ hnone', hs'⟩
  · exact Or.inr ⟨hnone, hs'.trans hs⟩
  · rw [hs] at hnone'
    cases hnone'

theorem keep (h : AddsDirectories fs fs') {loc : Location} {s : Shape}
    (hs : fs.shapeAt loc = some s) : fs'.shapeAt loc = some s := by
  rcases h.shape loc with hs' | ⟨hnone, -⟩
  · exact hs'.trans hs
  · rw [hs] at hnone
    cases hnone

theorem grows (h : AddsDirectories fs fs') : Grows fs fs' :=
  ⟨h.cwd, fun hs => by rw [h.keep hs]; rfl⟩

theorem linkFree (h : AddsDirectories fs fs') (hfree : fs.LinkFree) : fs'.LinkFree := by
  intro loc target hs
  rcases h.shape loc with hs' | ⟨-, hs'⟩
  · exact hfree loc target (hs' ▸ hs)
  · rw [hs'] at hs
    cases hs

end AddsDirectories

theorem set_directory_adds {fs : FileSystem} {loc : Location} (hnone : fs.shapeAt loc = none) :
    AddsDirectories fs (fs.set loc (.directory [])) := by
  refine ⟨rfl, ?_⟩
  intro loc'
  rw [shapeAt_set rfl (by rw [hnone]; simp)]
  split
  · rename_i h
    exact Or.inr ⟨h.1 ▸ hnone, rfl⟩
  · exact Or.inl rfl

/-- **All that making one directory can do** when it succeeds. -/
theorem makeDirectory_cases {fs made : FileSystem} {path : ByteString}
    (h : fs.makeDirectory path = .ok made) :
    ∃ xs name loc es, route path = .ok (Route.ofPath path)
      ∧ (Route.ofPath path).steps = xs ++ [.down name]
      ∧ fs.follow maxLinks (fs.start (Route.ofPath path)) xs = .ok (.found loc (.directory es))
      ∧ name.size ≤ maxNameBytes ∧ fs.shapeAt (loc ++ [name]) = none
      ∧ made = fs.set (loc ++ [name]) (.directory []) := by
  unfold makeDirectory at h
  cases hr : route path with
  | error fault =>
      rw [hr] at h
      cases h
  | ok r =>
      cases route_eq hr
      rw [hr] at h
      simp only [bind, Except.bind] at h
      -- one branch makes a directory, and every other one fails
      split at h
      · cases h
      · rename_i last hlast
        obtain ⟨xs, hxs⟩ := List.getLast?_eq_some_iff.mp hlast
        rw [hxs, List.dropLast_concat] at h
        split at h
        · cases h
        · rename_i target htarget
          split at h
          · rename_i loc es
            split at h
            · rename_i name
              split at h
              · cases h
              · rename_i hlen
                split at h
                · cases h
                · rename_i hfind
                  cases h
                  exact ⟨xs, name, loc, es, rfl, hxs, htarget, Nat.le_of_not_lt hlen,
                    find?_eq_none_iff.mp (by simpa using hfind), rfl⟩
            · cases h
          · cases h
          · cases h

/-- Making a directory in a directory that is there, case by case. -/
theorem makeDirectory_of_route {fs : FileSystem} {path name : ByteString} {xs : List Step}
    {loc : Location} {es : Entries} (hr : route path = .ok (Route.ofPath path))
    (hsteps : (Route.ofPath path).steps = xs ++ [.down name])
    (hf : fs.follow maxLinks (fs.start (Route.ofPath path)) xs = .ok (.found loc (.directory es))) :
    fs.makeDirectory path
      = if maxNameBytes < name.size then .error .nameTooLong
        else if (fs.find? (loc ++ [name])).isSome then .error .alreadyExists
        else .ok (fs.set (loc ++ [name]) (.directory [])) := by
  unfold makeDirectory
  rw [hr]
  simp only [bind, Except.bind, hsteps, List.getLast?_concat, List.dropLast_concat, hf]

theorem makeDirectory_adds {fs made : FileSystem} {path : ByteString}
    (h : fs.makeDirectory path = .ok made) : AddsDirectories fs made := by
  obtain ⟨xs, name, loc, es, -, -, -, -, hnone, rfl⟩ := makeDirectory_cases h
  exact set_directory_adds hnone

/-- What making directories one above the other leaves behind, whether it succeeds or not: each
    step makes one of the directories or changes nothing. -/
theorem createFirst_induct {P : FileSystem → Prop} :
    ∀ (paths : List ByteString),
      (∀ path ∈ paths, ∀ fs made, P fs → fs.makeDirectory path = .ok made → P made) →
      ∀ {fs : FileSystem}, P fs → P (fs.createFirst paths).1
  | [], _, fs, h => h
  | path :: above, hstep, fs, h => by
      have hmakes := hstep path List.mem_cons_self
      unfold createFirst
      split
      · exact h
      · split
        · rename_i made hmade
          exact hmakes fs made h hmade
        · -- the directory above is missing: it is made first, then this one is tried again
          have ih := createFirst_induct above (fun p hp => hstep p (List.mem_cons_of_mem path hp)) h
          split
          · rename_i made fault heq
            rw [heq] at ih
            exact ih
          · rename_i made heq
            rw [heq] at ih
            split
            · rename_i done hdone
              exact hmakes made done ih hdone
            · split <;> exact ih
        · split <;> exact h

/-- `fs'` is `fs` with directories where nothing stood, each of them reached by a path of some kind. -/
structure AddsReached (kind : ByteString → Prop) (fs fs' : FileSystem) : Prop where
  /-- The working directory stays. -/
  cwd : fs'.cwd = fs.cwd
  /-- What stands somewhere stays, and what comes is a directory to which such a path leads. -/
  shape : ∀ loc, fs'.shapeAt loc = fs.shapeAt loc
    ∨ (fs.shapeAt loc = none ∧ fs'.shapeAt loc = some .directory
      ∧ ∃ path, kind path ∧ fs'.locate? path = some loc)

namespace AddsReached

variable {kind : ByteString → Prop} {fs fs' fs'' : FileSystem}

theorem refl (kind : ByteString → Prop) (fs : FileSystem) : AddsReached kind fs fs :=
  ⟨rfl, fun _ => Or.inl rfl⟩

theorem adds (h : AddsReached kind fs fs') : AddsDirectories fs fs' :=
  ⟨h.cwd, fun loc => (h.shape loc).imp_right fun hnew => ⟨hnew.1, hnew.2.1⟩⟩

theorem mono {wider : ByteString → Prop} (h : AddsReached kind fs fs')
    (hwider : ∀ path, kind path → wider path) : AddsReached wider fs fs' := by
  refine ⟨h.cwd, fun loc => (h.shape loc).imp_right ?_⟩
  rintro ⟨hnone, hdirectory, path, hkind, hleads⟩
  exact ⟨hnone, hdirectory, path, hwider path hkind, hleads⟩

theorem trans (h : AddsReached kind fs fs') (h' : AddsReached kind fs' fs'') :
    AddsReached kind fs fs'' := by
  refine ⟨h'.cwd.trans h.cwd, ?_⟩
  intro loc
  rcases h'.shape loc with hs' | ⟨hnone', hnew⟩
  · rcases h.shape loc with hs | ⟨hnone, hdirectory, path, hkind, hleads⟩
    · exact Or.inl (hs'.trans hs)
    · -- a path that leads to a directory leads there still
      exact Or.inr ⟨hnone, hs'.trans hdirectory, path, hkind, locate?_grows h'.adds.grows hleads⟩
  · rcases h.shape loc with hs | ⟨-, hdirectory, -⟩
    · exact Or.inr ⟨hs ▸ hnone', hnew⟩
    · rw [hdirectory] at hnone'
      cases hnone'

end AddsReached

/-- **A directory that is made is reached by its path**, and nothing else changes. -/
theorem makeDirectory_reached {fs made : FileSystem} {path : ByteString}
    (h : fs.makeDirectory path = .ok made) :
    AddsReached (fun p => p = path ∧ p ≠ "") fs made := by
  obtain ⟨xs, name, loc, es, hroute, hsteps, hf, hlen, hnone, rfl⟩ := makeDirectory_cases h
  have hadds := set_directory_adds hnone
  have hset : ∀ loc', (fs.set (loc ++ [name]) (.directory [])).shapeAt loc' = _ :=
    shapeAt_set rfl (by rw [hnone]; simp)
  have hthere : (fs.set (loc ++ [name]) (.directory [])).shapeAt (loc ++ [name])
      = some .directory := by
    rw [hset, List.dropLast_concat, if_pos ⟨rfl, shapeAt_of_find? (follow_found hf)⟩]
    rfl
  -- the way to the directory above goes on to the new one
  have hleads : (fs.set (loc ++ [name]) (.directory [])).locate? path = some (loc ++ [name]) := by
    obtain ⟨e, he, hshape⟩ := find?_of_shapeAt hthere
    obtain ⟨above, habove⟩ := follow_grows hadds.grows hf
    obtain ⟨inner, rfl⟩ : ∃ inner, above = .directory inner := by
      have hkind := hadds.keep (shapeAt_of_find? (follow_found hf))
      rw [shapeAt_of_find? (follow_found habove)] at hkind
      cases above with
      | directory inner => exact ⟨inner, rfl⟩
      | _ => cases hkind
    cases e with
    | directory new =>
        refine locate?_eq_some.mpr ⟨.directory new, entryAt_iff.mpr ?_⟩
        rw [resolve_of_route hroute, hadds.grows.start, hsteps]
        refine follow_append_directory (fun onLink => ?_) habove
        rw [walkSteps_down_directory hlen he]
        exact walkSteps_nil he
    | _ => cases hshape
  refine ⟨rfl, ?_⟩
  intro loc'
  by_cases hloc : loc' = loc ++ [name]
  · rw [hloc]
    exact Or.inr ⟨hnone, hthere, path, ⟨rfl, ne_empty_of_route hroute⟩, hleads⟩
  · rw [hset, if_neg fun hand => hloc hand.1]
    exact Or.inl rfl

/-- **What making directories adds is reached** by the path or by one above it, also when it fails
    half-way. -/
theorem createDirectories_reached (fs : FileSystem) (path : ByteString) :
    AddsReached (fun p => p ∈ Path.ancestors path ∧ p ≠ "") fs (fs.createDirectories path).1 := by
  refine createFirst_induct _ ?_ (AddsReached.refl _ fs)
  intro p hp g made h hmade
  refine h.trans ((makeDirectory_reached hmade).mono ?_)
  rintro _ ⟨rfl, hne⟩
  exact ⟨hp, hne⟩

/-- **Making directories only adds directories**, also when it fails half-way. -/
theorem createDirectories_adds (fs : FileSystem) (path : ByteString) :
    AddsDirectories fs (fs.createDirectories path).1 :=
  (createDirectories_reached fs path).adds

theorem makeDirectory_wellFormed {fs made : FileSystem} {path : ByteString} (hw : fs.WellFormed)
    (h : fs.makeDirectory path = .ok made) : made.WellFormed := by
  have hadds := makeDirectory_adds h
  obtain ⟨xs, name, loc, es, -, hsteps, -, hlen, -, rfl⟩ := makeDirectory_cases h
  refine ⟨?_, hadds.keep hw.working⟩
  refine Entries.set_wellFormed ?_ rfl hw.ordered
  intro n hn
  have hname : n = name := by simpa using hn.symm
  rw [hname]
  have hmem : Step.down name ∈ (Route.ofPath path).steps := by
    rw [hsteps]
    simp
  simp [validName, Route.isOrdinary_of_mem_steps hmem, hlen]

theorem createDirectories_wellFormed {fs : FileSystem} (path : ByteString) (hw : fs.WellFormed) :
    (fs.createDirectories path).1.WellFormed :=
  createFirst_induct (P := WellFormed) _ (fun _ _ _ _ => makeDirectory_wellFormed) hw

/-! ## §2. Writing -/

/-- **All that a write can do** when it succeeds. -/
theorem write_cases {fs fs' : FileSystem} {path : ByteString} {content : ByteArray}
    (h : fs.write path content = .ok fs') :
    ∃ t, fs.resolve path = .ok t
      ∧ ((∃ loc old, t = .found loc (.file old) ∧ fs' = fs.set loc (.file content))
        ∨ (∃ loc, t = .found loc .device ∧ fs' = fs)
        ∨ (∃ loc name, t = .vacant loc name ∧ fs' = fs.set (loc ++ [name]) (.file content))) := by
  unfold write at h
  split at h
  · rename_i loc old heq
    cases h
    exact ⟨_, heq, Or.inl ⟨loc, old, rfl, rfl⟩⟩
  · rename_i loc heq
    cases h
    exact ⟨_, heq, Or.inr (Or.inl ⟨loc, rfl, rfl⟩)⟩
  · cases h
  · rename_i loc name heq
    cases h
    exact ⟨_, heq, Or.inr (Or.inr ⟨loc, name, rfl, rfl⟩)⟩
  · cases h

/-- A file that is set where no directory and no device stands. -/
theorem set_file_shapeAt {fs : FileSystem} {loc : Location} {content : ByteArray}
    (hfree : fs.shapeAt loc ≠ some .directory) (hdevice : fs.shapeAt loc ≠ some .device) :
    (∀ loc', loc' ≠ loc → (fs.set loc (.file content)).shapeAt loc' = fs.shapeAt loc')
      ∧ (fs.shapeAt loc.dropLast = some .directory →
          (fs.set loc (.file content)).shapeAt loc
            = some (Shape.written content (fs.shapeAt loc))) := by
  refine ⟨?_, ?_⟩
  · intro loc' hne
    rw [shapeAt_set rfl hfree]
    exact if_neg fun hand => hne hand.1
  · intro hdir
    rw [shapeAt_set rfl hfree, if_pos ⟨rfl, hdir⟩, Shape.written_eq_file hdevice]
    rfl

/-- **A write changes one location.** -/
theorem write_shapeAt {fs fs' : FileSystem} {path : ByteString} {content : ByteArray}
    (h : fs.write path content = .ok fs') :
    ∃ t, fs.resolve path = .ok t ∧ fs'.cwd = fs.cwd
      ∧ fs.shapeAt t.location ≠ some .directory
      ∧ (∀ loc, loc ≠ t.location → fs'.shapeAt loc = fs.shapeAt loc)
      ∧ (fs.shapeAt t.location.dropLast = some .directory →
          fs'.shapeAt t.location = some (Shape.written content (fs.shapeAt t.location))) := by
  obtain ⟨t, ht, ⟨loc, old, rfl, rfl⟩ | ⟨loc, rfl, heq⟩ | ⟨loc, name, rfl, rfl⟩⟩ := write_cases h
  · have hs : fs.shapeAt loc = some (.file old) := shapeAt_of_found ht
    have hfree : fs.shapeAt loc ≠ some .directory := by simp [hs]
    have hdevice : fs.shapeAt loc ≠ some .device := by simp [hs]
    exact ⟨_, ht, rfl, hfree, set_file_shapeAt hfree hdevice⟩
  · -- a device takes the bytes, and the file system stays as it is
    have hs : fs.shapeAt loc = some .device := shapeAt_of_found ht
    rw [heq]
    refine ⟨_, ht, rfl, ?_, fun _ _ => rfl, ?_⟩
    · show fs.shapeAt loc ≠ _
      simp [hs]
    · intro _
      show fs.shapeAt loc = some (Shape.written content (fs.shapeAt loc))
      rw [hs]
      rfl
  · have hs : fs.shapeAt (loc ++ [name]) = none := shapeAt_of_vacant ht
    have hfree : fs.shapeAt (loc ++ [name]) ≠ some .directory := by simp [hs]
    have hdevice : fs.shapeAt (loc ++ [name]) ≠ some .device := by simp [hs]
    exact ⟨_, ht, rfl, hfree, set_file_shapeAt hfree hdevice⟩

/-- What a write does not replace stays, and a file that it replaces stays a file. -/
theorem write_grows {fs fs' : FileSystem} {path : ByteString} {content : ByteArray}
    (h : fs.write path content = .ok fs') : Grows fs fs' := by
  obtain ⟨t, ht, hcwd, -, hother, hhere⟩ := write_shapeAt h
  refine ⟨hcwd, ?_⟩
  intro loc s hs
  by_cases hloc : loc = t.location
  · rw [hloc, hhere (shapeAt_above (hloc ▸ hs)), ← hloc, hs]
    obtain ⟨t', ht', hcases⟩ := write_cases h
    rw [ht] at ht'
    cases ht'
    rw [hloc] at hs
    -- what is replaced is a file, or a device that stays; a free name holds nothing
    rcases hcases with ⟨l, old, rfl, -⟩ | ⟨l, rfl, -⟩ | ⟨l, n, rfl, -⟩
    · cases hs.symm.trans (shapeAt_of_found ht)
      rfl
    · cases hs.symm.trans (shapeAt_of_found ht)
      rfl
    · cases hs.symm.trans (shapeAt_of_vacant ht)
  · rw [hother loc hloc, hs]
    rfl

/-- In a well-formed file system the place of a write is in a directory. -/
theorem resolve_in_directory {fs : FileSystem} (hw : fs.WellFormed) {path : ByteString} {t : Target}
    (h : fs.resolve path = .ok t) (hfree : fs.shapeAt t.location ≠ some .directory) :
    fs.shapeAt t.location.dropLast = some .directory
      ∧ ∀ n ∈ t.location.getLast?, validName n = true := by
  obtain ⟨-, hf⟩ := resolve_eq_follow h
  cases t with
  | found loc e =>
      have hs := shapeAt_of_find? (follow_found hf)
      refine ⟨shapeAt_above hs, ?_⟩
      intro m hm
      exact Entries.validName_of_shapeAt hw.ordered hs m (List.mem_of_getLast? hm)
  | vacant d n =>
      -- a free name comes from the spelling of the path, or of a link on the way
      obtain ⟨hd, hord⟩ := follow_vacant_in (hw.start _)
        (fun m hm => Route.isOrdinary_of_mem_steps hm) hf
      obtain ⟨-, hlen⟩ := follow_vacant hf
      refine ⟨?_, ?_⟩
      · show fs.shapeAt (d ++ [n]).dropLast = _
        rw [List.dropLast_concat]
        exact hd
      · intro m hm
        have hmn : m = n := by simpa [Target.location] using hm.symm
        rw [hmn]
        simp [validName, hord, hlen]

/-- **A write in a well-formed file system**, seen by shapes. -/
theorem write_shapes {fs fs' : FileSystem} (hw : fs.WellFormed) {path : ByteString}
    {content : ByteArray} (h : fs.write path content = .ok fs') :
    ∃ t, fs.resolve path = .ok t ∧ fs.shapeAt t.location ≠ some .directory
      ∧ ∀ loc, fs'.shapeAt loc
          = if loc = t.location then some (Shape.written content (fs.shapeAt t.location))
            else fs.shapeAt loc := by
  obtain ⟨t, ht, -, hfree, hother, hhere⟩ := write_shapeAt h
  refine ⟨t, ht, hfree, ?_⟩
  intro loc
  split
  · rename_i hloc
    rw [hloc]
    exact hhere (resolve_in_directory hw ht hfree).1
  · rename_i hloc
    exact hother loc hloc

theorem write_wellFormed {fs fs' : FileSystem} (hw : fs.WellFormed) {path : ByteString}
    {content : ByteArray} (h : fs.write path content = .ok fs') : fs'.WellFormed := by
  refine ⟨?_, ?_⟩
  · obtain ⟨t, ht, hcases⟩ := write_cases h
    obtain ⟨t', ht', -, hfree, -⟩ := write_shapeAt h
    rw [ht] at ht'
    cases ht'
    have hname := (resolve_in_directory hw ht hfree).2
    rcases hcases with ⟨loc, old, rfl, rfl⟩ | ⟨loc, rfl, heq⟩ | ⟨loc, n, rfl, rfl⟩
    · exact Entries.set_wellFormed hname rfl hw.ordered
    · rw [heq]
      exact hw.ordered
    · exact Entries.set_wellFormed hname rfl hw.ordered
  · have hgrows := write_grows h
    rw [hgrows.cwd]
    exact hgrows.directory hw.working

theorem write_linkFree {fs fs' : FileSystem} (hw : fs.WellFormed) (hfree : fs.LinkFree)
    {path : ByteString} {content : ByteArray} (h : fs.write path content = .ok fs') :
    fs'.LinkFree := by
  obtain ⟨t, -, -, hshapes⟩ := write_shapes hw h
  intro loc target
  rw [hshapes]
  split
  · exact Shape.written_ne_link content _ target
  · exact hfree loc target

/-! ## §3. Reading afterwards -/

theorem isEnd_of_written {e : Entry} {content : ByteArray} {old : Option Shape}
    (h : e.shape = Shape.written content old) : e.isEnd = true := by
  cases e with
  | file c => rfl
  | device => rfl
  | link target => exact absurd (congrArg some h.symm) (Shape.written_ne_link content old target)
  | directory es => exact absurd h.symm (Shape.written_ne_directory content old)

/-- A path that can be read reads as before when its file stays as it is. -/
theorem readBytes_of_keep {fs fs' : FileSystem} (hg : Grows fs fs') {path : ByteString}
    {content : ByteArray} {loc : Location} (hr : fs.readBytes path = .ok content)
    (hl : fs.locate? path = some loc) (hs : fs'.shapeAt loc = fs.shapeAt loc) :
    fs'.readBytes path = fs.readBytes path := by
  obtain ⟨loc', hl', hshape⟩ := locate?_of_readBytes hr
  rw [hl] at hl'
  cases hl'
  have hl' := locate?_grows hg hl
  rcases hshape with hshape | ⟨hshape, rfl⟩
  · exact readBytes_grows hg hl hshape (hs.trans hshape)
  · rw [hr, readBytes_device hl' (hs.trans hshape)]

/-- A path that can be read reads as before when only directories are added. -/
theorem readBytes_adds {fs fs' : FileSystem} (h : AddsDirectories fs fs') {path : ByteString}
    {content : ByteArray} (hr : fs.readBytes path = .ok content) :
    fs'.readBytes path = fs.readBytes path := by
  obtain ⟨loc, hl, hshape⟩ := locate?_of_readBytes hr
  refine readBytes_of_keep h.grows hr hl ?_
  rcases hshape with hshape | ⟨hshape, -⟩
  · rw [hshape, h.keep hshape]
  · rw [hshape, h.keep hshape]

/-- A write replaces the file at a location exactly when its path leads there. -/
theorem write_at_file {fs fs' : FileSystem} {path : ByteString} {content old : ByteArray}
    {loc : Location} (h : fs.write path content = .ok fs')
    (hs : fs.shapeAt loc = some (.file old)) :
    (fs.locate? path = some loc ∧ fs'.shapeAt loc = some (.file content))
      ∨ (fs.locate? path ≠ some loc ∧ fs'.shapeAt loc = fs.shapeAt loc) := by
  obtain ⟨t, ht, -, -, hother, hhere⟩ := write_shapeAt h
  by_cases hloc : loc = t.location
  · subst hloc
    refine Or.inl ?_
    cases t with
    | found l e =>
        have hl : fs.locate? path = some l := locate?_eq_some.mpr ⟨e, entryAt_iff.mpr ht⟩
        refine ⟨hl, ?_⟩
        rw [hhere (shapeAt_above hs), hs]
        rfl
    | vacant d n =>
        cases hs.symm.trans (shapeAt_of_vacant ht)
  · refine Or.inr ⟨?_, hother loc hloc⟩
    intro hl
    obtain ⟨e, he⟩ := locate?_eq_some.mp hl
    rw [entryAt_iff.mp he] at ht
    cases ht
    exact hloc rfl

/-- **After a write its path leads to what was written**, whatever links are on the way. -/
theorem entryAt_write {fs fs' : FileSystem} (hw : fs.WellFormed) {path : ByteString}
    {content : ByteArray} (h : fs.write path content = .ok fs') {t : Target}
    (ht : fs.resolve path = .ok t) :
    ∃ e, fs'.entryAt path = .ok (t.location, e) ∧ e.isEnd = true := by
  have hgrows := write_grows h
  obtain ⟨hr, hf⟩ := resolve_eq_follow ht
  -- what stands there now is a file, or the device that stood there before
  obtain ⟨e, he, hend⟩ : ∃ e, fs'.find? t.location = some e ∧ e.isEnd = true := by
    obtain ⟨t', ht', -, hshapes⟩ := write_shapes hw h
    cases ht.symm.trans ht'
    have hthere := hshapes t.location
    rw [if_pos rfl] at hthere
    obtain ⟨e, he, hshape⟩ := find?_of_shapeAt hthere
    exact ⟨e, he, isEnd_of_written hshape⟩
  refine ⟨e, entryAt_iff.mpr ?_, hend⟩
  rw [resolve_of_route hr, hgrows.start]
  cases t with
  | found loc old =>
      obtain ⟨now, hnow⟩ := follow_grows hgrows hf
      have hsame : some now = some e := (follow_found hnow).symm.trans he
      rw [hnow, Option.some.inj hsame]
      rfl
  | vacant d n => exact follow_filled hgrows he hend hf

/-- A write to a path that leads to a file succeeds. -/
theorem write_of_locate? {fs : FileSystem} {path : ByteString} {old : ByteArray} {loc : Location}
    (hl : fs.locate? path = some loc) (hs : fs.shapeAt loc = some (.file old))
    (content : ByteArray) : fs.write path content = .ok (fs.set loc (.file content)) := by
  unfold write
  rw [entryAt_iff.mp (entryAt_file hl hs)]

/-- A write to a path that ends at a file or a device succeeds. -/
theorem write_of_isEnd {fs : FileSystem} {path : ByteString} {loc : Location} {e : Entry}
    (he : fs.entryAt path = .ok (loc, e)) (hend : e.isEnd = true) (content : ByteArray) :
    ∃ done, fs.write path content = .ok done := by
  unfold write
  rw [entryAt_iff.mp he]
  cases e with
  | file old => exact ⟨_, rfl⟩
  | device => exact ⟨_, rfl⟩
  | link target => cases hend
  | directory es => cases hend

end FileSystem

end TestScaffold
