/-
  TestScaffold.Proofs.Discovery.Walk — the walk below a directory, as a list of names.

  The walk spells a path for every file that it meets.  Such a path is the path of the
  directory with the names on the way joined to it, so the walk is known from these names:

    * `Path.hasExtension_iff` — which names have an extension;
    * `listedIn`, `listing` — the names on the way to each file, and the paths made of them;
    * `filesIn_eq_ok_iff`, `filesIn_error` — these are listed, unless a directory has a path that is
      too long;
    * `mem_listedIn` — the files that are met.
-/
import TestScaffold.Discovery
import TestScaffold.Proofs.FileSystem.Resolution

namespace TestScaffold

/-! ## §1. Names with an extension -/

namespace Path

/-- A name is cut at its last dot if something stands before it. -/
theorem cutExtension_dotted {before ext : List UInt8} (hne : before ≠ []) (hdot : dot ∉ ext) :
    cutExtension (before ++ dot :: ext) = (before, some ext) := by
  have hext : ((before ++ dot :: ext).reverse.takeWhile (· != dot)).reverse = ext := by
    have hpos : ∀ c ∈ ext.reverse, (c != dot) = true := by
      intro c hc
      rw [bne_iff_ne]
      rintro rfl
      exact hdot (List.mem_reverse.mp hc)
    rw [List.reverse_append, List.reverse_cons, List.append_assoc,
      List.takeWhile_append_of_pos hpos]
    simp
  have hlen : (before ++ dot :: ext).length = before.length + ext.length + 1 := by
    rw [List.length_append, List.length_cons, Nat.add_assoc]
  have hbefore : before.length + ext.length + 1 - ext.length - 1 = before.length := by omega
  have hshorter : ext.length ≠ before.length + ext.length + 1 := by omega
  simp only [cutExtension, hext, hlen, hbefore, List.take_left]
  rw [if_neg]
  simp [hne, hshorter]

/-- What is cut off has something before it. -/
theorem before_ne_nil_of_cutExtension {name before ext : List UInt8}
    (h : cutExtension name = (before, some ext)) : before ≠ [] := by
  simp only [cutExtension] at h
  split at h
  · cases h
  · rename_i hcut
    rw [Bool.or_eq_true, not_or, List.isEmpty_iff] at hcut
    cases h
    exact hcut.2

theorem fileName?_of_ordinary {name : ByteString} (hord : isOrdinary name = true) :
    fileName? name = some name := by
  have hjoin : join "" name = name := by
    rw [← ByteString.toList_inj, toList_join]
    obtain ⟨-, h⟩ | ⟨front, hfront, -⟩ | ⟨hnil, -, -⟩ :=
      joinBytes_of_relative (ByteString.ofText "").toList (head?_ordinary hord)
    · exact h
    · simp at hfront
    · exact absurd rfl hnil
  have hsteps : (Route.ofPath (join "" name)).steps = Route.spelled [] ++ [.down name] :=
    steps_join hord
  rw [hjoin] at hsteps
  exact fileName?_of_steps hsteps

/-- **A name has an extension** if it is something, a dot, and the extension. -/
theorem hasExtension_iff {name : ByteString} {ext : String} (hord : isOrdinary name = true)
    (hdot : dot ∉ (ext : ByteString).toList) :
    hasExtension name ext = true ↔ ∃ stem : ByteString, stem ≠ "" ∧ name = stem ++ "." ++ ext := by
  have hchars : fileNameBytes? name.toList = some name.toList :=
    fileNameBytes?_of_fileName? (fileName?_of_ordinary hord)
  simp only [hasExtension, extension?, hchars, beq_iff_eq, Option.map_eq_some_iff]
  constructor
  · rintro ⟨e, he, hext⟩
    obtain ⟨before, hcut⟩ : ∃ before, cutExtension name.toList = (before, some e) :=
      ⟨(cutExtension name.toList).1, by rw [← he]⟩
    refine ⟨ByteString.ofList before, ?_, ?_⟩
    · intro hempty
      exact before_ne_nil_of_cutExtension hcut (congrArg ByteString.toList hempty)
    · rw [← ByteString.toList_inj, cutExtension_append hcut, ← hext]
      simp
  · rintro ⟨stem, hne, rfl⟩
    refine ⟨(ext : ByteString).toList, ?_, ByteString.ofList_toList _⟩
    have hstem : stem.toList ≠ [] := fun hnil => hne (ByteString.toList_inj.mp hnil)
    rw [ByteString.toList_append, ByteString.toList_append, List.append_assoc]
    exact congrArg Prod.snd (cutExtension_dotted hstem hdot)

/-- What is joined to a path has the extension of its last name. -/
theorem hasExtension_join {path name : ByteString} (hord : isOrdinary name = true) (ext : String) :
    hasExtension (join path name) ext = hasExtension name ext :=
  hasExtension_congr
    ((fileName?_of_steps (steps_join hord)).trans (fileName?_of_ordinary hord).symm) ext

end Path

namespace FileSystem

/-! ## §2. The walk -/

mutual

/-- The names from an entry down to each file with the extension that is listed there. -/
def listedAt (extension : String) (name : ByteString) : Entry → List (List ByteString)
  | .file _ => if Path.hasExtension name extension then [[name]] else []
  | .link _ | .device => []
  | .directory es => (listedIn extension es).map (name :: ·)

/-- The same for the entries of a directory. -/
def listedIn (extension : String) : List (ByteString × Entry) → List (List ByteString)
  | [] => []
  | (name, entry) :: rest => listedAt extension name entry ++ listedIn extension rest

end

/-- The paths of the files with the extension below the entries of a directory. -/
def listing (extension : String) (path : ByteString) (es : Entries) : List ByteString :=
  (listedIn extension es).map (·.foldl Path.join path)

theorem listing_cons (extension : String) (path name : ByteString) (e : Entry) (rest : Entries) :
    listing extension path ((name, e) :: rest)
      = (listedAt extension name e).map (·.foldl Path.join path) ++ listing extension path rest := by
  rw [listing, listing, listedIn, List.map_append]

theorem map_listedAt_directory (extension : String) (path name : ByteString) (es : Entries) :
    (listedAt extension name (.directory es)).map (·.foldl Path.join path)
      = listing extension (Path.join path name) es := by
  rw [listedAt, List.map_map]
  rfl

/-- The paths of the directories below the entries of a directory are not too long. -/
def ShortBelow (path : ByteString) (es : Entries) : Prop :=
  ∀ rel inner, rel ≠ [] → Entries.find? es rel = some (.directory inner) →
    (rel.foldl Path.join path).size ≤ maxPathBytes

/-- A row of files is listed if the files of its first entry and of the rest are. -/
theorem filesIn_cons_ok {extension : String} {path name : ByteString} {e : Entry} {rest : Entries}
    {files : List ByteString} (h : filesIn extension path ((name, e) :: rest) = .ok files) :
    ∃ own more, filesAt extension (Path.join path name) e = .ok own
      ∧ filesIn extension path rest = .ok more ∧ files = own ++ more := by
  rw [filesIn] at h
  cases hown : filesAt extension (Path.join path name) e with
  | error directory => simp [hown, bind, Except.bind] at h
  | ok own =>
      cases hmore : filesIn extension path rest with
      | error directory => simp [hown, hmore, bind, Except.bind] at h
      | ok more =>
          simp only [hown, hmore, bind, Except.bind, Except.ok.injEq] at h
          exact ⟨own, more, rfl, rfl, h.symm⟩

theorem filesIn_cons_error {extension : String} {path name directory : ByteString} {e : Entry} {rest : Entries}
    (h : filesIn extension path ((name, e) :: rest) = .error directory) :
    filesAt extension (Path.join path name) e = .error directory
      ∨ filesIn extension path rest = .error directory := by
  rw [filesIn] at h
  cases hown : filesAt extension (Path.join path name) e with
  | error other =>
      simp only [hown, bind, Except.bind, Except.error.injEq] at h
      exact Or.inl (by rw [h])
  | ok own =>
      cases hmore : filesIn extension path rest with
      | error other =>
          simp only [hown, hmore, bind, Except.bind, Except.error.injEq] at h
          exact Or.inr (by rw [h])
      | ok more => simp [hown, hmore, bind, Except.bind] at h

mutual

theorem filesAt_ok {extension : String} {path name : ByteString} {files : List ByteString} (e : Entry)
    (hname : Path.isOrdinary name = true) (hw : e.isWellFormed = true)
    (h : filesAt extension (Path.join path name) e = .ok files) :
    files = (listedAt extension name e).map (·.foldl Path.join path)
      ∧ ∀ tail inner, e.below? tail = some (.directory inner) →
          ((name :: tail).foldl Path.join path).size ≤ maxPathBytes := by
  match e with
  | .file content =>
      rw [filesAt, Path.hasExtension_join hname] at h
      refine ⟨?_, fun tail inner hbelow => absurd hbelow (Entry.below?_ne_directory Shape.noConfusion tail inner)⟩
      rw [← Except.ok.inj h, listedAt]
      split <;> rfl
  | .link _ =>
      rw [filesAt] at h
      cases h
      exact ⟨rfl, fun tail inner hbelow => absurd hbelow (Entry.below?_ne_directory Shape.noConfusion tail inner)⟩
  | .device =>
      rw [filesAt] at h
      cases h
      exact ⟨rfl, fun tail inner hbelow => absurd hbelow (Entry.below?_ne_directory Shape.noConfusion tail inner)⟩
  | .directory es =>
      rw [filesAt] at h
      split at h
      · cases h
      · rename_i hshort
        obtain ⟨hfiles, hbelow⟩ := filesIn_ok es hw h
        refine ⟨by rw [hfiles, map_listedAt_directory], fun tail inner htail => ?_⟩
        -- the directory itself, or one below it
        cases tail with
        | nil => exact Nat.le_of_not_lt hshort
        | cons n ns =>
            rw [Entry.below?_directory] at htail
            rw [List.foldl_cons]
            exact hbelow (n :: ns) inner (List.cons_ne_nil n ns) htail

/-- **A walk that comes to an end** went down the tree, where a path is made of the names on the way,
    and met no directory whose path is too long. -/
theorem filesIn_ok {extension : String} {path : ByteString} {files : List ByteString} (es : List (ByteString × Entry))
    (hw : entriesWellFormed es = true) (h : filesIn extension path es = .ok files) :
    files = listing extension path es ∧ ShortBelow path es := by
  match es with
  | [] =>
      rw [filesIn] at h
      cases h
      refine ⟨rfl, fun rel inner hne hfind => ?_⟩
      obtain ⟨n, ns, rfl⟩ := List.exists_cons_of_ne_nil hne
      cases hfind
  | (name, e) :: rest =>
      obtain ⟨hname, -, he, hrest⟩ := Entries.wellFormed_cons.mp hw
      obtain ⟨own, more, hown, hmore, rfl⟩ := filesIn_cons_ok h
      obtain ⟨rfl, hbelow⟩ := filesAt_ok e (validName_iff.mp hname).1 he hown
      obtain ⟨rfl, hlater⟩ := filesIn_ok rest hrest hmore
      refine ⟨(listing_cons ..).symm, fun rel inner hne hfind => ?_⟩
      obtain ⟨n, ns, rfl⟩ := List.exists_cons_of_ne_nil hne
      rw [Entries.find?_cons] at hfind
      by_cases hn : n = name
      · subst hn
        rw [List.lookup_cons_self] at hfind
        exact hbelow ns inner hfind
      · rw [Entries.lookup_cons_ne hn, ← Entries.find?_cons] at hfind
        exact hlater (n :: ns) inner hne hfind

end

mutual

theorem filesAt_error {extension : String} {path name directory : ByteString} (e : Entry)
    (hw : e.isWellFormed = true) (h : filesAt extension (Path.join path name) e = .error directory) :
    ∃ tail inner, e.below? tail = some (.directory inner)
      ∧ directory = (name :: tail).foldl Path.join path ∧ maxPathBytes < directory.size := by
  match e with
  | .file _ => cases h
  | .link _ => cases h
  | .device => cases h
  | .directory es =>
      rw [filesAt] at h
      split at h
      · rename_i hlong
        cases h
        exact ⟨[], es, rfl, rfl, hlong⟩
      · obtain ⟨rel, inner, hne, hfind, hdirectory, hlong⟩ := filesIn_error es hw h
        obtain ⟨n, ns, rfl⟩ := List.exists_cons_of_ne_nil hne
        refine ⟨n :: ns, inner, ?_, ?_, hlong⟩
        · rw [Entry.below?_directory, hfind]
        · rw [hdirectory, ← List.foldl_cons]

/-- **A walk that breaks off** names a directory whose path is too long. -/
theorem filesIn_error {extension : String} {path directory : ByteString} (es : List (ByteString × Entry))
    (hw : entriesWellFormed es = true) (h : filesIn extension path es = .error directory) :
    ∃ rel inner, rel ≠ [] ∧ Entries.find? es rel = some (.directory inner)
      ∧ directory = rel.foldl Path.join path ∧ maxPathBytes < directory.size := by
  match es with
  | [] => cases h
  | (name, e) :: rest =>
      obtain ⟨-, hlt, he, hrest⟩ := Entries.wellFormed_cons.mp hw
      rcases filesIn_cons_error h with h | h
      · obtain ⟨tail, inner, hbelow, hdirectory, hlong⟩ := filesAt_error e he h
        refine ⟨name :: tail, inner, List.cons_ne_nil _ _, ?_, hdirectory, hlong⟩
        rw [Entries.find?_cons, List.lookup_cons_self]
        exact hbelow
      · obtain ⟨rel, inner, hne, hfind, hdirectory, hlong⟩ := filesIn_error rest hrest h
        obtain ⟨n, ns, rfl⟩ := List.exists_cons_of_ne_nil hne
        refine ⟨n :: ns, inner, hne, ?_, hdirectory, hlong⟩
        -- no later entry has the name of the first
        have hn : n ≠ name := by
          rintro rfl
          rw [Entries.find?_cons] at hfind
          obtain ⟨f, hf, -⟩ := Option.bind_eq_some_iff.mp hfind
          exact ByteString.lt_irrefl _ (hlt _ (Text.mem_of_lookup hf))
        rwa [Entries.find?_cons, Entries.lookup_cons_ne hn, ← Entries.find?_cons]

end

/-- **The walk** lists the files if the paths of all directories are short enough. -/
theorem filesIn_eq_ok_iff {extension : String} {path : ByteString} {files : List ByteString} {es : Entries}
    (hw : entriesWellFormed es = true) :
    filesIn extension path es = .ok files
      ↔ ShortBelow path es ∧ files = listing extension path es := by
  refine ⟨fun h => (filesIn_ok es hw h).symm, fun ⟨hshort, hfiles⟩ => ?_⟩
  cases h : filesIn extension path es with
  | ok other => rw [hfiles, (filesIn_ok es hw h).1]
  | error directory =>
      obtain ⟨rel, inner, hne, hfind, rfl, hlong⟩ := filesIn_error es hw h
      exact absurd (hshort rel inner hne hfind) (Nat.not_le_of_lt hlong)

theorem head_of_mem_listedAt {extension : String} {name : ByteString} {e : Entry} {rel : List ByteString}
    (h : rel ∈ listedAt extension name e) : ∃ tail, rel = name :: tail := by
  cases e with
  | file content =>
      rw [listedAt] at h
      split at h
      · exact ⟨[], List.mem_singleton.mp h⟩
      · exact absurd h List.not_mem_nil
  | link target => exact absurd h List.not_mem_nil
  | device => exact absurd h List.not_mem_nil
  | directory es =>
      obtain ⟨tail, -, rfl⟩ := List.mem_map.mp h
      exact ⟨tail, rfl⟩

/-- What is listed in a directory begins with one of its names. -/
theorem head_of_mem_listedIn {extension : String} {es : Entries} {rel : List ByteString}
    (h : rel ∈ listedIn extension es) : ∃ p ∈ es, ∃ tail, rel = p.1 :: tail := by
  induction es with
  | nil => exact absurd h List.not_mem_nil
  | cons p es ih =>
      rw [listedIn] at h
      rcases List.mem_append.mp h with h | h
      · exact ⟨p, List.mem_cons_self, head_of_mem_listedAt h⟩
      · obtain ⟨q, hq, htail⟩ := ih h
        exact ⟨q, List.mem_cons_of_mem p hq, htail⟩

mutual

theorem mem_listedAt {extension : String} {name : ByteString} {tail : List ByteString} (e : Entry)
    (hw : e.isWellFormed = true) :
    name :: tail ∈ listedAt extension name e
      ↔ (∃ content, e.below? tail = some (.file content))
        ∧ ∃ last ∈ (name :: tail).getLast?, Path.hasExtension last extension = true := by
  match e with
  | .file content => cases tail <;> simp [listedAt, Entry.below?]
  | .link _ => cases tail <;> simp [listedAt, Entry.below?]
  | .device => cases tail <;> simp [listedAt, Entry.below?]
  | .directory es =>
      have hmem : name :: tail ∈ listedAt extension name (.directory es)
          ↔ tail ∈ listedIn extension es := by
        simp [listedAt]
      rw [hmem, mem_listedIn es hw]
      refine and_congr_right fun hfile => ?_
      -- the directory itself is no file
      cases tail with
      | nil =>
          obtain ⟨content, hfile⟩ := hfile
          cases hfile
      | cons n ns => rw [List.getLast?_cons_cons]

/-- **What is listed** are the files with the extension, wherever they stand below the entries. -/
theorem mem_listedIn {extension : String} {rel : List ByteString} (es : List (ByteString × Entry))
    (hw : entriesWellFormed es = true) :
    rel ∈ listedIn extension es
      ↔ (∃ content, Entries.find? es rel = some (.file content))
        ∧ ∃ last ∈ rel.getLast?, Path.hasExtension last extension = true := by
  match es, rel with
  | [], [] => simp [listedIn]
  | [], m :: tail => simp [listedIn, Entries.find?]
  | (n, e) :: rest, [] =>
      have hnone : [] ∉ listedIn extension ((n, e) :: rest) := by
        intro hmem
        obtain ⟨p, -, tail, h⟩ := head_of_mem_listedIn hmem
        cases h
      simp [hnone]
  | (n, e) :: rest, m :: tail =>
      obtain ⟨-, hlt, he, hrest⟩ := Entries.wellFormed_cons.mp hw
      rw [listedIn, List.mem_append, Entries.find?_cons]
      by_cases hm : m = n
      · -- no later entry has this name
        subst hm
        have hlater : m :: tail ∉ listedIn extension rest := by
          intro hmem
          obtain ⟨p, hp, tail', h⟩ := head_of_mem_listedIn hmem
          cases h
          exact ByteString.lt_irrefl _ (hlt p hp)
        rw [List.lookup_cons_self, or_iff_left hlater, mem_listedAt e he]
        rfl
      · have hfirst : m :: tail ∉ listedAt extension n e := by
          intro hmem
          obtain ⟨tail', h⟩ := head_of_mem_listedAt hmem
          cases h
          exact hm rfl
        rw [Entries.lookup_cons_ne hm, ← Entries.find?_cons, or_iff_right hfirst,
          mem_listedIn rest hrest]

end

end FileSystem

end TestScaffold
