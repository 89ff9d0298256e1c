/-
  TestScaffold.Proofs.Discovery.LongPaths — paths as long as the system takes them.

  Slashes behind the path of a directory change its length and not where it leads.  So a
  directory has a path of the greatest length, and below that path every file has one that
  the system does not look at any more, although it can be listed and traced:

    * `entryAt_padded` — slashes may be put behind the path of a directory;
    * `SpellsLongest`, `longest_spells` — a path of the greatest length to a directory;
    * `SpellsLongest.expand_path`, `SpellsLongest.identity_module` — the module below it is
      listed, and it is the one that a shorter path leads to;
    * `SpellsLongest.route_module` — but its own path is not looked at;
    * `canonical?_cellar` — a module with a short path in a directory whose own path has the
      greatest length.
-/
import TestScaffold.Proofs.Discovery.Exclusion
import TestScaffold.Proofs.Discovery.Sources
import TestScaffold.Proofs.FileSystem.Identity

namespace TestScaffold

/-! ## §1. Slashes behind a path -/

namespace Path

/-- A path with slashes behind it. -/
def padded (path : ByteString) (n : Nat) : ByteString :=
  path ++ ByteString.ofList (List.replicate n slash)

theorem toList_padded (path : ByteString) (n : Nat) :
    (padded path n).toList = path.toList ++ List.replicate n slash := rfl

theorem size_padded (path : ByteString) (n : Nat) :
    (padded path n).size = path.size + n := by
  rw [ByteString.size, toList_padded, List.length_append, List.length_replicate]
  rfl

/-- Slashes at the end spell no step. -/
theorem spelled_padded (path : ByteString) (n : Nat) :
    Route.spelled (padded path n).toList = Route.spelled path.toList := by
  have hnone : ∀ n, Route.segments (List.replicate n slash) = [] := by
    intro n
    induction n with
    | zero => rfl
    | succ n ih => rw [List.replicate_succ, Route.segments_cons_slash, ih]
  unfold Route.spelled
  rw [toList_padded]
  cases n with
  | zero => rw [List.replicate_zero, List.append_nil]
  | succ n => rw [List.replicate_succ, Route.segments_append, hnone, List.append_nil]

theorem head?_padded {path : ByteString} (h : path.toList ≠ []) (n : Nat) :
    (padded path n).toList.head? = path.toList.head? := by
  rw [toList_padded, List.head?_append, Option.or_of_isSome (List.isSome_head?.mpr h)]

theorem names_padded (path : ByteString) (n : Nat) : names (padded path n) = names path := by
  unfold names
  rw [spelled_padded]

theorem size_join_le {outer name : ByteString} (h : isOrdinary name = true) :
    outer.size + name.size ≤ (join outer name).size := by
  have hsub : (outer.toList ++ name.toList).Sublist (join outer name).toList := by
    rw [toList_join]
    obtain ⟨hnil, hjoin⟩ | ⟨front, hfront, hjoin⟩ | ⟨-, -, hjoin⟩ :=
      joinBytes_of_relative outer.toList (head?_ordinary h)
    · rw [hjoin, hnil]
      exact List.Sublist.refl _
    · rw [hjoin, hfront, List.append_assoc]
      exact List.Sublist.refl _
    · rw [hjoin]
      exact (List.sublist_cons_self slash name.toList).append_left outer.toList
  have hsize := hsub.length_le
  rwa [List.length_append] at hsize

end Path

namespace FileSystem

/-- A directory is also found with slashes behind its path, as long as they are not too many. -/
theorem entryAt_padded {fs : FileSystem} {path : ByteString} {loc : Location} {es : Entries}
    (h : fs.entryAt path = .ok (loc, .directory es)) (hlast : path.toList.getLast? ≠ some slash)
    {n : Nat} (hlen : path.size + n ≤ maxPathBytes) :
    fs.entryAt (Path.padded path n) = .ok (loc, .directory es) := by
  obtain ⟨hroute, hf⟩ := resolve_eq_follow (entryAt_iff.mp h)
  obtain ⟨hzero, hne, -, -⟩ := route_ok_iff.mp hroute
  have hnil : path.toList ≠ [] := fun hnil => hne (ByteString.toList_inj.mp hnil)
  have hroute' : route (Path.padded path n) = .ok (Route.ofPath (Path.padded path n)) := by
    refine route_ok_iff.mpr ⟨?_, ?_, ?_, rfl⟩
    · rwa [Path.mem_iff_of_names (Path.names_padded path n) (by decide) (by decide)]
    · intro hempty
      have hchars := Path.toList_padded path n
      rw [hempty] at hchars
      exact hnil (List.append_eq_nil_iff.mp hchars.symm).1
    · rw [Path.size_padded]
      exact hlen
  have hstart : fs.start (Route.ofPath (Path.padded path n)) = fs.start (Route.ofPath path) := by
    unfold start
    rw [Route.ofPath_fromRoot, Route.ofPath_fromRoot, Path.head?_padded hnil]
  -- the last slash asks for a directory, and it is one
  have hstay : ∀ (j : Nat) onLink, fs.walkSteps onLink loc (List.replicate j .here)
      = .ok (.found loc (.directory es)) := by
    intro j onLink
    induction j with
    | zero => exact walkSteps_nil (entryAt_found h)
    | succ j ih => exact ih
  obtain ⟨i, hi, hzeroSteps⟩ := Route.ofPath_steps path
  obtain ⟨j, hj, -⟩ := Route.ofPath_steps (Path.padded path n)
  rw [hzeroSteps hlast, List.replicate_zero, List.append_nil] at hi
  rw [hi] at hf
  rw [entryAt_iff, resolve_of_route hroute', hstart, hj, Path.spelled_padded]
  exact follow_append_directory (hstay j) hf

/-! ## §2. A path of the greatest length -/

/-- A module in a directory. -/
def nested : FileSystem :=
  { top := [("d", .directory [("a.py", .file "def f():\n  pass\n".toUTF8)])] }

theorem nested_wellFormed : nested.WellFormed :=
  ⟨by decide, by decide⟩

theorem nested_linkFree : nested.LinkFree :=
  linkFree_of_entries (by decide)

/-- A spelling of the directory with as many bytes as the system takes. -/
structure SpellsLongest (path : ByteString) : Prop where
  /-- It goes down to the directory. -/
  names : Path.names path = ["d"]
  /-- It never goes up. -/
  downward : .up ∉ Route.spelled path.toList
  /-- It has the greatest length. -/
  size : path.size = maxPathBytes
  /-- It leads to the directory. -/
  leads : nested.entryAt path = .ok (["d"], .directory [("a.py", .file "def f():\n  pass\n".toUTF8)])

namespace SpellsLongest

variable {path : ByteString} (h : SpellsLongest path)
include h

theorem isDirectory_path : nested.isDirectory path = true := by
  unfold isDirectory
  rw [h.leads]

/-- The module below it has the names that it has below the shortest spelling. -/
theorem names_module : Path.names (Path.join path "a.py") = Path.names "d/a.py" := by
  rw [Path.names_join (by decide), h.names]
  decide

omit h in
theorem fileName?_module : Path.fileName? (Path.join path "a.py") = Path.fileName? "d/a.py" :=
  Path.fileName?_of_steps (Path.steps_join (by decide))

theorem expand_path : nested.expand path = .ok [Path.join path "a.py"] := by
  have hlisted : listing pythonExtension path [("a.py", .file "def f():\n  pass\n".toUTF8)]
      = [Path.join path "a.py"] := by
    have hname : Path.hasExtension "a.py" pythonExtension = true := by decide
    simp [listing, listedIn, listedAt, hname]
  rw [← hlisted]
  refine expand_directory nested_wellFormed h.leads ((listable_iff h.leads).mpr ?_)
  intro rel inner hne hfind
  -- the module is the only entry
  obtain ⟨n, ns, rfl⟩ := List.exists_cons_of_ne_nil hne
  rw [Entries.find?_cons] at hfind
  obtain ⟨e, he, hbelow⟩ := Option.bind_eq_some_iff.mp hfind
  have hmodule := Text.mem_of_lookup he
  cases List.mem_singleton.mp hmodule
  exact absurd hbelow (Entry.below?_ne_directory Shape.noConfusion ns inner)

theorem accepts_module : ({} : FilterSettings).accepts (Path.join path "a.py") = true := by
  -- the ignored folder has letters that are not in the only name above the module
  have hnames : Path.names (Path.directory (Path.join path "a.py")) = ["d"] := by
    have hfile : Path.fileName? (Path.join path "a.py") = some (.ofText "a.py") :=
      fileName?_module.trans (by decide)
    have hall := Path.names_of_fileName hfile
    rw [h.names_module] at hall
    exact (List.append_inj' hall.symm rfl).1
  have hfolder : ({} : FilterSettings).inIgnoredFolder (Path.join path "a.py") = false := by
    rw [← Bool.not_eq_true]
    intro hignored
    obtain ⟨token, htoken, hoccurs⟩ := FilterSettings.inIgnoredFolder_iff.mp hignored
    cases List.mem_singleton.mp htoken
    have hletter : 't' ∈ "tests".toList := by decide
    obtain ⟨n, hn, hpart⟩ :=
      Path.exists_name_of_infix (by decide) ⟨'t', hletter, by decide⟩ hoccurs
    rw [hnames] at hn
    cases List.mem_singleton.mp hn
    exact absurd (hpart.subset hletter) (by decide)
  have hbusiness : isBusinessModule (Path.join path "a.py") = true := by
    unfold isBusinessModule
    rw [Path.stem_congr fileName?_module]
    decide
  unfold FilterSettings.accepts
  rw [hfolder, hbusiness]
  rfl

theorem identity_module : nested.identity (Path.join path "a.py") = nested.identity "d/a.py" := by
  have hname : Path.isOrdinary "a.py" = true := by decide
  have htrace : nested.traced? (["a.py"].foldl Path.join path) = some (["d", "a.py"] : Location) :=
    traced?_listed nested_wellFormed h.leads (by decide) rfl
  have hdown : nested.LeadsDown (Path.join path "a.py") ["d", "a.py"] := by
    refine ⟨?_, htrace, _, rfl, Shape.noConfusion⟩
    rw [Path.steps_join hname]
    simpa using h.downward
  rw [identity_of_canonical?
    ((hdown.canonical?_eq nested_wellFormed nested_linkFree).trans (if_pos (by decide)))]
  decide

theorem size_module : maxPathBytes < (Path.join path "a.py").size := by
  have hsize : path.size + ("a.py" : ByteString).size ≤ (Path.join path "a.py").size :=
    Path.size_join_le (by decide)
  have hname : ("a.py" : ByteString).size = 4 := by decide
  rw [h.size, hname] at hsize
  omega

/-- The path of the module is too long to be looked at. -/
theorem route_module : route (Path.join path "a.py") = .error .nameTooLong := by
  have hlong := h.size_module
  have hzero : 0 ∉ (Path.join path "a.py").toList := by
    rw [Path.mem_iff_of_names h.names_module (by decide) (by decide)]
    decide
  have hne : Path.join path "a.py" ≠ "" := by
    intro hempty
    rw [hempty] at hlong
    exact absurd hlong (by decide)
  unfold route
  rw [if_neg (by simpa using hzero), if_neg (by simpa using hne), if_pos hlong]

end SpellsLongest

theorem longest_spells : SpellsLongest (Path.padded "d" 4094) := by
  refine ⟨?_, ?_, ?_, ?_⟩
  · rw [Path.names_padded]
    decide
  · rw [Path.spelled_padded]
    decide
  · rw [Path.size_padded]
    rfl
  · exact entryAt_padded rfl (by decide) (by decide)

theorem longest_relative : Path.isAbsolute (Path.padded "d" 4094) = false
    ∧ .parent ∉ Path.components (Path.padded "d" 4094) := by
  refine ⟨?_, Path.parent_not_mem_components longest_spells.downward⟩
  unfold Path.isAbsolute
  rw [Path.head?_padded (by decide)]
  decide

/-! ## §3. A working directory of the greatest length -/

/-- A name of which twenty-one make a path of the greatest length. -/
def deepName : ByteString := .ofList (List.replicate 194 110)

/-- Directories of that name in one another. -/
def nest : Nat → Entries → Entries
  | 0, es => es
  | k + 1, es => [(deepName, .directory (nest k es))]

theorem find?_nest (k : Nat) (es : Entries) (loc : Location) :
    Entries.find? (nest k es) (List.replicate k deepName ++ loc) = Entries.find? es loc := by
  induction k with
  | zero => rfl
  | succ k ih =>
      rw [List.replicate_succ, List.cons_append, Entries.find?_cons, nest, List.lookup_cons_self,
        Option.bind_some, Entry.below?_directory, ih]

theorem wellFormed_nest {es : Entries} (h : entriesWellFormed es = true) (k : Nat) :
    entriesWellFormed (nest k es) = true := by
  induction k with
  | zero => exact h
  | succ k ih =>
      refine Entries.wellFormed_cons.mpr ⟨by decide +kernel, ?_, ih, rfl⟩
      exact fun p hp => absurd hp List.not_mem_nil

/-- A module with a link to it, in a working directory whose path is as long as paths may be. -/
def cellar : FileSystem :=
  { top := nest 21 [("a.py", .file .empty), ("b.py", .link "a.py")]
    cwd := List.replicate 21 deepName }

theorem find?_cellar (loc : Location) :
    cellar.find? (cellar.cwd ++ loc)
      = Entries.find? [("a.py", .file .empty), ("b.py", .link "a.py")] loc :=
  find?_nest 21 _ loc

theorem cellar_wellFormed : cellar.WellFormed where
  ordered := wellFormed_nest (by decide) 21
  working := by
    have h := find?_cellar []
    rw [List.append_nil] at h
    exact shapeAt_of_find? h

theorem entryAt_cellar_module :
    cellar.entryAt "a.py" = .ok (cellar.cwd ++ (["a.py"] : Location), .file .empty) := by
  rw [entryAt_iff, resolve_of_route rfl]
  exact walkSteps_down_end (by decide) (find?_cellar ["a.py"]) rfl

theorem entryAt_cellar_link :
    cellar.entryAt "b.py" = .ok (cellar.cwd ++ (["a.py"] : Location), .file .empty) := by
  rw [entryAt_iff, resolve_of_route rfl]
  refine (walkSteps_down_link (by decide) (find?_cellar ["b.py"])).trans ?_
  exact walkSteps_down_end (by decide) (find?_cellar ["a.py"]) rfl

/-- The module has no canonical path, whichever way it is reached. -/
theorem canonical?_cellar {path : ByteString}
    (h : cellar.entryAt path = .ok (cellar.cwd ++ (["a.py"] : Location), .file .empty)) :
    cellar.canonical? path = none := by
  refine canonical?_of_deep cellar_wellFormed h Shape.noConfusion ?_
  rw [size_path (by simp)]
  decide +kernel

end FileSystem

end TestScaffold
