/-
  TestScaffold.Proofs.Batch.Order — the order of the paths of a run.

  In another order a run finds the same modules, but perhaps by other spellings: of two
  paths to one file the first is kept.  Without links a spelling that never goes up says no
  more than its names, as long as it is not too long to be looked at:

    * `readBytes_of_names`, `planned?_of_names` — what is read and what is written for a source
      depends on its names;
    * `Gathered.exists_respelling` — the sources in another order are the same, respelled;
    * `generate_order_irrelevant` — so two runs that succeed end in one file system, with equally
      many notes of each kind;
    * `generate_order_matters` — not so with names that are read alike, nor with a spelling that is
      too long: it is taken in place of a shorter one that comes later, and the file is not read.
-/
import Mathlib.Data.List.Nodup
import TestScaffold.Proofs.Batch.Effect
import TestScaffold.Proofs.Batch.Isolation

namespace TestScaffold

open SourceModule

/-! ## §1. Sources with the same names -/

/-- The text of a test module is that of its functions. -/
theorem SourceModule.render_congr {m n : SourceModule} (h : m.functions = n.functions)
    (r : RenderSettings) : m.render r = n.render r := by
  unfold render
  rw [h]

/-- What becomes of a source. -/
inductive Verdict where
  /-- It has functions, so tests are written for it. -/
  | tested
  /-- It has no functions. -/
  | skipped
  /-- It cannot be read or parsed. -/
  | failed
  deriving DecidableEq

namespace FileSystem

/-- What becomes of the source at a path, unless its tests cannot be written. -/
def verdict (fs : FileSystem) (t : ByteString) : Verdict :=
  match fs.scanFile t with
  | .ok m => if m.functions.isEmpty then .skipped else .tested
  | .error _ => .failed

/-- Two paths with the same bytes scan alike: both fail, or both have the same functions. -/
theorem scanFile_alike {fs : FileSystem} {t u : ByteString} (h : fs.readBytes t = fs.readBytes u) :
    (∃ failure failure', fs.scanFile t = .error failure ∧ fs.scanFile u = .error failure')
      ∨ ∃ m n, fs.scanFile t = .ok m ∧ fs.scanFile u = .ok n ∧ m.functions = n.functions := by
  unfold scanFile readText
  rw [h]
  cases fs.readBytes u with
  | error fault => exact Or.inl ⟨_, _, rfl, rfl⟩
  | ok content =>
      simp only [bind, Except.bind]
      cases String.fromUTF8? content with
      | none => exact Or.inl ⟨_, _, rfl, rfl⟩
      | some text =>
          -- a text is scanned without its path
          simp only [scanModule]
          cases scan text with
          | error fault => exact Or.inl ⟨_, _, rfl, rfl⟩
          | ok functions => exact Or.inr ⟨_, _, rfl, rfl, rfl⟩

theorem verdict_congr {fs : FileSystem} {t u : ByteString} (h : fs.readBytes t = fs.readBytes u) :
    fs.verdict t = fs.verdict u := by
  unfold verdict
  obtain ⟨failure, failure', ht, hu⟩ | ⟨m, n, ht, hu, hsame⟩ := scanFile_alike h
  · rw [ht, hu]
  · rw [ht, hu]
    simp only [hsame]

/-- Sources with the same names have the same place for their tests. -/
theorem testPlace_of_names {r : RenderSettings} {base : Location} {t u : ByteString}
    (ht : ∃ name, Path.fileName? t = some name) (hu : ∃ name, Path.fileName? u = some name)
    (h : Path.names t = Path.names u) : testPlace r base t = testPlace r base u := by
  obtain ⟨hdirs, hlast⟩ := Path.same_of_names ht hu h
  unfold testPlace testName
  rw [hdirs, Path.stem_congr hlast]

/-- A path with a zero byte is not looked at. -/
theorem readBytes_of_zero (fs : FileSystem) {t : ByteString} (h : 0 ∈ t.toList) :
    fs.readBytes t = .error .zeroInName := by
  have hroute : route t = .error .zeroInName := by
    unfold route
    rw [if_pos (List.contains_iff_mem.mpr h)]
  simp [readBytes, entryAt, resolve, hroute, bind, Except.bind]

namespace IsSource

variable {fs : FileSystem} (hfree : fs.LinkFree) {s : Settings} {absolute : Bool} {base : Location}
  {t : ByteString}
  (ht : fs.IsSource s absolute base t)
include hfree ht

/-- A source that is looked at reads as the file where its names lead. -/
theorem readBytes_eq (hlen : t.size ≤ maxPathBytes) (hzero : 0 ∉ t.toList) :
    ∃ content, fs.find? (base ++ Path.names t) = some (.file content)
      ∧ fs.readBytes t = .ok content := by
  have hne : t ≠ "" := by
    rintro rfl
    obtain ⟨name, hname⟩ := ht.named
    cases hname
  obtain ⟨loc, content, he⟩ := ht.leads (route_ok_iff.mpr ⟨hzero, hne, hlen, rfl⟩)
  rw [ht.location (Grows.refl fs) hfree he] at he
  refine ⟨content, entryAt_found he, ?_⟩
  unfold readBytes
  rw [he]

end IsSource

section SameNames

variable {fs : FileSystem} (hfree : fs.LinkFree) {s : Settings} {absolute : Bool} {base : Location}
  {t u : ByteString}
  (ht : fs.IsSource s absolute base t) (hu : fs.IsSource s absolute base u)
  (hlen : t.size ≤ maxPathBytes) (hlen' : u.size ≤ maxPathBytes)
  (h : Path.names t = Path.names u)
include hfree ht hu hlen hlen' h

/-- **Sources with the same names read the same**, if both are short enough. -/
theorem readBytes_of_names : fs.readBytes t = fs.readBytes u := by
  -- a zero byte is in both spellings or in none
  have hzero : 0 ∈ t.toList ↔ 0 ∈ u.toList :=
    Path.mem_iff_of_names h (by decide) (by decide)
  by_cases hmem : 0 ∈ t.toList
  · rw [readBytes_of_zero fs hmem, readBytes_of_zero fs (hzero.mp hmem)]
  · obtain ⟨content, hfind, hread⟩ := ht.readBytes_eq hfree hlen hmem
    obtain ⟨content', hfind', hread'⟩ := hu.readBytes_eq hfree hlen' (mt hzero.mpr hmem)
    rw [h, hfind'] at hfind
    cases hfind
    rw [hread, hread']

/-- **So are their tests**, and where they are written. -/
theorem planned?_of_names : fs.planned? s.render base t = fs.planned? s.render base u := by
  have hread := readBytes_of_names hfree ht hu hlen hlen' h
  unfold planned?
  obtain ⟨failure, failure', hscan, hscan'⟩ | ⟨m, n, hscan, hscan', hsame⟩ := scanFile_alike hread
  · rw [hscan, hscan']
  · rw [hscan, hscan']
    simp only [hsame, testPlace_of_names ht.named hu.named h, render_congr hsame]

end SameNames

/-! ## §2. The sources in another order -/

/-- What a run starts with: the sources that are collected for its paths.  They are Python modules
    below one location, and none of them is spelled too long. -/
structure Gathered (fs : FileSystem) (s : Settings) (absolute : Bool) (base : Location)
    (paths sources : List ByteString) : Prop where
  /-- They are collected for the paths. -/
  collected : fs.collect s.filter paths = .ok sources
  /-- They start together and never go up. -/
  source : ∀ t ∈ sources, fs.IsSource s absolute base t
  /-- They are Python modules. -/
  python : ∀ t ∈ sources, Path.hasExtension t pythonExtension = true
  /-- They are short enough to be looked at. -/
  short : ∀ t ∈ sources, t.size ≤ maxPathBytes

namespace Gathered

variable {fs : FileSystem} (hw : fs.WellFormed) (hfree : fs.LinkFree) {s : Settings}
  {absolute : Bool} {base : Location} {paths paths' sources sources' : List ByteString}
  (h : fs.Gathered s absolute base paths sources) (h' : fs.Gathered s absolute base paths' sources')

include hw hfree h in
/-- Two sources of one run do not have the same names. -/
theorem eq_of_names {a b : ByteString} (ha : a ∈ sources) (hb : b ∈ sources)
    (hnames : Path.names a = Path.names b) : a = b :=
  eq_of_identity_collect h.collected ha hb
    (((h.source a ha).identity_eq_iff hw hfree (h.source b hb)).mpr hnames)

include hw hfree h h' in
/-- A source is also found from the same paths in another order, perhaps by another spelling. -/
theorem counterpart (hperm : paths.Perm paths') {t : ByteString} (ht : t ∈ sources) :
    ∃ u ∈ sources', Path.names u = Path.names t := by
  obtain ⟨haccepts, path, hpath, part, hpart, hmem⟩ := mem_collect h.collected ht
  obtain ⟨u, hu, hidentity⟩ :=
    exists_mem_collect h'.collected (hperm.mem_iff.mp hpath) hpart hmem haccepts
  exact ⟨u, hu, ((h'.source u hu).identity_eq_iff hw hfree (h.source t ht)).mp hidentity⟩

include hw hfree h h' in
/-- **The sources in another order** are the same sources, each in one of its spellings. -/
theorem exists_respelling (hperm : paths.Perm paths') :
    ∃ respell : ByteString → ByteString, (sources.map respell).Perm sources'
      ∧ ∀ t ∈ sources, respell t ∈ sources' ∧ Path.names (respell t) = Path.names t := by
  have hall : ∀ t, ∃ u, t ∈ sources → u ∈ sources' ∧ Path.names u = Path.names t := by
    intro t
    by_cases ht : t ∈ sources
    · obtain ⟨u, hu⟩ := counterpart hw hfree h h' hperm ht
      exact ⟨u, fun _ => hu⟩
    · exact ⟨t, fun hmem => absurd hmem ht⟩
  obtain ⟨respell, hrespell⟩ := Classical.skolem.mp hall
  refine ⟨respell, ?_, hrespell⟩
  -- both lists have each of their members once, so it is enough that they have the same members
  have hnodup : (sources.map respell).Nodup := by
    refine List.Nodup.map_on ?_ (nodup_collect h.collected)
    intro a ha b hb heq
    refine eq_of_names hw hfree h ha hb ?_
    rw [← (hrespell a ha).2, ← (hrespell b hb).2, heq]
  refine (List.perm_ext_iff_of_nodup hnodup (nodup_collect h'.collected)).mpr ?_
  intro u
  constructor
  · intro hu
    obtain ⟨t, ht, rfl⟩ := List.mem_map.mp hu
    exact (hrespell t ht).1
  · intro hu
    obtain ⟨t, ht, hnames⟩ := counterpart hw hfree h' h hperm.symm hu
    have heq : respell t = u :=
      eq_of_names hw hfree h' (hrespell t ht).1 hu ((hrespell t ht).2.trans hnames)
    exact List.mem_map.mpr ⟨t, ht, heq⟩

include hfree h h' in
theorem planned?_eq {t u : ByteString} (ht : t ∈ sources) (hu : u ∈ sources')
    (hnames : Path.names t = Path.names u) :
    fs.planned? s.render base t = fs.planned? s.render base u :=
  planned?_of_names hfree (h.source t ht) (h'.source u hu) (h.short t ht) (h'.short u hu) hnames

/-! ## §3. The plan and the report in another order -/

include hw hfree h h' in
/-- In another order the same test modules are planned. -/
theorem mem_planFor_iff (hperm : paths.Perm paths') (file : Location × ByteArray) :
    file ∈ fs.planFor s.render base sources ↔ file ∈ fs.planFor s.render base sources' := by
  rw [mem_planFor, mem_planFor]
  constructor
  · rintro ⟨t, ht, hplan⟩
    obtain ⟨u, hu, hnames⟩ := counterpart hw hfree h h' hperm ht
    exact ⟨u, hu, by rw [← hplan, planned?_eq hfree h' h hu ht hnames]⟩
  · rintro ⟨u, hu, hplan⟩
    obtain ⟨t, ht, hnames⟩ := counterpart hw hfree h' h hperm.symm hu
    exact ⟨t, ht, by rw [← hplan, planned?_eq hfree h h' ht hu hnames]⟩

include hfree h in
/-- A plan has one test module for each place, unless two names are read alike. -/
theorem planFor_oneEach (hread : ∀ a ∈ sources, ∀ b ∈ sources,
    Path.names (Path.directory a) = Path.names (Path.directory b) → ¬ Path.ReadAlike a b) :
    Plan.OneEach (fs.planFor s.render base sources) := by
  intro loc content content' hmem hmem'
  obtain ⟨t, ht, hplan⟩ := mem_planFor.mp hmem
  obtain ⟨u, hu, hplan'⟩ := mem_planFor.mp hmem'
  obtain ⟨m, -, -, hfile⟩ := planned?_eq_some.mp hplan
  obtain ⟨n, -, -, hfile'⟩ := planned?_eq_some.mp hplan'
  -- one place for tests means one name of the module, and so one text
  obtain ⟨hdirs, hstem⟩ := testPlace_eq_iff.mp
    ((Prod.mk.inj hfile).1.symm.trans (Prod.mk.inj hfile').1)
  have hnames := names_eq_of_stemBytes (h.python t ht) (h.python u hu) hdirs
    (Path.stemBytes_eq_of_stem hstem (hread t ht u hu hdirs))
  rw [planned?_eq hfree h h ht hu hnames, hplan'] at hplan
  exact (Prod.mk.inj (Option.some.inj hplan)).2.symm

end Gathered

end FileSystem

/-- How many sources a report notes under a verdict. -/
def Report.tally (report : Report) : Verdict → Nat
  | .tested => report.written.length
  | .skipped => report.skipped.length
  | .failed => report.failed.length

namespace FileSystem

/-- A run that succeeds notes each source under its verdict. -/
theorem tally_foretold (fs : FileSystem) (r : RenderSettings) (sources : List ByteString) (v : Verdict) :
    (fs.foretold r sources).tally v = (sources.map fs.verdict).count v := by
  induction sources with
  | nil => cases v <;> rfl
  | cons t rest ih =>
      have hcons : fs.foretold r (t :: rest)
          = noteOutcome t (fs.outcomeOf r t) (fs.foretold r rest) := rfl
      rw [hcons, List.map_cons, List.count_cons, ← ih]
      unfold outcomeOf verdict
      cases fs.scanFile t with
      | error failure => cases v <;> rfl
      | ok m =>
          by_cases hempty : m.functions.isEmpty = true
          · cases v <;> simp [hempty, noteOutcome, Report.tally]
          · cases v <;> simp [hempty, noteOutcome, Report.tally]

namespace Gathered

variable {fs : FileSystem} (hw : fs.WellFormed) (hfree : fs.LinkFree) {s : Settings}
  {absolute : Bool} {base : Location} {paths paths' sources sources' : List ByteString}
  (h : fs.Gathered s absolute base paths sources) (h' : fs.Gathered s absolute base paths' sources')
include hw hfree h h'

/-- In another order equally many sources come under each verdict. -/
theorem tally_eq (hperm : paths.Perm paths') (v : Verdict) :
    (fs.foretold s.render sources).tally v = (fs.foretold s.render sources').tally v := by
  obtain ⟨respell, hrespelled, hnames⟩ := exists_respelling hw hfree h h' hperm
  have hsame : sources.map fs.verdict = (sources.map respell).map fs.verdict := by
    rw [List.map_map]
    refine List.map_congr_left fun t ht => ?_
    obtain ⟨hu, hname⟩ := hnames t ht
    exact verdict_congr (readBytes_of_names hfree (h.source t ht) (h'.source _ hu) (h.short t ht)
      (h'.short _ hu) hname.symm)
  rw [tally_foretold, tally_foretold, hsame]
  exact (hrespelled.map fs.verdict).count_eq v

end Gathered

/-! ## §4. A whole run -/

theorem gathered_of_collect {fs : FileSystem} (hw : fs.WellFormed) {s : Settings}
    (hs : s.HidesOutput) {absolute : Bool} {base : Location} {paths sources : List ByteString}
    (hstart : ∀ p ∈ paths, Path.isAbsolute p = absolute ∧ fs.start (Route.ofPath p) = base)
    (hdown : ∀ p ∈ paths, .parent ∉ Path.components p)
    (hnamed : ∀ p ∈ paths, fs.isDirectory p = true ∨ Path.hasExtension p pythonExtension = true)
    (hcollect : fs.collect s.filter paths = .ok sources)
    (hlen : ∀ t ∈ sources, t.size ≤ maxPathBytes) :
    fs.Gathered s absolute base paths sources :=
  ⟨hcollect, isSource_of_mem_collect hw hs hstart hdown hcollect,
    fun _ ht => hasExtension_of_mem_collect hw hnamed hcollect ht, hlen⟩

/-- A run over gathered sources that succeeds carries out its plan and reports what was foretold. -/
theorem Gathered.generated {fs : FileSystem} (hw : fs.WellFormed) (hfree : fs.LinkFree)
    {s : Settings} (hs : s.HidesOutput) {absolute : Bool} {base : Location}
    {paths sources : List ByteString} (hg : fs.Gathered s absolute base paths sources) {after : FileSystem} {report : Report}
    (h : fs.generate s paths = (after, .ok report)) :
    report = fs.foretold s.render sources ∧ fs.Running sources after
      ∧ after.shapeAt = (fs.planFor s.render base sources).carryOut fs.shapeAt := by
  obtain ⟨found, hfound, hrun⟩ := generate_eq_ok h
  cases hg.collected.symm.trans hfound
  have hbegin : fs.Running sources fs := ⟨hw, hfree, Grows.refl fs, fun _ _ => rfl⟩
  obtain ⟨hreport, hafter, -, hshapes, -⟩ :=
    processAll_run hs hg.source (fun _ ht => ht) hbegin hrun
  exact ⟨hreport, hafter, hshapes⟩

/-- **The order of the paths does not matter.**  Without links, with an output directory of one
    ignored name and paths that start together and never go up, two runs over the same paths in
    different orders that succeed end in the same file system and note equally many sources of each
    kind, if no path that is collected is too long to be looked at, and no two modules in one
    directory have names that are read alike. -/
theorem generate_order_irrelevant {fs after after' : FileSystem} (hw : fs.WellFormed)
    (hfree : fs.LinkFree) {s : Settings} (hs : s.HidesOutput) {paths paths' : List ByteString}
    (hperm : paths.Perm paths')
    (hroot : (∀ p ∈ paths, Path.isAbsolute p = true) ∨ (∀ p ∈ paths, Path.isAbsolute p = false))
    (hdown : ∀ p ∈ paths, .parent ∉ Path.components p)
    (hnamed : ∀ p ∈ paths, fs.isDirectory p = true ∨ Path.hasExtension p pythonExtension = true)
    {sources sources' : List ByteString} (hcollect : fs.collect s.filter paths = .ok sources)
    (hcollect' : fs.collect s.filter paths' = .ok sources')
    (hlen : ∀ t ∈ sources ++ sources', t.size ≤ maxPathBytes)
    (hread : ∀ a ∈ sources, ∀ b ∈ sources,
      Path.names (Path.directory a) = Path.names (Path.directory b) → ¬ Path.ReadAlike a b)
    {report report' : Report}
    (h : fs.generate s paths = (after, .ok report))
    (h' : fs.generate s paths' = (after', .ok report')) :
    after = after' ∧ report.written.length = report'.written.length
      ∧ report.skipped.length = report'.skipped.length
      ∧ report.failed.length = report'.failed.length := by
  obtain ⟨absolute, base, hstart⟩ := exists_start fs hroot
  have hg : fs.Gathered s absolute base paths sources :=
    gathered_of_collect hw hs hstart hdown hnamed hcollect
      fun t ht => hlen t (List.mem_append_left sources' ht)
  have hg' : fs.Gathered s absolute base paths' sources' :=
    gathered_of_collect hw hs (fun p hp => hstart p (hperm.mem_iff.mpr hp))
      (fun p hp => hdown p (hperm.mem_iff.mpr hp)) (fun p hp => hnamed p (hperm.mem_iff.mpr hp))
      hcollect' fun t ht => hlen t (List.mem_append_right sources ht)
  -- what is noted and what stands where was settled by the sources alone
  obtain ⟨hreport, hafter, hshapes⟩ := hg.generated hw hfree hs h
  obtain ⟨hreport', hafter', hshapes'⟩ := hg'.generated hw hfree hs h'
  have htally := hg.tally_eq hw hfree hg' hperm
  rw [← hreport, ← hreport'] at htally
  refine ⟨?_, htally .tested, htally .skipped, htally .failed⟩
  refine eq_of_shapes hafter.ordered hafter'.ordered ?_ ?_
  · rw [hafter.grows.cwd, hafter'.grows.cwd]
  · intro loc
    have hplans := Plan.carryOut_congr (hg.mem_planFor_iff hw hfree hg' hperm)
      (planFor_apart hg.source) (hg.planFor_oneEach hfree hread) fs.shapeAt
    rw [hshapes, hshapes', hplans]

/-- A directory and another spelling of it: other paths are written, but in the same places. -/
theorem generate_order_irrelevant_workshop :
    workshop.WellFormed ∧ workshop.LinkFree ∧ ({} : Settings).HidesOutput
      ∧ (["p", "./p"] : List ByteString).Perm ["./p", "p"]
      ∧ workshop.collect {} ["p", "./p"] = .ok ["p/a.py", "p/b.py", "p/c.py"]
      ∧ workshop.collect {} ["./p", "p"] = .ok ["./p/a.py", "./p/b.py", "./p/c.py"]
      ∧ ∃ after after' report report', workshop.generate {} ["p", "./p"] = (after, .ok report)
        ∧ workshop.generate {} ["./p", "p"] = (after', .ok report')
        ∧ after = after' ∧ report.written.length = report'.written.length
        ∧ report.skipped.length = report'.skipped.length
        ∧ report.failed.length = report'.failed.length := by
  have hw : workshop.WellFormed := ⟨by decide +kernel, by decide +kernel⟩
  have hfree : workshop.LinkFree := linkFree_of_entries (by decide +kernel)
  have hperm : (["p", "./p"] : List ByteString).Perm ["./p", "p"] := .swap _ _ []
  have hcollect : workshop.collect {} ["p", "./p"] = .ok ["p/a.py", "p/b.py", "p/c.py"] :=
    eq_ok_of_toOption (by decide +kernel)
  have hcollect' : workshop.collect {} ["./p", "p"] = .ok ["./p/a.py", "./p/b.py", "./p/c.py"] :=
    eq_ok_of_toOption (by decide +kernel)
  have hsome : (workshop.generate {} ["p", "./p"]).2.toOption.isSome = true := by decide +kernel
  have hsome' : (workshop.generate {} ["./p", "p"]).2.toOption.isSome = true := by decide +kernel
  obtain ⟨report, hreport⟩ := Option.isSome_iff_exists.mp hsome
  obtain ⟨report', hreport'⟩ := Option.isSome_iff_exists.mp hsome'
  have hrun := generate_of_report hreport
  have hrun' := generate_of_report hreport'
  exact ⟨hw, hfree, default_hidesOutput, hperm, hcollect, hcollect', _, _, report, report', hrun,
    hrun', generate_order_irrelevant (s := {}) hw hfree default_hidesOutput hperm
      (Or.inr (by decide +kernel)) (by decide +kernel) (by decide +kernel) hcollect hcollect'
      (by decide +kernel) (by decide +kernel) hrun hrun'⟩

end FileSystem

/-! ## §5. Names that are read alike, and paths that are too long -/

namespace FileSystem

/-- Of two modules with names that are read alike the tests of the second stay. -/
theorem latin_order_matters :
    ∃ after after' report report',
      latin.generate {} [graveName, acuteName] = (after, .ok report)
        ∧ latin.generate {} [acuteName, graveName] = (after', .ok report')
        ∧ after ≠ after' := by
  have hsome : (latin.generate {} [graveName, acuteName]).2.toOption.isSome = true := by decide +kernel
  have hsome' : (latin.generate {} [acuteName, graveName]).2.toOption.isSome = true := by decide +kernel
  obtain ⟨report, hreport⟩ := Option.isSome_iff_exists.mp hsome
  obtain ⟨report', hreport'⟩ := Option.isSome_iff_exists.mp hsome'
  refine ⟨_, _, report, report', generate_of_report hreport, generate_of_report hreport', ?_⟩
  intro hsame
  have hread := congrArg (fun fs => (fs.readBytes "tests/test_\uFFFD.py").toOption) hsame
  revert hread
  decide +kernel

/-- **The order matters where names are read alike, and where a spelling is too long.**  Of two modules
    with names that are read alike the tests of the second stay.  Behind a shorter spelling of its
    directory the path of the greatest length adds nothing, and the tests are written.  In front of
    it, it takes the place of the shorter one, the module below it is not read, and nothing is
    written. -/
theorem generate_order_matters :
    ({} : Settings).HidesOutput
      ∧ (latin.WellFormed ∧ latin.LinkFree ∧ ∃ after after' report report',
        latin.generate {} [graveName, acuteName] = (after, .ok report)
          ∧ latin.generate {} [acuteName, graveName] = (after', .ok report')
          ∧ after ≠ after')
      ∧ nested.WellFormed ∧ nested.LinkFree
      ∧ (["d", Path.padded "d" 4094] : List ByteString).Perm [Path.padded "d" 4094, "d"]
      ∧ (∀ p ∈ (["d", Path.padded "d" 4094] : List ByteString), Path.isAbsolute p = false
        ∧ .parent ∉ Path.components p ∧ nested.isDirectory p = true)
      ∧ ∃ after after' report report',
        nested.generate {} ["d", Path.padded "d" 4094] = (after, .ok report)
          ∧ nested.generate {} [Path.padded "d" 4094, "d"] = (after', .ok report')
          ∧ after ≠ after' ∧ report.written.length = 1 ∧ report'.written.length = 0 := by
  have hpaths : ∀ p ∈ (["d", Path.padded "d" 4094] : List ByteString), Path.isAbsolute p = false
      ∧ .parent ∉ Path.components p ∧ nested.isDirectory p = true := by
    intro p hp
    rcases List.mem_cons.mp hp with rfl | hp
    · decide +kernel
    · rw [List.mem_singleton.mp hp]
      exact ⟨longest_relative.1, longest_relative.2, longest_spells.isDirectory_path⟩
  have hcount : (nested.processAll {} ["d/a.py"]).2.toOption.map (·.written.length) = some 1 := by
    decide +kernel
  obtain ⟨report, hreport, hwritten⟩ := Option.map_eq_some_iff.mp hcount
  refine ⟨default_hidesOutput, ⟨latin_wellFormed, latin_linkFree, latin_order_matters⟩,
    nested_wellFormed, nested_linkFree, .swap _ _ [], hpaths, (nested.processAll {} ["d/a.py"]).1,
    nested, report, _, ?_, longest_spells.generate_before, ?_, hwritten, rfl⟩
  · rw [longest_spells.generate_after]
    exact Prod.ext rfl (eq_ok_of_toOption hreport)
  · -- the directory of the tests is there after the first run only
    intro hsame
    have hthere : (nested.processAll {} ["d/a.py"]).1.isDirectory "d/tests" = true := by decide +kernel
    rw [hsame] at hthere
    revert hthere
    decide +kernel

end FileSystem

end TestScaffold
