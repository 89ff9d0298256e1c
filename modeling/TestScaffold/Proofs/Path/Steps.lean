/-
  TestScaffold.Proofs.Path.Steps — the steps that the spelling of a path asks for.

  A path is spelled by a user and read step by step.  This module says what the
  spelling operations do to the steps:

    * `spelled_join` — joining paths appends their steps;
    * `spelled_parent` — the parent of a path has its steps up to the last name, the file
      name, apart from steps that stay;
    * `directory_join` — the directory of a name joined to a path is that path.
-/
import TestScaffold.FileSystem.Resolve
import TestScaffold.Proofs.Text.ByteString

namespace TestScaffold

open Text

/-! ## §1. Steps -/

/-- A name that a path can spell as one of its steps down. -/
def Path.isOrdinary (name : ByteString) : Bool :=
  !name.toList.isEmpty && !name.toList.contains slash && name != "." && name != ".."

theorem Path.isOrdinary_iff {name : ByteString} :
    Path.isOrdinary name = true ↔
      name.toList ≠ [] ∧ slash ∉ name.toList ∧ name.toList ≠ [dot] ∧ name.toList ≠ [dot, dot] := by
  have hdot : name = "." ↔ name.toList = [dot] := by
    rw [← ByteString.toList_inj]
    rfl
  have hdots : name = ".." ↔ name.toList = [dot, dot] := by
    rw [← ByteString.toList_inj]
    rfl
  simp [Path.isOrdinary, hdot, hdots, and_assoc]

namespace Route

/-- The segments of a text that are not empty. -/
def segments (cs : List UInt8) : List (List UInt8) :=
  (splitSep slash cs).filter fun s => !s.isEmpty

/-- The steps that a text spells, apart from a slash at its end. -/
def spelled (cs : List UInt8) : List Step :=
  (segments cs).map stepOf

theorem ofPath_fromRoot (path : ByteString) :
    (ofPath path).fromRoot = (path.toList.head? == some slash) := rfl

/-- A slash at the end adds one step that stays. -/
theorem ofPath_steps (path : ByteString) :
    ∃ j, (ofPath path).steps = spelled path.toList ++ List.replicate j .here
      ∧ (path.toList.getLast? ≠ some slash → j = 0) := by
  by_cases hlast : path.toList.getLast? = some slash
  · refine ⟨1, ?_, fun h => absurd hlast h⟩
    simp [ofPath, hlast, spelled, segments]
  · refine ⟨0, ?_, fun _ => rfl⟩
    simp [ofPath, hlast, spelled, segments]

theorem stepOf_ordinary {name : ByteString} (h : Path.isOrdinary name = true) :
    stepOf name.toList = .down name := by
  obtain ⟨-, -, hdot, hdots⟩ := Path.isOrdinary_iff.mp h
  simp [stepOf, hdot, hdots]

/-- Every step down goes to an ordinary name. -/
theorem isOrdinary_of_mem_spelled {cs : List UInt8} {n : ByteString} (h : .down n ∈ spelled cs) :
    Path.isOrdinary n = true := by
  obtain ⟨s, hs, hstep⟩ := List.mem_map.mp h
  obtain ⟨hmem, hne⟩ := List.mem_filter.mp hs
  unfold stepOf at hstep
  split at hstep
  · cases hstep
  · rename_i hdot
    split at hstep
    · cases hstep
    · rename_i hdots
      cases hstep
      refine Path.isOrdinary_iff.mpr ?_
      rw [ByteString.toList_ofList]
      exact ⟨by simpa using hne, not_mem_of_mem_splitSep hmem, by simpa using hdot,
        by simpa using hdots⟩

theorem isOrdinary_of_mem_steps {path n : ByteString} (h : .down n ∈ (ofPath path).steps) :
    Path.isOrdinary n = true := by
  obtain ⟨j, hj, -⟩ := ofPath_steps path
  rw [hj] at h
  rcases List.mem_append.mp h with h | h
  · exact isOrdinary_of_mem_spelled h
  · cases List.eq_of_mem_replicate h

@[simp] theorem segments_nil : segments [] = [] := rfl

@[simp] theorem spelled_nil : spelled [] = [] := rfl

theorem segments_append (a b : List UInt8) :
    segments (a ++ slash :: b) = segments a ++ segments b := by
  simp only [segments, splitSep_append, List.filter_append]

theorem segments_cons_slash (cs : List UInt8) : segments (slash :: cs) = segments cs :=
  segments_append [] cs

theorem spelled_ordinary {name : ByteString} (h : Path.isOrdinary name = true) :
    spelled name.toList = [.down name] := by
  obtain ⟨hne, hslash, -, -⟩ := Path.isOrdinary_iff.mp h
  simp [spelled, segments, splitSep_of_not_mem hslash, hne, stepOf_ordinary h]

theorem segments_intercalate {parts : List (List UInt8)} (h : ∀ s ∈ parts, slash ∉ s) :
    segments (Path.joinSegments parts) = parts.filter fun s => !s.isEmpty := by
  cases parts with
  | nil => rfl
  | cons s rest =>
      rw [segments, Path.joinSegments, splitSep_intercalate (List.cons_ne_nil s rest) h]

end Route

/-! ## §2. Joining -/

namespace Path

theorem joinBytes_of_relative (a : List UInt8) {b : List UInt8} (hb : b.head? ≠ some slash) :
    (a = [] ∧ joinBytes a b = b) ∨ (∃ a', a = a' ++ [slash] ∧ joinBytes a b = a' ++ slash :: b)
      ∨ (a ≠ [] ∧ a.getLast? ≠ some slash ∧ joinBytes a b = a ++ slash :: b) := by
  unfold joinBytes
  rw [if_neg (by simpa using hb)]
  by_cases ha : a = []
  · subst ha
    exact Or.inl ⟨rfl, rfl⟩
  · by_cases hlast : a.getLast? = some slash
    · obtain ⟨a', rfl⟩ := List.getLast?_eq_some_iff.mp hlast
      refine Or.inr (Or.inl ⟨a', rfl, ?_⟩)
      simp
    · exact Or.inr (Or.inr ⟨ha, hlast, by simp [ha, hlast]⟩)

/-- **Joining appends the steps.** -/
theorem spelled_join {a b : List UInt8} (hb : b.head? ≠ some slash) :
    Route.spelled (joinBytes a b) = Route.spelled a ++ Route.spelled b := by
  unfold Route.spelled
  rcases joinBytes_of_relative a hb with ⟨rfl, h⟩ | ⟨a', rfl, h⟩ | ⟨-, -, h⟩
  · rw [h]
    rfl
  · have ha : Route.segments (a' ++ [slash]) = Route.segments a' := by
      rw [Route.segments_append, Route.segments_nil, List.append_nil]
    rw [h, Route.segments_append, ha, List.map_append]
  · rw [h, Route.segments_append, List.map_append]

theorem head?_join {a b : List UInt8} (hb : b.head? ≠ some slash) :
    ((joinBytes a b).head? == some slash) = (a.head? == some slash) := by
  rcases joinBytes_of_relative a hb with ⟨rfl, h⟩ | ⟨a', rfl, h⟩ | ⟨ha, -, h⟩
  · rw [h]
    simpa using hb
  · rw [h]
    cases a' with
    | nil => rfl
    | cons c a' => rfl
  · rw [h]
    cases a with
    | nil => exact absurd rfl ha
    | cons c a => rfl

theorem getLast?_join {a b : List UInt8} (hb : b.head? ≠ some slash) (hne : b ≠ []) :
    (joinBytes a b).getLast? = b.getLast? := by
  have hlast := List.getLast?_eq_some_getLast hne
  rcases joinBytes_of_relative a hb with ⟨-, h⟩ | ⟨a', -, h⟩ | ⟨-, -, h⟩
  · rw [h]
  · rw [h, List.getLast?_append, List.getLast?_cons, hlast]
    rfl
  · rw [h, List.getLast?_append, List.getLast?_cons, hlast]
    rfl

theorem head?_ordinary {name : ByteString} (h : isOrdinary name = true) :
    name.toList.head? ≠ some slash := by
  obtain ⟨-, hslash, -, -⟩ := isOrdinary_iff.mp h
  intro hhead
  exact hslash (List.mem_of_mem_head? hhead)

theorem getLast?_ordinary {name : ByteString} (h : isOrdinary name = true) :
    name.toList.getLast? ≠ some slash := by
  obtain ⟨-, hslash, -, -⟩ := isOrdinary_iff.mp h
  intro hlast
  exact hslash (List.mem_of_getLast? hlast)

section JoinName

theorem toList_join (outer name : ByteString) :
    (join outer name).toList = joinBytes outer.toList name.toList := rfl

variable {outer name : ByteString} (hord : isOrdinary name = true)
include hord

theorem spelled_join_name :
    Route.spelled (join outer name).toList = Route.spelled outer.toList ++ [.down name] := by
  rw [toList_join, spelled_join (head?_ordinary hord), Route.spelled_ordinary hord]

theorem steps_join :
    (Route.ofPath (join outer name)).steps = Route.spelled outer.toList ++ [.down name] := by
  obtain ⟨j, hj, hzero⟩ := Route.ofPath_steps (join outer name)
  rw [toList_join, getLast?_join (head?_ordinary hord) (isOrdinary_iff.mp hord).1] at hzero
  rw [hj, hzero (getLast?_ordinary hord), spelled_join_name hord]
  simp

theorem fromRoot_join :
    (Route.ofPath (join outer name)).fromRoot = (Route.ofPath outer).fromRoot := by
  rw [Route.ofPath_fromRoot, Route.ofPath_fromRoot, toList_join,
    head?_join (head?_ordinary hord)]

theorem join_ne_nil : (join outer name).toList ≠ [] := by
  intro hnil
  have hsteps := @spelled_join_name outer name hord
  rw [hnil] at hsteps
  simp at hsteps

end JoinName

/-! ## §3. Parents -/

theorem upToLastCounting_split (ss : List (List UInt8)) :
    ∃ tail, ss = upToLastCounting ss ++ tail ∧ (∀ s ∈ tail, counts s = false)
      ∧ (∀ s ∈ (upToLastCounting ss).getLast?, counts s = true) := by
  induction ss with
  | nil => exact ⟨[], rfl, by simp, by simp [upToLastCounting]⟩
  | cons s ss ih =>
      obtain ⟨tail, hsplit, htail, hlast⟩ := ih
      unfold upToLastCounting
      split
      · -- nothing counts further on: the segment is the last that counts, or part of the tail
        rename_i hnil
        rw [hnil, List.nil_append] at hsplit
        split
        · rename_i hs
          refine ⟨tail, by rw [← hsplit]; rfl, htail, ?_⟩
          intro t ht
          cases ht
          exact hs
        · rename_i hs
          refine ⟨s :: ss, rfl, ?_, by simp⟩
          intro t ht
          rcases List.mem_cons.mp ht with rfl | ht
          · simpa using hs
          · exact htail t (hsplit ▸ ht)
      · -- something counts further on, and that is still the last
        rename_i hne
        obtain ⟨t, ts, hts⟩ := List.exists_cons_of_ne_nil hne
        refine ⟨tail, by rw [List.cons_append, ← hsplit], htail, ?_⟩
        intro u hu
        refine hlast u ?_
        rw [hts] at hu ⊢
        simpa using hu

theorem upToLastCounting_concat (ss : List (List UInt8)) {s : List UInt8} (hs : counts s = true) :
    upToLastCounting (ss ++ [s]) = ss ++ [s] := by
  induction ss with
  | nil => simp [upToLastCounting, hs]
  | cons t ss ih =>
      rw [List.cons_append, upToLastCounting, ih]
      cases ss <;> rfl

theorem counts_ordinary {name : ByteString} (h : isOrdinary name = true) :
    counts name.toList = true := by
  obtain ⟨hne, -, hdot, -⟩ := isOrdinary_iff.mp h
  simp [counts, hne, hdot]

/-- A text is its head and its body. -/
theorem parts_append (cs : List UInt8) : (parts cs).head ++ (parts cs).body = cs := by
  unfold parts
  split
  · rfl
  · split_ifs with hslash hdot
    · rw [hslash]
      rfl
    · rw [hdot.1]
      rfl
    · rfl

theorem parts_cases (cs : List UInt8) :
    (∃ body, cs = slash :: body ∧ parts cs = ⟨[slash], body⟩)
      ∨ (∃ body, cs = dot :: body ∧ (body = [] ∨ ∃ rest, body = slash :: rest)
          ∧ parts cs = ⟨[dot], body⟩)
      ∨ (cs.head? ≠ some slash ∧ parts cs = ⟨[], cs⟩) := by
  unfold parts
  split
  · exact Or.inr (Or.inr ⟨by simp, rfl⟩)
  · rename_i b body
    split_ifs with hslash hdot
    · exact Or.inl ⟨body, by rw [hslash], rfl⟩
    · refine Or.inr (Or.inl ⟨body, by rw [hdot.1], ?_, rfl⟩)
      cases body with
      | nil => exact Or.inl rfl
      | cons c rest => exact Or.inr ⟨rest, congrArg (· :: rest) hdot.2⟩
    · exact Or.inr (Or.inr ⟨by simpa using hslash, rfl⟩)

/-- The segments of the parts that do not count are steps that stay. -/
theorem map_stepOf_of_not_counts {ss : List (List UInt8)} (h : ∀ s ∈ ss, counts s = false) :
    ∃ i, (ss.filter fun s => !s.isEmpty).map Route.stepOf = List.replicate i .here := by
  induction ss with
  | nil => exact ⟨0, rfl⟩
  | cons s ss ih =>
      obtain ⟨i, hi⟩ := ih fun t ht => h t (List.mem_cons_of_mem s ht)
      have hs := h s List.mem_cons_self
      by_cases hempty : s = []
      · refine ⟨i, ?_⟩
        simp [hempty, hi]
      · have hdot : s = [dot] := by simpa [counts, hempty] using hs
        refine ⟨i + 1, ?_⟩
        subst hdot
        rw [List.filter_cons_of_pos (by rfl), List.map_cons, hi]
        rfl

/-- What a file name says about the segments of a path: it is the last one that counts, and the
    parent ends at the one before it that counts. -/
theorem fileNameBytes?_split {cs n : List UInt8} (h : fileNameBytes? cs = some n) :
    ∃ A T₁ T₂, splitSep slash (parts cs).body = A ++ (T₁ ++ n :: T₂)
      ∧ (∀ s ∈ T₁, counts s = false) ∧ (∀ s ∈ T₂, counts s = false)
      ∧ (∀ s ∈ A.getLast?, counts s = true) ∧ counts n = true ∧ n ≠ [dot, dot]
      ∧ parentBytes? cs = some ((parts cs).head ++ joinSegments A) := by
  obtain ⟨T₂, hsplit, hT₂, hlast⟩ :=
    upToLastCounting_split (splitSep slash (parts cs).body)
  have hfilter : T₂.filter counts = [] := by
    simpa using hT₂
  unfold fileNameBytes? componentsOf at h
  rcases List.eq_nil_or_concat (upToLastCounting (splitSep slash (parts cs).body)) with
    hnil | ⟨init, last, hcons⟩
  · -- no segment counts: the last component is a head, which is no name
    rw [hnil, List.nil_append] at hsplit
    simp only [hsplit, hfilter, List.map_nil, List.append_nil] at h
    unfold headComponents at h
    split_ifs at h <;> cases h
  · rw [List.concat_eq_append] at hcons
    rw [hcons] at hsplit hlast
    have hcount : counts last = true := hlast last (by simp)
    have hlastcomp : (headComponents (parts cs).head
        ++ ((splitSep slash (parts cs).body).filter counts).map Component.ofSegment).getLast?
        = some (Component.ofSegment last) := by
      rw [hsplit]
      simp [hfilter, hcount]
    simp only [hlastcomp] at h
    have hname : last = n ∧ n ≠ [dot, dot] := by
      unfold Component.ofSegment at h
      split at h
      · rename_i heq
        split at heq
        · cases heq
        · rename_i hdots
          cases heq
          cases h
          exact ⟨rfl, by simpa using hdots⟩
      · cases h
    obtain ⟨rfl, hdots⟩ := hname
    -- the parent is cut after the segment before it that counts
    obtain ⟨T₁, hsplit₁, hT₁, hlast₁⟩ := upToLastCounting_split init
    refine ⟨upToLastCounting init, T₁, T₂, ?_, hT₁, hT₂, hlast₁, hcount, hdots, ?_⟩
    · rw [hsplit, ← List.append_assoc, ← hsplit₁]
      simp
    · simp only [parentBytes?, hcons]
      split
      · rename_i heq
        simp at heq
      · rw [List.dropLast_concat]

theorem joinSegments_append {A B : List (List UInt8)} (hA : A ≠ []) (hB : B ≠ []) :
    joinSegments (A ++ B) = joinSegments A ++ slash :: joinSegments B := by
  unfold joinSegments
  obtain ⟨b, B, rfl⟩ := List.exists_cons_of_ne_nil hB
  induction A with
  | nil => exact absurd rfl hA
  | cons s A ih =>
      cases A with
      | nil =>
          rw [List.cons_append, List.nil_append, List.intercalate_cons_cons,
            List.intercalate_singleton, List.append_assoc]
          rfl
      | cons t A =>
          have hrest := ih (List.cons_ne_nil t A)
          rw [List.cons_append] at hrest
          rw [List.cons_append, List.cons_append, List.intercalate_cons_cons, hrest,
            List.intercalate_cons_cons, List.append_assoc, List.append_assoc, List.append_assoc]

/-- The steps of the head of a path. -/
def headSteps (head : List UInt8) : List Step :=
  if head = [dot] then [.here] else []

/-- The head of a path stands before the steps of any beginning of its body. -/
theorem spelled_head {cs x : List UInt8} (hx : x <+: (parts cs).body) :
    Route.spelled ((parts cs).head ++ x) = headSteps (parts cs).head ++ Route.spelled x := by
  unfold Route.spelled
  rcases parts_cases cs with ⟨body, -, hp⟩ | ⟨body, -, hbody, hp⟩ | ⟨-, hp⟩
  · rw [hp]
    show (Route.segments (slash :: x)).map _ = _
    rw [Route.segments_cons_slash]
    rfl
  · -- a dot is the head only before a slash, so what follows it starts with one
    rw [hp] at hx ⊢
    cases x with
    | nil => rfl
    | cons c x =>
        rcases hbody with rfl | ⟨rest, rfl⟩
        · exact absurd (List.prefix_nil.mp hx) (List.cons_ne_nil c x)
        · have hc : c = slash := (List.cons_prefix_cons.mp hx).1
          subst hc
          show (Route.segments ([dot] ++ slash :: x)).map _ = _
          rw [Route.segments_append, Route.segments_cons_slash]
          rfl
  · rw [hp]
    rfl

theorem head?_head {cs x : List UInt8} (hx : x <+: (parts cs).body) :
    (((parts cs).head ++ x).head? == some slash) = (cs.head? == some slash) := by
  rcases parts_cases cs with ⟨body, hcs, hp⟩ | ⟨body, hcs, -, hp⟩ | ⟨hroot, hp⟩
  · rw [hp, hcs]
    rfl
  · rw [hp, hcs]
    rfl
  · rw [hp] at hx ⊢
    obtain ⟨more, hmore⟩ := hx
    cases x with
    | nil => simpa using hroot
    | cons c x =>
        have hcs : cs = c :: (x ++ more) := hmore.symm
        rw [hcs]
        rfl

theorem joinSegments_starts (A B : List (List UInt8)) : joinSegments A <+: joinSegments (A ++ B) := by
  by_cases hA : A = []
  · rw [hA]
    exact List.nil_prefix
  · by_cases hB : B = []
    · simp only [hB, List.append_nil, List.prefix_refl]
    · rw [joinSegments_append hA hB]
      exact List.prefix_append _ _

/-- **The parent of a path with a file name** is a beginning of its text, starts at the root if the
    path does, and spells the steps before the file name, apart from steps that stay. -/
theorem spelled_parent {cs n : List UInt8} (h : fileNameBytes? cs = some n) :
    ∃ base i j, parentBytes? cs = some base ∧ base <+: cs
      ∧ (base.head? == some slash) = (cs.head? == some slash)
      ∧ isOrdinary (ByteString.ofList n) = true
      ∧ Route.spelled cs
          = Route.spelled base
            ++ (List.replicate i .here ++ .down (ByteString.ofList n) :: List.replicate j .here) := by
  obtain ⟨A, T₁, T₂, hsplit, hT₁, hT₂, -, hn, hdots, hparent⟩ := fileNameBytes?_split h
  have hslash : ∀ s ∈ A ++ (T₁ ++ n :: T₂), slash ∉ s := by
    intro s hs
    rw [← hsplit] at hs
    exact not_mem_of_mem_splitSep hs
  have hne : n ≠ [] := fun heq => by simp [heq, counts] at hn
  have hdot : n ≠ [dot] := fun heq => by simp [heq, counts] at hn
  have hord : isOrdinary (ByteString.ofList n) = true := by
    refine isOrdinary_iff.mpr ?_
    rw [ByteString.toList_ofList]
    exact ⟨hne, hslash n (by simp), hdot, hdots⟩
  have hbody : (parts cs).body = joinSegments (A ++ (T₁ ++ n :: T₂)) := by
    rw [← hsplit]
    exact (intercalate_splitSep slash _).symm
  have hpre : joinSegments A <+: (parts cs).body := hbody ▸ joinSegments_starts A _
  obtain ⟨i, hi⟩ := map_stepOf_of_not_counts hT₁
  obtain ⟨j, hj⟩ := map_stepOf_of_not_counts hT₂
  refine ⟨_, i, j, hparent, ?_, head?_head hpre, hord, ?_⟩
  · have hcs := (List.prefix_append_right_inj (parts cs).head).mpr hpre
    rwa [parts_append] at hcs
  · -- the head, the segments of the parent, and around the name only steps that stay
    have hA := Route.segments_intercalate fun s hs => hslash s (List.mem_append_left _ hs)
    have hstep := Route.stepOf_ordinary hord
    rw [ByteString.toList_ofList] at hstep
    calc Route.spelled cs
        = headSteps (parts cs).head ++ Route.spelled (parts cs).body := by
          rw [← spelled_head (List.prefix_refl _), parts_append]
      _ = headSteps (parts cs).head ++ (Route.spelled (joinSegments A)
            ++ (List.replicate i .here ++ .down (ByteString.ofList n) :: List.replicate j .here)) := by
          rw [hbody, Route.spelled, Route.segments_intercalate hslash, List.filter_append,
            List.filter_append, List.map_append, List.map_append, hi,
            List.filter_cons_of_pos (by simpa using hne), List.map_cons, hstep, hj,
            Route.spelled, hA]
      _ = _ := by
          rw [← List.append_assoc, ← spelled_head hpre]

/-- The directory of a path as spelled, empty if there is none. -/
def directory (path : ByteString) : ByteString :=
  (parent? path).getD ""

theorem fileNameBytes?_of_fileName? {path name : ByteString} (h : fileName? path = some name) :
    fileNameBytes? path.toList = some name.toList := by
  obtain ⟨n, hn, rfl⟩ := Option.map_eq_some_iff.mp h
  rw [hn, ByteString.toList_ofList]

theorem fileNameBytes?_congr {a b : ByteString} (h : fileName? a = fileName? b) :
    fileNameBytes? a.toList = fileNameBytes? b.toList := by
  cases hb : fileName? b with
  | none =>
      rw [hb] at h
      rw [Option.map_eq_none_iff.mp h, Option.map_eq_none_iff.mp hb]
  | some name => rw [fileNameBytes?_of_fileName? (h.trans hb), fileNameBytes?_of_fileName? hb]

/-- The stem of a path is that of its file name. -/
theorem stem_congr {a b : ByteString} (h : fileName? a = fileName? b) : stem a = stem b := by
  unfold stem stemBytes
  rw [fileNameBytes?_congr h]

theorem hasExtension_congr {a b : ByteString} (h : fileName? a = fileName? b) (extension : String) :
    hasExtension a extension = hasExtension b extension := by
  unfold hasExtension extension?
  rw [fileNameBytes?_congr h]

/-- The steps of a path with a file name, seen from its directory. -/
theorem steps_of_fileName {path name : ByteString} (h : fileName? path = some name) :
    ∃ i j, (Route.ofPath path).steps
        = Route.spelled (directory path).toList
          ++ (List.replicate i .here ++ .down name :: List.replicate j .here)
      ∧ (directory path).toList <+: path.toList
      ∧ (Route.ofPath path).fromRoot = ((directory path).toList.head? == some slash)
      ∧ isOrdinary name = true := by
  obtain ⟨base, i, j, hparent, hpre, hroot, hord, hsteps⟩ :=
    spelled_parent (fileNameBytes?_of_fileName? h)
  have hdir : directory path = ByteString.ofList base := by
    unfold directory parent?
    rw [hparent]
    rfl
  rw [ByteString.ofList_toList] at hord hsteps
  rw [hdir, ByteString.toList_ofList]
  obtain ⟨k, hk, -⟩ := Route.ofPath_steps path
  refine ⟨i, j + k, ?_, hpre, ?_, hord⟩
  · rw [hk, hsteps]
    simp
  · rw [Route.ofPath_fromRoot, hroot]

theorem stepOf_eq_here_iff {s : List UInt8} : Route.stepOf s = .here ↔ s = [dot] := by
  unfold Route.stepOf
  split
  · rename_i h
    simpa using h
  · rename_i h
    split <;> simpa using h

/-- Apart from steps that stay, a path asks for the steps of its counting segments. -/
theorem filter_spelled (cs : List UInt8) :
    (Route.spelled cs).filter (fun s => s != .here)
      = ((splitSep slash (parts cs).body).filter counts).map Route.stepOf := by
  -- a dot is the only segment that is spelled but does not count
  have hsegs : ∀ ss : List (List UInt8),
      ((ss.filter fun s => !s.isEmpty).map Route.stepOf).filter (fun s => s != .here)
        = (ss.filter counts).map Route.stepOf := by
    intro ss
    rw [List.filter_map, List.filter_filter]
    congr 1
    refine List.filter_congr fun s _ => ?_
    have hstep := @stepOf_eq_here_iff s
    by_cases hdot : s = [dot]
    · simp [hdot, counts, Route.stepOf]
    · have hne : (Route.stepOf s != .here) = true := by
        simpa using fun h => hdot (hstep.mp h)
      have hdot' : (s == [dot]) = false := by simpa using hdot
      simp [counts, hdot', hne]
  have hhead : (headSteps (parts cs).head).filter (fun s => s != .here) = [] := by
    rcases parts_cases cs with ⟨body, -, hp⟩ | ⟨body, -, -, hp⟩ | ⟨-, hp⟩ <;> rw [hp] <;> rfl
  have hcs := spelled_head (List.prefix_refl (parts cs).body)
  rw [parts_append] at hcs
  rw [hcs, List.filter_append, hhead, List.nil_append]
  exact hsegs _

/-- A path whose last step goes down to a name has that file name. -/
theorem fileName?_of_steps {path name : ByteString} {xs : List Step}
    (h : (Route.ofPath path).steps = xs ++ [.down name]) : fileName? path = some name := by
  obtain ⟨j, hj, -⟩ := Route.ofPath_steps path
  -- without the steps that stay, the last step is that of the last counting segment
  have hfilter := congrArg (List.filter fun s => s != .here) (hj.symm.trans h)
  rw [List.filter_append, List.filter_replicate_of_neg (by simp), List.append_nil,
    filter_spelled, List.filter_append] at hfilter
  have hlast := congrArg List.getLast? hfilter
  rw [List.getLast?_map, List.filter_cons_of_pos (by simp), List.filter_nil,
    List.getLast?_concat] at hlast
  obtain ⟨s, hs, hstep⟩ := Option.map_eq_some_iff.mp hlast
  have hname : Component.ofSegment s = .name s ∧ name = ByteString.ofList s := by
    unfold Route.stepOf at hstep
    split at hstep
    · cases hstep
    · split at hstep
      · cases hstep
      · rename_i hdots
        cases hstep
        exact ⟨if_neg hdots, rfl⟩
  have hcomp : (componentsOf path.toList).getLast? = some (.name s) := by
    unfold componentsOf
    rw [List.getLast?_append, List.getLast?_map, hs, Option.map_some, hname.1]
    rfl
  unfold fileName? fileNameBytes?
  rw [hcomp, hname.2]
  rfl

/-- The directory of a name joined to a text that ends in a name is that text. -/
theorem parts_join_slash {a : List UInt8} (ha : a ≠ []) (n : List UInt8) :
    parts (a ++ slash :: n) = ⟨(parts a).head, (parts a).body ++ slash :: n⟩ := by
  rcases parts_cases a with ⟨body, rfl, hp⟩ | ⟨body, rfl, hbody, hp⟩ | ⟨hroot, hp⟩
  · rw [hp]
    rfl
  · rw [hp]
    rcases hbody with rfl | ⟨rest, rfl⟩ <;> rfl
  · rw [hp]
    cases a with
    | nil => exact absurd rfl ha
    | cons c a =>
        have hc : c ≠ slash := fun heq => hroot (heq ▸ rfl)
        -- a dot in front that is no head is followed by something other than a slash
        by_cases hdot : c = dot
        · subst hdot
          cases a with
          | nil => cases hp
          | cons d a =>
              have hd : d ≠ slash := by
                rintro rfl
                cases hp
              simp [parts, hd]
        · simp [parts, hc, hdot]

/-- A name alone has no head: it has no slash and is not a dot. -/
theorem parts_ordinary {name : ByteString} (h : isOrdinary name = true) :
    parts name.toList = ⟨[], name.toList⟩ := by
  obtain ⟨-, hslash, hdot, -⟩ := isOrdinary_iff.mp h
  rcases parts_cases name.toList with ⟨body, hcs, -⟩ | ⟨body, hcs, hbody, -⟩ | ⟨-, hp⟩
  · exact absurd (hcs ▸ List.mem_cons_self) hslash
  · rcases hbody with rfl | ⟨rest, rfl⟩
    · exact absurd hcs hdot
    · exact absurd (hcs ▸ List.mem_cons_of_mem _ List.mem_cons_self) hslash
  · exact hp

theorem counts_last_join (a : List UInt8) {name : ByteString} (h : isOrdinary name = true) :
    ∃ init, splitSep slash (parts (joinBytes a name.toList)).body = init ++ [name.toList] := by
  have hslash := (isOrdinary_iff.mp h).2.1
  have hsplit := splitSep_of_not_mem hslash
  have hslashed : ∀ x : List UInt8, ∃ init,
      splitSep slash (parts (x ++ slash :: name.toList)).body = init ++ [name.toList] := by
    intro x
    by_cases hx : x = []
    · exact ⟨[], by rw [hx]; exact hsplit⟩
    · refine ⟨splitSep slash (parts x).body, ?_⟩
      rw [parts_join_slash hx, splitSep_append, hsplit]
  rcases joinBytes_of_relative a (head?_ordinary h) with ⟨-, hj⟩ | ⟨x, -, hj⟩ | ⟨-, -, hj⟩
  · refine ⟨[], ?_⟩
    rw [hj, parts_ordinary h]
    exact hsplit
  · rw [hj]
    exact hslashed x
  · rw [hj]
    exact hslashed a

/-- **The directory of a name in a named directory** is that directory as spelled. -/
theorem directory_join {dir outer name : ByteString} (hdir : isOrdinary dir = true)
    (hname : isOrdinary name = true) :
    directory (join (join outer dir) name) = join outer dir := by
  obtain ⟨init, hinit⟩ := counts_last_join outer.toList hdir
  have hlast : (joinBytes outer.toList dir.toList).getLast? ≠ some slash := by
    rw [getLast?_join (head?_ordinary hdir) (isOrdinary_iff.mp hdir).1]
    exact getLast?_ordinary hdir
  have hne : joinBytes outer.toList dir.toList ≠ [] := by
    intro heq
    rw [heq] at hinit
    have hmem : dir.toList ∈ splitSep slash ([] : List UInt8) := by
      rw [show ([] : List UInt8) = (parts []).body from rfl, hinit]
      simp
    exact (isOrdinary_iff.mp hdir).1 (by simpa [splitSep] using hmem)
  -- the directory ends in a name, so exactly one slash is put after it
  have hj : joinBytes (joinBytes outer.toList dir.toList) name.toList
      = joinBytes outer.toList dir.toList ++ slash :: name.toList := by
    rcases joinBytes_of_relative (joinBytes outer.toList dir.toList) (head?_ordinary hname) with
      ⟨heq, -⟩ | ⟨x, heq, -⟩ | ⟨-, -, hj⟩
    · exact absurd heq hne
    · rw [heq] at hlast
      exact absurd (by simp) hlast
    · exact hj
  have hsplit := splitSep_of_not_mem (isOrdinary_iff.mp hname).2.1
  have hbody : joinSegments (init ++ [dir.toList]) = (parts (joinBytes outer.toList dir.toList)).body := by
    rw [← hinit]
    exact intercalate_splitSep slash _
  have hparent : parentBytes? (join (join outer dir) name).toList
      = some (joinBytes outer.toList dir.toList) := by
    simp only [join, ByteString.toList_ofList, hj, parentBytes?, parts_join_slash hne,
      splitSep_append, hinit, hsplit, upToLastCounting_concat _ (counts_ordinary hname)]
    split
    · rename_i heq
      simp at heq
    · rw [List.dropLast_concat, upToLastCounting_concat _ (counts_ordinary hdir), hbody,
        parts_append]
  unfold directory parent?
  rw [hparent]
  rfl

theorem joinBytes_nil {b : List UInt8} (hb : b.head? ≠ some slash) : joinBytes [] b = b := by
  simp [joinBytes, hb]

theorem joinBytes_root {b : List UInt8} (hb : b.head? ≠ some slash) :
    joinBytes [slash] b = slash :: b := by
  simp [joinBytes, hb]

theorem joinBytes_dot {b : List UInt8} (hb : b.head? ≠ some slash) :
    joinBytes [dot] b = dot :: slash :: b := by
  simp [joinBytes, hb]

theorem joinBytes_sublist (a : List UInt8) {b : List UInt8} (hb : b.head? ≠ some slash) :
    (joinBytes a b).Sublist (a ++ slash :: b) := by
  rcases joinBytes_of_relative a hb with ⟨rfl, h⟩ | ⟨x, rfl, h⟩ | ⟨-, -, h⟩
  · rw [h]
    exact List.sublist_cons_self slash b
  · rw [h, List.append_assoc]
    exact List.Sublist.append_left (List.sublist_cons_self slash _) x
  · simp only [h, List.Sublist.refl]

/-- A path spelled anew from its directory and its file name is no longer than before. -/
theorem join_directory_sublist {path name : ByteString} (h : fileName? path = some name) :
    (join (directory path) name).toList.Sublist path.toList := by
  obtain ⟨A, T₁, T₂, hsplit, -, -, -, hn, -, hparent⟩ :=
    fileNameBytes?_split (fileNameBytes?_of_fileName? h)
  obtain ⟨-, -, -, -, -, hord⟩ := steps_of_fileName h
  have hrel := head?_ordinary hord
  have hne := (isOrdinary_iff.mp hord).1
  have hbody : (parts path.toList).body = joinSegments (A ++ (T₁ ++ name.toList :: T₂)) := by
    rw [← hsplit]
    exact (intercalate_splitSep slash _).symm
  have hname : name.toList.Sublist (joinSegments (T₁ ++ name.toList :: T₂)) :=
    (infix_intercalate slash (List.mem_append_right T₁ List.mem_cons_self)).sublist
  have hdir : (directory path).toList = (parts path.toList).head ++ joinSegments A := by
    unfold directory parent?
    rw [hparent]
    rfl
  show (ByteString.ofList (joinBytes (directory path).toList name.toList)).toList.Sublist _
  rw [ByteString.toList_ofList, hdir]
  by_cases hA : A = []
  · -- the parent is a head alone, and each head is joined in its own way
    rw [hA, List.nil_append] at hbody
    rw [hA]
    show (joinBytes ((parts path.toList).head ++ []) name.toList).Sublist _
    rw [List.append_nil]
    rcases parts_cases path.toList with ⟨body, hcs, hp⟩ | ⟨body, hcs, hb, hp⟩ | ⟨-, hp⟩
    · rw [hp] at hbody ⊢
      rw [← hbody] at hname
      rw [joinBytes_root hrel, hcs]
      exact List.Sublist.cons_cons slash hname
    · rw [hp, hA, List.nil_append] at hsplit
      rw [hp, joinBytes_dot hrel, hcs]
      have hmem : name.toList ∈ splitSep slash body := by
        rw [hsplit]
        simp
      rcases hb with rfl | ⟨rest, rfl⟩
      · exact absurd (by simpa [splitSep] using hmem) hne
      · rw [splitSep_cons_sep] at hmem
        rcases List.mem_cons.mp hmem with heq | hmem
        · exact absurd heq hne
        · exact ((infix_of_mem_splitSep hmem).sublist.cons_cons slash).cons_cons dot
    · rw [hp] at hbody ⊢
      rw [← hbody] at hname
      rw [joinBytes_nil hrel]
      exact hname
  · -- the slash after the parent is there, what stands between it and the name is left out
    have hpath : path.toList = ((parts path.toList).head ++ joinSegments A)
        ++ slash :: joinSegments (T₁ ++ name.toList :: T₂) := by
      rw [List.append_assoc, ← joinSegments_append hA (by simp), ← hbody, parts_append]
    have hsub := (joinBytes_sublist ((parts path.toList).head ++ joinSegments A) hrel).trans
      (List.Sublist.append_left (hname.cons_cons slash) _)
    rwa [← hpath] at hsub

/-! ## §4. Stems -/

theorem cutExtension_append {name before ext : List UInt8}
    (h : cutExtension name = (before, some ext)) : name = before ++ dot :: ext := by
  unfold cutExtension at h
  simp only at h
  split at h
  · cases h
  · rename_i hcut
    simp only [Prod.mk.injEq, Option.some.injEq] at h
    obtain ⟨hbefore, hext⟩ := h
    simp only [Bool.or_eq_true, beq_iff_eq, not_or] at hcut
    rw [hext] at hcut hbefore
    -- the text is what stands before the last dot, the dot, and what follows it
    have hrev : name.reverse = ext.reverse ++ name.reverse.dropWhile (· != dot) := by
      rw [← hext, List.reverse_reverse]
      exact (List.takeWhile_append_dropWhile).symm
    cases hdrop : name.reverse.dropWhile (· != dot) with
    | nil =>
        -- without a dot the whole name would be the extension
        rw [hdrop, List.append_nil] at hrev
        have hlen := congrArg List.length hrev
        rw [List.length_reverse, List.length_reverse] at hlen
        exact absurd hlen.symm hcut.1
    | cons c rest =>
        have hc : c = dot := by
          have := List.head?_dropWhile_not (· != dot) name.reverse
          rw [hdrop] at this
          simpa using this
        subst hc
        rw [hdrop] at hrev
        have hname : name = rest.reverse ++ dot :: ext := by
          have := congrArg List.reverse hrev
          simpa using this
        rw [hname] at hbefore
        have hlen : (rest.reverse ++ dot :: ext).length - ext.length - 1 = rest.reverse.length := by
          simp only [List.length_append, List.length_cons]
          omega
        rw [hlen, List.take_left] at hbefore
        rw [← hbefore]
        exact hname

/-- A path with an extension has a file name, and that is its stem with the extension. -/
theorem fileName?_of_hasExtension {path : ByteString} {ext : String}
    (h : hasExtension path ext = true) : fileName? path = some (stemBytes path ++ "." ++ ext) := by
  unfold hasExtension extension? at h
  unfold fileName? stemBytes
  cases hn : fileNameBytes? path.toList with
  | none => simp [hn] at h
  | some n =>
      simp only [hn, beq_iff_eq, Option.map_eq_some_iff] at h
      obtain ⟨e, he, hext⟩ := h
      have hcut : cutExtension n = ((cutExtension n).1, some e) := by rw [← he]
      simp only [Option.map_some, Option.some.injEq]
      rw [← ByteString.toList_inj]
      have hname := cutExtension_append hcut
      simp only [ByteString.toList_append, ByteString.toList_dot, ← hext]
      rw [List.append_assoc]
      exact hname

end Path

end TestScaffold
