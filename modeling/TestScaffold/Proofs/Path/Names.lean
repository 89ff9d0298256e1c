/-
  TestScaffold.Proofs.Path.Names — the names that a path goes down to.

  Where no step goes up, the names of a path are all that it says about a place.  This
  module follows the names through joining, parents and cleaning:

    * `names_join`, `names_of_fileName` — a file name comes after the names of its directory;
    * `components_eq_names` — a path without `..` has its names as components;
    * `clean_of_absolute` — the normal form of such a path, if it is absolute;
    * `Location.path_injective` — the path of a location tells the location.
-/
import TestScaffold.Proofs.Path.Steps

namespace TestScaffold

open Text

/-- The name that a step goes down to. -/
def Step.name? : Step → Option ByteString
  | .down name => some name
  | .here | .up => none

namespace Path

/-! ## §1. Names -/

/-- The names that a path goes down to. -/
def names (path : ByteString) : List ByteString :=
  (Route.spelled path.toList).filterMap Step.name?

theorem filterMap_name?_heres (i : Nat) :
    (List.replicate i Step.here).filterMap Step.name? = [] := by
  induction i with
  | zero => rfl
  | succ i ih => exact ih

theorem filterMap_name?_downs (names : List ByteString) :
    (names.map Step.down).filterMap Step.name? = names := by
  rw [List.filterMap_map]
  exact List.filterMap_some

/-- The names can be read off the steps. -/
theorem filterMap_steps (path : ByteString) :
    (Route.ofPath path).steps.filterMap Step.name? = names path := by
  obtain ⟨j, hj, -⟩ := Route.ofPath_steps path
  rw [hj, List.filterMap_append, filterMap_name?_heres, List.append_nil, names]

theorem mem_names {path n : ByteString} :
    n ∈ names path ↔ .down n ∈ Route.spelled path.toList := by
  unfold names
  rw [List.mem_filterMap]
  constructor
  · rintro ⟨step, hmem, hstep⟩
    cases step with
    | down m =>
        cases hstep
        exact hmem
    | here => cases hstep
    | up => cases hstep
  · intro hmem
    exact ⟨_, hmem, rfl⟩

theorem isOrdinary_of_mem_names {path n : ByteString} (h : n ∈ names path) : isOrdinary n = true :=
  Route.isOrdinary_of_mem_spelled (mem_names.mp h)

theorem names_join {outer name : ByteString} (hord : isOrdinary name = true) :
    names (join outer name) = names outer ++ [name] := by
  unfold names
  rw [spelled_join_name hord, List.filterMap_append]
  rfl

/-- A file name comes after the names of its directory. -/
theorem names_of_fileName {path name : ByteString} (h : fileName? path = some name) :
    names path = names (directory path) ++ [name] := by
  obtain ⟨i, j, hsteps, -, -, -⟩ := steps_of_fileName h
  rw [← filterMap_steps, hsteps, List.filterMap_append, List.filterMap_append,
    filterMap_name?_heres, List.nil_append]
  show names (directory path) ++ name :: (List.replicate j Step.here).filterMap Step.name? = _
  rw [filterMap_name?_heres]

/-- Paths with the same names have the same directories and the same file name, if they end in one. -/
theorem same_of_names {a b : ByteString} (ha : ∃ name, fileName? a = some name)
    (hb : ∃ name, fileName? b = some name) (h : names a = names b) :
    names (directory a) = names (directory b) ∧ fileName? a = fileName? b := by
  obtain ⟨name, ha⟩ := ha
  obtain ⟨name', hb⟩ := hb
  rw [names_of_fileName ha, names_of_fileName hb] at h
  obtain ⟨hdirs, hlast⟩ := List.append_inj' h rfl
  exact ⟨hdirs, by rw [ha, hb, (List.cons.inj hlast).1]⟩

/-- A name on the way is one of the segments of the path. -/
theorem segment_of_mem_names {path n : ByteString} (h : n ∈ names path) :
    n.toList ∈ splitSep slash path.toList := by
  obtain ⟨s, hs, hstep⟩ := List.mem_map.mp (mem_names.mp h)
  obtain ⟨hmem, -⟩ := List.mem_filter.mp hs
  have hn : n = ByteString.ofList s := by
    unfold Route.stepOf at hstep
    split at hstep
    · cases hstep
    · split at hstep
      · cases hstep
      · cases hstep
        rfl
  rw [hn]
  exact hmem

/-- A name on the way is spelled out in the path. -/
theorem infix_of_mem_names {path n : ByteString} (h : n ∈ names path) : n.toList <:+: path.toList :=
  infix_of_mem_splitSep (segment_of_mem_names h)

/-- Conversely, what is neither a slash nor a dot is in a name. -/
theorem exists_mem_names {path : ByteString} {c : UInt8} (hc : c ∈ path.toList) (hslash : c ≠ slash)
    (hdot : c ≠ dot) : ∃ n ∈ names path, c ∈ n.toList := by
  obtain ⟨s, hs, hmem⟩ := exists_mem_splitSep hc hslash
  have hsegment : s ∈ Route.segments path.toList := by
    refine List.mem_filter.mpr ⟨hs, ?_⟩
    cases s with
    | nil => exact absurd hmem List.not_mem_nil
    | cons d s => rfl
  -- a segment of dots does not have the byte
  have hstep : Route.stepOf s = .down (ByteString.ofList s) := by
    unfold Route.stepOf
    rw [if_neg, if_neg]
    · intro heq
      rw [beq_iff_eq.mp heq] at hmem
      simp [hdot] at hmem
    · intro heq
      rw [beq_iff_eq.mp heq] at hmem
      simp [hdot] at hmem
  refine ⟨ByteString.ofList s, mem_names.mpr (List.mem_map.mpr ⟨s, hsegment, hstep⟩), ?_⟩
  rw [ByteString.toList_ofList]
  exact hmem

/-- Two spellings of the same names have the same bytes but for slashes and dots. -/
theorem mem_iff_of_names {a b : ByteString} (h : names a = names b) {c : UInt8} (hslash : c ≠ slash)
    (hdot : c ≠ dot) : c ∈ a.toList ↔ c ∈ b.toList := by
  have hsub : ∀ {x y : ByteString}, names x = names y → c ∈ x.toList → c ∈ y.toList := by
    intro x y hxy hc
    obtain ⟨n, hn, hmem⟩ := exists_mem_names hc hslash hdot
    rw [hxy] at hn
    exact (infix_of_mem_names hn).subset hmem
  exact ⟨hsub h, hsub h.symm⟩

/-- The reading of a name on the way stands in the reading of the path. -/
theorem text_infix_of_mem_names {path n : ByteString} (h : n ∈ names path) :
    n.text.toList <:+: path.text.toList := by
  rw [ByteString.toList_text n]
  exact ByteString.readBytes_infix (segment_of_mem_names h)

/-- **What is read in a path**, and is no slash and no dots, is read in one of its names. -/
theorem exists_name_of_infix {path : ByteString} {part : List Char} (hslash : '/' ∉ part)
    (hdot : ∃ c ∈ part, c ≠ '.') (h : part <:+: path.text.toList) :
    ∃ n ∈ names path, part <:+: n.text.toList := by
  obtain ⟨s, hs, hpart⟩ := (ByteString.infix_text_iff hslash path).mp h
  obtain ⟨c, hc, hother⟩ := hdot
  have hread : c ∈ ByteString.readBytes s := hpart.subset hc
  -- nothing else is read in a segment that is no name
  have hne : s ≠ [] := by
    rintro rfl
    exact absurd hread List.not_mem_nil
  have hcurrent : s ≠ [dot] := by
    rintro rfl
    exact hother (List.mem_singleton.mp hread)
  have hparent : s ≠ [dot, dot] := by
    rintro rfl
    exact hother (by simpa using (show c ∈ ['.', '.'] from hread))
  have hstep : Route.stepOf s = .down (ByteString.ofList s) := by
    simp [Route.stepOf, hcurrent, hparent]
  have hsegment : s ∈ Route.segments path.toList := List.mem_filter.mpr ⟨hs, by simpa using hne⟩
  refine ⟨ByteString.ofList s, mem_names.mpr (List.mem_map.mpr ⟨s, hsegment, hstep⟩), ?_⟩
  rw [ByteString.toList_text]
  exact hpart

/-! ## §2. Paths that never go up -/

/-- A path without `..` has no step up. -/
theorem up_not_mem_spelled {path : ByteString} (h : .parent ∉ components path) :
    .up ∉ Route.spelled path.toList := by
  intro hup
  refine h ?_
  -- a step up is no step that stays, so it comes from a segment that counts
  have hkept : Step.up ∈ (Route.spelled path.toList).filter fun s => s != .here :=
    List.mem_filter.mpr ⟨hup, by decide⟩
  rw [filter_spelled] at hkept
  obtain ⟨s, hs, hstep⟩ := List.mem_map.mp hkept
  refine List.mem_append_right _ (List.mem_map.mpr ⟨s, hs, ?_⟩)
  unfold Route.stepOf at hstep
  split at hstep
  · cases hstep
  · split at hstep
    · rename_i hdots
      exact if_pos hdots
    · cases hstep

theorem up_not_mem_steps {path : ByteString} (h : .up ∉ Route.spelled path.toList) :
    .up ∉ (Route.ofPath path).steps := by
  obtain ⟨j, hj, -⟩ := Route.ofPath_steps path
  rw [hj]
  intro hup
  rcases List.mem_append.mp hup with hup | hup
  · exact h hup
  · cases List.eq_of_mem_replicate hup

theorem up_not_mem_spelled_of_steps {path : ByteString} (h : .up ∉ (Route.ofPath path).steps) :
    .up ∉ Route.spelled path.toList := by
  obtain ⟨j, hj, -⟩ := Route.ofPath_steps path
  rw [hj] at h
  exact fun hup => h (List.mem_append_left _ hup)

/-- The directory of a path goes up only where the path does. -/
theorem up_not_mem_directory {path name : ByteString} (hname : fileName? path = some name)
    (h : .up ∉ (Route.ofPath path).steps) : .up ∉ Route.spelled (directory path).toList := by
  obtain ⟨i, j, hsteps, -, -, -⟩ := steps_of_fileName hname
  intro hup
  refine h ?_
  rw [hsteps]
  exact List.mem_append_left _ hup

/-- Counting segments without `..` are names, as steps and as components. -/
theorem map_ofSegment {ss : List (List UInt8)} (hcounts : ∀ s ∈ ss, counts s = true)
    (hup : .up ∉ ss.map Route.stepOf) :
    ss.map Component.ofSegment
      = ((ss.map Route.stepOf).filterMap Step.name?).map fun n => .name n.toList := by
  induction ss with
  | nil => rfl
  | cons s ss ih =>
      have hs : s ≠ [dot, dot] := by
        rintro rfl
        exact hup List.mem_cons_self
      have hdot : s ≠ [dot] := by
        rintro rfl
        exact absurd (hcounts _ List.mem_cons_self) (by decide)
      have hstep : Route.stepOf s = .down (ByteString.ofList s) := by simp [Route.stepOf, hs, hdot]
      have hcomp : Component.ofSegment s = .name s := by simp [Component.ofSegment, hs]
      have hrest := ih (fun t ht => hcounts t (List.mem_cons_of_mem _ ht))
        fun hmem => hup (List.mem_cons_of_mem _ hmem)
      rw [List.map_cons, List.map_cons, hstep, hcomp, hrest]
      show _ = Component.name (ByteString.ofList s).toList :: _
      rw [ByteString.toList_ofList]

/-- **The components of a path that never goes up** are its names. -/
theorem components_eq_names {path : ByteString} (h : .up ∉ Route.spelled path.toList) :
    components path
      = headComponents (parts path.toList).head ++ (names path).map fun n => .name n.toList := by
  have hfilter := filter_spelled path.toList
  have hup : Step.up ∉ ((splitSep slash (parts path.toList).body).filter counts).map
      Route.stepOf := by
    rw [← hfilter]
    intro hmem
    exact h (List.mem_filter.mp hmem).1
  have hnames : names path = (((splitSep slash (parts path.toList).body).filter counts).map
      Route.stepOf).filterMap Step.name? := by
    rw [← hfilter, List.filterMap_filter, names]
    congr 1
    funext step
    cases step <;> rfl
  rw [hnames, ← map_ofSegment (fun s hs => (List.mem_filter.mp hs).2) hup]
  rfl

/-! ## §3. Their normal form -/

theorem parent_not_mem_components {path : ByteString} (h : .up ∉ Route.spelled path.toList) :
    .parent ∉ components path := by
  rw [components_eq_names h]
  intro hmem
  rcases List.mem_append.mp hmem with hmem | hmem
  · unfold headComponents at hmem
    split at hmem <;> simp at hmem
  · obtain ⟨n, -, hn⟩ := List.mem_map.mp hmem
    cases hn

/-- Cleaning keeps names as they are. -/
theorem foldl_cleanStep_names (ns : List ByteString) (kept : List Component) :
    (ns.map fun n => Component.name n.toList).foldl cleanStep kept
      = (ns.map fun n => Component.name n.toList).reverse ++ kept := by
  induction ns generalizing kept with
  | nil => rfl
  | cons n ns ih =>
      rw [List.map_cons, List.foldl_cons, ih, List.reverse_cons, List.append_assoc]
      rfl

/-- **The normal form of an absolute path** that never goes up is the path of its names. -/
theorem clean_of_absolute {path : ByteString} (h : .up ∉ Route.spelled path.toList)
    (habs : isAbsolute path = true) : clean path = Location.path (names path) := by
  -- of the three heads only the root is absolute
  have hhead : (parts path.toList).head = [slash] := by
    have hc : path.toList.head? = some slash := by simpa [isAbsolute] using habs
    rcases parts_cases path.toList with ⟨body, -, hp⟩ | ⟨body, hcs, -, -⟩ | ⟨hroot, -⟩
    · rw [hp]
    · rw [hcs] at hc
      cases hc
    · exact absurd hc hroot
  have hclean : cleanComponents (components path)
      = .root :: (names path).map fun n => .name n.toList := by
    rw [components_eq_names h, hhead, cleanComponents, List.foldl_append, foldl_cleanStep_names,
      List.reverse_append, List.reverse_reverse]
    rfl
  unfold clean Location.path
  rw [hclean, writeComponents, List.map_map]
  rfl

end Path

/-- **The path of a location tells the location.** -/
theorem Location.path_injective {a b : Location} (ha : ∀ n ∈ a, Path.isOrdinary n = true)
    (hb : ∀ n ∈ b, Path.isOrdinary n = true) (h : a.path = b.path) : a = b := by
  -- the segments of the path are the names, which are neither empty nor slashed
  have hsegments : ∀ loc : Location, (∀ n ∈ loc, Path.isOrdinary n = true) →
      Route.segments loc.path.toList = loc.map ByteString.toList := by
    intro loc hloc
    unfold Location.path
    show Route.segments (slash :: Path.joinSegments (loc.map ByteString.toList)) = _
    rw [Route.segments_cons_slash, Route.segments_intercalate]
    · refine List.filter_eq_self.mpr ?_
      intro s hs
      obtain ⟨n, hn, rfl⟩ := List.mem_map.mp hs
      simpa using (Path.isOrdinary_iff.mp (hloc n hn)).1
    · intro s hs
      obtain ⟨n, hn, rfl⟩ := List.mem_map.mp hs
      exact (Path.isOrdinary_iff.mp (hloc n hn)).2.1
  have hmap : a.map ByteString.toList = b.map ByteString.toList := by
    rw [← hsegments a ha, ← hsegments b hb, h]
  exact (List.map_inj_right fun x y hxy => ByteString.toList_inj.mp hxy).mp hmap

end TestScaffold
