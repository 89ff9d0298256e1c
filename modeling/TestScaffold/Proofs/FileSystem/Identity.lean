/-
  TestScaffold.Proofs.FileSystem.Identity — what the identities of two paths say about their files.

  The identity of a path is its canonical path, or its lexical normal form if there is none.  The
  two kinds can be mixed up in general: a normal form may happen to be the path of another file.
  Without links, and for paths that start together and never go up, they cannot:

    * `LeadsDown` — such a path, and the file that it leads to;
    * `LeadsDown.canonical?_eq` — it has a canonical path if the path of the file is not too long;
    * `names_eq_of_identity_eq` — two of them have one identity only if they have the same names;
    * `identity_eq_iff` — and then, if they lead to files.
-/
import TestScaffold.Proofs.FileSystem.Tracing
import TestScaffold.Proofs.Path.NormalForm

namespace TestScaffold.FileSystem

/-- A path that leads to a file, or to what is no directory, without a step up. -/
structure LeadsDown (fs : FileSystem) (path : ByteString) (loc : Location) : Prop where
  /-- It never goes up. -/
  downward : .up ∉ (Route.ofPath path).steps
  /-- It leads there. -/
  traced : fs.traced? path = some loc
  /-- There is something else than a directory. -/
  ends : ∃ e, fs.find? loc = some e ∧ e.shape ≠ .directory

section LinkFree

variable {fs : FileSystem} (hw : fs.WellFormed) (hfree : fs.LinkFree) {a b : ByteString}
  {la lb : Location}

include hw hfree in
/-- **Its canonical path** is the path of its location, if that is not too long. -/
theorem LeadsDown.canonical?_eq (h : fs.LeadsDown a la) :
    fs.canonical? a = if la.path.size ≤ maxPathBytes then some la.path else none := by
  obtain ⟨e, hthere, he⟩ := h.ends
  have htraceable := isTraceable_iff_of_file hfree hw h.downward h.traced hthere he
  split
  · rename_i hshort
    exact canonical?_of_traced? h.traced (htraceable.mpr hshort)
  · rename_i hlong
    refine canonical?_of_not_isTraceable ?_
    rw [← Bool.not_eq_true]
    exact fun htrace => hlong (htraceable.mp htrace)

include hw hfree in
/-- The canonical path of a path that never goes up is that of its names. -/
theorem canonical?_downward (hup : .up ∉ (Route.ofPath a).steps) {c : ByteString}
    (h : fs.canonical? a = some c) :
    ∃ loc, loc = fs.start (Route.ofPath a) ++ Path.names a ∧ c = Location.path loc
      ∧ ∀ n ∈ loc, Path.isOrdinary n = true := by
  obtain ⟨-, loc, hloc, rfl⟩ := canonical?_eq_some.mp h
  obtain ⟨-, e, hf⟩ := traced?_eq_some.mp hloc
  exact ⟨loc, location_of_traced? hfree hup hloc, rfl,
    Entries.isOrdinary_of_find? hw.ordered (follow_found hf)⟩

include hw hfree in
/-- A canonical path is a normal form only of a path with the same names. -/
theorem names_eq_of_canonical?_eq_clean (ha : .up ∉ (Route.ofPath a).steps)
    (hb : .up ∉ (Route.ofPath b).steps) (habs : Path.isAbsolute a = Path.isAbsolute b)
    (h : fs.canonical? a = some (Path.clean b)) : Path.names a = Path.names b := by
  obtain ⟨loc, hloc, hpath, hord⟩ := canonical?_downward hw hfree ha h
  cases hroot : Path.isAbsolute b with
  | true =>
      -- the normal form of an absolute path is the path of its names
      have hstart : fs.start (Route.ofPath a) = [] := if_pos (habs.trans hroot)
      rw [hstart, List.nil_append] at hloc
      rw [Path.clean_of_absolute (Path.up_not_mem_spelled_of_steps hb) hroot] at hpath
      rw [← hloc]
      exact Location.path_injective hord (fun _ hn => Path.isOrdinary_of_mem_names hn) hpath.symm
  | false =>
      have hclean := Path.isAbsolute_clean b
      rw [hroot, hpath, Path.isAbsolute, Location.path] at hclean
      cases hclean

include hw hfree in
/-- **Identities tell names**: two paths that start together and never go up have one identity only if
    they have the same names, whether they lead anywhere or not. -/
theorem names_eq_of_identity_eq (ha : .up ∉ (Route.ofPath a).steps)
    (hb : .up ∉ (Route.ofPath b).steps) (habs : Path.isAbsolute a = Path.isAbsolute b)
    (h : fs.identity a = fs.identity b) : Path.names a = Path.names b := by
  cases hca : fs.canonical? a with
  | some ca =>
      cases hcb : fs.canonical? b with
      | some cb =>
          obtain ⟨la, hla, hpa, horda⟩ := canonical?_downward hw hfree ha hca
          obtain ⟨lb, hlb, hpb, hordb⟩ := canonical?_downward hw hfree hb hcb
          rw [identity_of_canonical? hca, identity_of_canonical? hcb, hpa, hpb] at h
          have hsame := Location.path_injective horda hordb h
          have hstart : fs.start (Route.ofPath a) = fs.start (Route.ofPath b) := by
            unfold start
            rw [show (Route.ofPath a).fromRoot = (Route.ofPath b).fromRoot from habs]
          rw [hla, hlb, hstart] at hsame
          exact List.append_cancel_left hsame
      | none =>
          rw [identity_of_canonical? hca, identity_of_canonical?_none hcb] at h
          exact names_eq_of_canonical?_eq_clean hw hfree ha hb habs (hca.trans (congrArg some h))
  | none =>
      cases hcb : fs.canonical? b with
      | some cb =>
          rw [identity_of_canonical?_none hca, identity_of_canonical? hcb] at h
          exact (names_eq_of_canonical?_eq_clean hw hfree hb ha habs.symm
            (hcb.trans (congrArg some h.symm))).symm
      | none =>
          rw [identity_of_canonical?_none hca, identity_of_canonical?_none hcb] at h
          exact (Path.clean_eq_iff (Path.up_not_mem_spelled_of_steps ha)
            (Path.up_not_mem_spelled_of_steps hb) habs).mp h

include hw hfree in
/-- **Identities tell files**: two such paths that lead to files have one identity if and only if they
    have the same names. -/
theorem identity_eq_iff (ha : fs.LeadsDown a la) (hb : fs.LeadsDown b lb)
    (habs : Path.isAbsolute a = Path.isAbsolute b) :
    fs.identity a = fs.identity b ↔ Path.names a = Path.names b := by
  refine ⟨names_eq_of_identity_eq hw hfree ha.downward hb.downward habs, fun hnames => ?_⟩
  have hla := location_of_traced? hfree ha.downward ha.traced
  have hlb := location_of_traced? hfree hb.downward hb.traced
  have hstart : fs.start (Route.ofPath a) = fs.start (Route.ofPath b) := by
    unfold start
    rw [show (Route.ofPath a).fromRoot = (Route.ofPath b).fromRoot from habs]
  have hsame : la = lb := by rw [hla, hlb, hstart, hnames]
  rw [identity, identity, ha.canonical?_eq hw hfree, hb.canonical?_eq hw hfree, hsame,
    (Path.clean_eq_iff (Path.up_not_mem_spelled_of_steps ha.downward)
      (Path.up_not_mem_spelled_of_steps hb.downward) habs).mpr hnames]

end LinkFree

end TestScaffold.FileSystem
