/-
  TestScaffold.Proofs.Path.Ancestors — the paths above a path.

  The parent of a path is cut from its text, between two components.  So every path above a
  path is a beginning of it, as text and as a list of components:

    * `parts_segments` — a path cut between segments keeps its head;
    * `parentBytes?_eq_some` — the parent has all components but the last;
    * `above_of_mem_ancestors` — the directory of a path and all above it are above the path;
    * `DirectlyIn.directory_starts` — the directory of a file deeper down begins with that of a file
      directly in a directory.
-/
import TestScaffold.Proofs.Path.Steps

namespace TestScaffold.Path

open Text

/-! ## §1. Parents -/

/-- What stands before the body of a path is read the same when the body ends after some segment. -/
theorem parts_segments {cs : List UInt8} {A B : List (List UInt8)}
    (h : splitSep slash (parts cs).body = A ++ B) :
    parts ((parts cs).head ++ joinSegments A) = ⟨(parts cs).head, joinSegments A⟩ := by
  have hbody : joinSegments (A ++ B) = (parts cs).body := by
    rw [← h]
    exact intercalate_splitSep slash _
  have hpre : joinSegments A <+: (parts cs).body := hbody ▸ joinSegments_starts A B
  rcases parts_cases cs with ⟨body, -, hp⟩ | ⟨body, -, hstart, hp⟩ | ⟨hroot, hp⟩
  · rw [hp]
    rfl
  · -- a dot is the head only before a slash, so what follows it starts with one
    rw [hp] at hpre ⊢
    cases hA : joinSegments A with
    | nil => rfl
    | cons c x =>
        rw [hA] at hpre
        rcases hstart with rfl | ⟨rest, rfl⟩
        · exact absurd (List.prefix_nil.mp hpre) (List.cons_ne_nil c x)
        · have hc : c = slash := (List.cons_prefix_cons.mp hpre).1
          subst hc
          rfl
  · simp only [hp] at hbody hpre ⊢
    -- a head at the cut path would be a head of the whole path
    rcases parts_cases (joinSegments A) with ⟨x, hx, -⟩ | ⟨x, hx, hstart, -⟩ | ⟨-, hparts⟩
    · rw [hx] at hpre
      obtain ⟨more, hmore⟩ := hpre
      rw [← hmore] at hroot
      exact absurd rfl hroot
    · have hcs : ∃ y, cs = dot :: y ∧ (y = [] ∨ ∃ rest, y = slash :: rest) := by
        by_cases hB : B = []
        · rw [hB, List.append_nil, hx] at hbody
          exact ⟨x, hbody.symm, hstart⟩
        · have hA : A ≠ [] := by
            rintro rfl
            cases hx
          rw [joinSegments_append hA hB, hx] at hbody
          rcases hstart with rfl | ⟨rest, rfl⟩
          · exact ⟨_, hbody.symm, Or.inr ⟨_, rfl⟩⟩
          · exact ⟨_, hbody.symm, Or.inr ⟨_, rfl⟩⟩
      obtain ⟨y, rfl, rfl | ⟨rest, rfl⟩⟩ := hcs <;> cases hp
    · exact hparts

theorem componentsOf_segments {cs : List UInt8} {A B : List (List UInt8)}
    (h : splitSep slash (parts cs).body = A ++ B) :
    componentsOf ((parts cs).head ++ joinSegments A)
      = headComponents (parts cs).head ++ (A.filter counts).map Component.ofSegment := by
  unfold componentsOf
  rw [parts_segments h]
  cases A with
  | nil => rfl
  | cons s A =>
      have hslash : ∀ t ∈ s :: A, slash ∉ t := by
        intro t ht
        have hmem : t ∈ splitSep slash (parts cs).body := by
          rw [h]
          exact List.mem_append_left B ht
        exact not_mem_of_mem_splitSep hmem
      simp only [joinSegments, splitSep_intercalate (List.cons_ne_nil s A) hslash]

/-- **The parent of a path** is a beginning of its text and has all its components but the last. -/
theorem parentBytes?_eq_some {cs up : List UInt8} (h : parentBytes? cs = some up) :
    up <+: cs ∧ ∃ last, componentsOf cs = componentsOf up ++ [last] := by
  obtain ⟨T₂, hsplit, hT₂, hlast⟩ := upToLastCounting_split (splitSep slash (parts cs).body)
  have hfilter : T₂.filter counts = [] := by simpa using hT₂
  unfold parentBytes? at h
  rcases List.eq_nil_or_concat (upToLastCounting (splitSep slash (parts cs).body)) with
    hnil | ⟨init, last, hcons⟩
  · -- no segment counts: only a leading dot has a parent
    simp only [hnil] at h
    split at h
    · rename_i hhead
      cases h
      refine ⟨List.nil_prefix, .current, ?_⟩
      rw [hnil, List.nil_append] at hsplit
      have hdot : (parts cs).head = [dot] := by simpa using hhead
      simp only [componentsOf, hsplit, hfilter, hdot]
      rfl
    · cases h
  · rw [List.concat_eq_append] at hcons
    rw [hcons] at hsplit hlast
    obtain ⟨T₁, hinit, hT₁, -⟩ := upToLastCounting_split init
    have hcount : counts last = true := hlast last (by simp)
    have hskip : T₁.filter counts = [] := by simpa using hT₁
    have hsegments : splitSep slash (parts cs).body
        = upToLastCounting init ++ (T₁ ++ last :: T₂) := by
      rw [hsplit, ← List.append_assoc, ← hinit]
      simp
    have hup : up = (parts cs).head ++ joinSegments (upToLastCounting init) := by
      simp only [hcons] at h
      split at h
      · rename_i heq
        simp at heq
      · rw [List.dropLast_concat] at h
        exact (Option.some.inj h).symm
    refine ⟨?_, Component.ofSegment last, ?_⟩
    · have hpre : joinSegments (upToLastCounting init) <+: (parts cs).body := by
        rw [← intercalate_splitSep slash (parts cs).body, hsegments]
        exact joinSegments_starts _ _
      rw [hup]
      have hcs := (List.prefix_append_right_inj (parts cs).head).mpr hpre
      rwa [parts_append] at hcs
    · rw [hup, componentsOf_segments hsegments]
      simp only [componentsOf, hsegments, List.filter_append, List.filter_cons_of_pos hcount, hskip,
        hfilter, List.map_append, List.nil_append, List.map_cons, List.map_nil, List.append_assoc]

/-! ## §2. Paths above a path -/

/-- A path that ends before the last component of another one: its text is a beginning of the other
    text, and its components are a proper beginning of the other components. -/
structure Above (above path : ByteString) : Prop where
  /-- The text goes on. -/
  text : above.toList <+: path.toList
  /-- The components go on. -/
  components : ∃ rest, rest ≠ [] ∧ Path.components path = Path.components above ++ rest

theorem mem_ancestorsFrom {fuel : Nat} {cs : List UInt8} {a : ByteString}
    (h : a ∈ ancestorsFrom fuel cs) :
    a.toList <+: cs ∧ componentsOf a.toList <+: componentsOf cs := by
  induction fuel generalizing cs with
  | zero =>
      rw [ancestorsFrom, List.mem_singleton] at h
      rw [h, ByteString.toList_ofList]
      exact ⟨List.prefix_refl cs, List.prefix_refl _⟩
  | succ fuel ih =>
      rw [ancestorsFrom] at h
      rcases List.mem_cons.mp h with rfl | h
      · rw [ByteString.toList_ofList]
        exact ⟨List.prefix_refl cs, List.prefix_refl _⟩
      · cases hup : parentBytes? cs with
        | none =>
            rw [hup] at h
            cases h
        | some up =>
            rw [hup] at h
            obtain ⟨htext, hcomponents⟩ := ih h
            obtain ⟨hpre, last, hlast⟩ := parentBytes?_eq_some hup
            refine ⟨htext.trans hpre, hcomponents.trans ?_⟩
            rw [hlast]
            exact List.prefix_append _ _

/-- **The directory of a path and all paths above it** are above the path; an empty path asks for no
    directory. -/
theorem above_of_mem_ancestors {a path : ByteString} (h : a ∈ ancestors (directory path))
    (hne : a ≠ "") : Above a path := by
  obtain ⟨htext, more, hmore⟩ := mem_ancestorsFrom h
  unfold directory parent? at htext hmore
  cases hup : parentBytes? path.toList with
  | none =>
      rw [hup] at htext
      refine absurd ?_ hne
      exact ByteString.toList_inj.mp (List.prefix_nil.mp htext)
  | some up =>
      rw [hup] at htext hmore
      simp only [Option.map_some, Option.getD_some, ByteString.toList_ofList] at htext hmore
      obtain ⟨hpre, last, hlast⟩ := parentBytes?_eq_some hup
      refine ⟨htext.trans hpre, more ++ [last], by simp, ?_⟩
      unfold components
      rw [hlast, ← hmore, List.append_assoc]

/-! ## §3. Files in a directory -/

/-- The segments up to the last one that counts, where more segments follow. -/
theorem upToLastCounting_append (A B : List (List UInt8)) :
    upToLastCounting (A ++ B)
      = if upToLastCounting B = [] then upToLastCounting A else A ++ upToLastCounting B := by
  induction A with
  | nil =>
      by_cases hB : upToLastCounting B = []
      · simp [hB, upToLastCounting]
      · simp [hB]
  | cons s A ih =>
      rw [List.cons_append, upToLastCounting, ih]
      by_cases hB : upToLastCounting B = []
      · rw [if_pos hB, if_pos hB, upToLastCounting]
      · rw [if_neg hB, if_neg hB]
        obtain ⟨t, ts, hts⟩ := List.exists_cons_of_ne_nil
          (show A ++ upToLastCounting B ≠ [] by simp [hB])
        rw [List.cons_append, hts]

theorem upToLastCounting_starts (A B : List (List UInt8)) :
    upToLastCounting A <+: upToLastCounting (A ++ B) := by
  rw [upToLastCounting_append]
  split
  · exact List.prefix_refl _
  · obtain ⟨tail, hsplit, -, -⟩ := upToLastCounting_split A
    exact ⟨tail ++ upToLastCounting B, by rw [← List.append_assoc, ← hsplit]⟩

/-- A segment that counts is kept. -/
theorem upToLastCounting_ne_nil {ss : List (List UInt8)} {s : List UInt8} (h : s ∈ ss)
    (hs : counts s = true) : upToLastCounting ss ≠ [] := by
  obtain ⟨tail, hsplit, htail, -⟩ := upToLastCounting_split ss
  intro hnil
  rw [hnil, List.nil_append] at hsplit
  have hnot := htail s (hsplit ▸ h)
  rw [hs] at hnot
  cases hnot

/-- What stands before the body of the paths in a directory. -/
def headBelow (d : List UInt8) : List UInt8 :=
  if d = [] then [slash] else (parts d).head

/-- The segments that the paths in a directory have in common. -/
def segmentsBelow (d : List UInt8) : List (List UInt8) :=
  if d = [] then [] else splitSep slash (parts d).body

/-- A directory as the parent of a path in it spells it: what does not count at its end is cut off. -/
def trimmedDirectory (d : List UInt8) : List UInt8 :=
  headBelow d ++ joinSegments (upToLastCounting (segmentsBelow d))

theorem head_slash (d rest : List UInt8) : (parts (d ++ slash :: rest)).head = headBelow d := by
  by_cases hd : d = []
  · rw [hd]
    rfl
  · rw [parts_join_slash hd, headBelow, if_neg hd]

theorem segments_slash (d rest : List UInt8) :
    splitSep slash (parts (d ++ slash :: rest)).body = segmentsBelow d ++ splitSep slash rest := by
  by_cases hd : d = []
  · rw [hd]
    rfl
  · rw [parts_join_slash hd, splitSep_append, segmentsBelow, if_neg hd]

/-- **The parent of a path in a directory** is cut before the last segment that counts. -/
theorem parentBytes?_slash (d : List UInt8) {rest : List UInt8}
    (h : upToLastCounting (splitSep slash rest) ≠ []) :
    parentBytes? (d ++ slash :: rest)
      = some (headBelow d ++ joinSegments
          (upToLastCounting (segmentsBelow d ++ (upToLastCounting (splitSep slash rest)).dropLast))) := by
  have hkept : upToLastCounting (splitSep slash (parts (d ++ slash :: rest)).body)
      = segmentsBelow d ++ upToLastCounting (splitSep slash rest) := by
    rw [segments_slash, upToLastCounting_append, if_neg h]
  have hlast : (segmentsBelow d ++ upToLastCounting (splitSep slash rest)).dropLast
      = segmentsBelow d ++ (upToLastCounting (splitSep slash rest)).dropLast :=
    List.dropLast_append_of_ne_nil h
  unfold parentBytes?
  simp only [hkept, head_slash]
  split
  · rename_i hnil
    exact absurd (List.append_eq_nil_iff.mp hnil).2 h
  · rw [hlast]

/-- A path with a file name has a segment that counts. -/
theorem upToLastCounting_of_fileName {rest name : ByteString} (h : fileName? rest = some name) :
    upToLastCounting (splitSep slash rest.toList) ≠ [] := by
  obtain ⟨base, i, j, -, -, -, -, hsteps⟩ := spelled_parent (fileNameBytes?_of_fileName? h)
  rw [ByteString.ofList_toList] at hsteps
  have hdown : Step.down name ∈ Route.spelled rest.toList := by simp [hsteps]
  obtain ⟨s, hs, hstep⟩ := List.mem_map.mp hdown
  obtain ⟨hmem, hne⟩ := List.mem_filter.mp hs
  -- the step goes down, so the segment is not a dot
  have hdot : s ≠ [dot] := by
    intro heq
    rw [stepOf_eq_here_iff.mpr heq] at hstep
    cases hstep
  have hempty : s ≠ [] := by simpa using hne
  exact upToLastCounting_ne_nil hmem (by simp [counts, hempty, hdot])

theorem toList_slash (d rest : ByteString) :
    (d ++ "/" ++ rest).toList = d.toList ++ slash :: rest.toList := by
  rw [ByteString.toList_append, ByteString.toList_append, List.append_assoc]
  rfl

/-- The head of a path is read as it stands, whatever comes after it. -/
theorem readBytes_headBelow (d bs : List UInt8) :
    ByteString.readBytes (headBelow d ++ bs)
      = ByteString.readBytes (headBelow d) ++ ByteString.readBytes bs := by
  refine ByteString.readBytes_append (Or.inl ?_)
  unfold headBelow
  split
  · simp [slash]
  · rcases parts_cases d with ⟨body, -, hp⟩ | ⟨body, -, -, hp⟩ | ⟨-, hp⟩ <;> simp [hp, slash, dot]

/-- Segments are read as they stand, whatever segments come after them. -/
theorem readBytes_joinSegments_starts (A B : List (List UInt8)) :
    ByteString.readBytes (joinSegments A) <+: ByteString.readBytes (joinSegments (A ++ B)) := by
  by_cases hA : A = []
  · rw [hA]
    exact List.nil_prefix
  · by_cases hB : B = []
    · simp only [hB, List.append_nil, List.prefix_refl]
    · rw [joinSegments_append hA hB, ByteString.readBytes_slash]
      exact List.prefix_append _ _

/-- The directory of a file at any depth of a directory is read like that directory at its begin. -/
theorem trimmedDirectory_starts (d : ByteString) {rest name : ByteString} (h : fileName? rest = some name) :
    ByteString.readBytes (trimmedDirectory d.toList)
      <+: (directory (d ++ "/" ++ rest)).text.toList := by
  have hdirectory := parentBytes?_slash d.toList (upToLastCounting_of_fileName h)
  rw [ByteString.toList_text]
  unfold directory parent?
  rw [toList_slash, hdirectory]
  simp only [Option.map_some, Option.getD_some]
  rw [trimmedDirectory, readBytes_headBelow, readBytes_headBelow]
  refine (List.prefix_append_right_inj _).mpr ?_
  obtain ⟨more, hmore⟩ := upToLastCounting_starts (segmentsBelow d.toList)
    (upToLastCounting (splitSep slash rest.toList)).dropLast
  rw [← hmore]
  exact readBytes_joinSegments_starts _ more

theorem directory_slash_name (d : ByteString) {name : ByteString} (h : isOrdinary name = true) :
    (directory (d ++ "/" ++ name)).toList = trimmedDirectory d.toList := by
  have hsplit := splitSep_of_not_mem (isOrdinary_iff.mp h).2.1
  have hkept : upToLastCounting (splitSep slash name.toList) = [name.toList] := by
    rw [hsplit, upToLastCounting, upToLastCounting, counts_ordinary h]
    rfl
  have hne : upToLastCounting (splitSep slash name.toList) ≠ [] := by simp [hkept]
  have hdirectory := parentBytes?_slash d.toList hne
  rw [hkept, List.dropLast_singleton, List.append_nil] at hdirectory
  unfold directory parent?
  rw [toList_slash, hdirectory]
  rfl

theorem upToLastCounting_self {A : List (List UInt8)} (h : ∀ s ∈ A.getLast?, counts s = true) :
    upToLastCounting A = A := by
  rcases List.eq_nil_or_concat A with rfl | ⟨init, last, rfl⟩
  · rfl
  · rw [List.concat_eq_append] at h ⊢
    exact upToLastCounting_concat init (h last (by simp))

/-- Segments that are joined are read again, up to the last one that counts. -/
theorem joinSegments_reread {A : List (List UInt8)} (hslash : ∀ s ∈ A, slash ∉ s)
    (hself : upToLastCounting A = A) :
    joinSegments (upToLastCounting (splitSep slash (joinSegments A))) = joinSegments A := by
  by_cases hA : A = []
  · rw [hA]
    rfl
  · have hread : splitSep slash (joinSegments A) = A := splitSep_intercalate hA hslash
    rw [hread, hself]

/-- **How a parent is written**: the head of the path and segments of it, the last of which counts. -/
theorem parentBytes?_written {cs d : List UInt8} (h : parentBytes? cs = some d) (hd : d ≠ []) :
    ∃ A, d = (parts cs).head ++ joinSegments A ∧ parts d = ⟨(parts cs).head, joinSegments A⟩
      ∧ (∀ s ∈ A, slash ∉ s) ∧ upToLastCounting A = A := by
  obtain ⟨T, hsplit, -, -⟩ := upToLastCounting_split (splitSep slash (parts cs).body)
  rcases List.eq_nil_or_concat (upToLastCounting (splitSep slash (parts cs).body)) with
    hnil | ⟨init, last, hcons⟩
  · -- no segment counts: the only parent is that of a leading dot, which is empty
    simp only [parentBytes?, hnil] at h
    split at h
    · exact absurd (Option.some.inj h).symm hd
    · cases h
  · rw [List.concat_eq_append] at hcons
    obtain ⟨T', hinit, -, hlast⟩ := upToLastCounting_split init
    rw [hcons] at hsplit
    have hbody : splitSep slash (parts cs).body
        = upToLastCounting init ++ (T' ++ last :: T) := by
      rw [hsplit, ← List.append_assoc, ← hinit]
      simp
    have hparent : d = (parts cs).head ++ joinSegments (upToLastCounting init) := by
      simp only [parentBytes?, hcons] at h
      split at h
      · rename_i heq
        simp at heq
      · rw [List.dropLast_concat] at h
        exact (Option.some.inj h).symm
    refine ⟨upToLastCounting init, hparent, ?_, ?_, upToLastCounting_self hlast⟩
    · rw [hparent]
      exact parts_segments hbody
    · intro s hs
      have hpiece : s ∈ splitSep slash (parts cs).body := by
        rw [hbody]
        exact List.mem_append_left _ hs
      exact not_mem_of_mem_splitSep hpiece

/-- A parent is spelled without anything that does not count at its end. -/
theorem trimmedDirectory_of_parent {cs d : List UInt8} (h : parentBytes? cs = some d) (hd : d ≠ []) :
    trimmedDirectory d = d := by
  obtain ⟨A, hparent, hparts, hslash, hself⟩ := parentBytes?_written h hd
  rw [trimmedDirectory, headBelow, segmentsBelow, if_neg hd, if_neg hd, hparts]
  simp only [joinSegments_reread hslash hself]
  exact hparent.symm

/-- A path is directly in a directory: it is spelled as the directory, a slash and a name, or has
    the directory for its parent. -/
def DirectlyIn (d path : ByteString) : Prop :=
  (∃ name, isOrdinary name = true ∧ path = d ++ "/" ++ name) ∨ parent? path = some d

/-- **The directory of a file at any depth** is read like the directory of a file directly in it at its
    begin. -/
theorem DirectlyIn.directory_starts {d path rest name : ByteString} (h : DirectlyIn d path)
    (hname : fileName? rest = some name) :
    (directory path).text.toList <+: (directory (d ++ "/" ++ rest)).text.toList := by
  have hstarts := trimmedDirectory_starts d hname
  rw [ByteString.toList_text (directory path)]
  rcases h with ⟨own, hord, rfl⟩ | hparent
  · rwa [directory_slash_name d hord]
  · have hdir : directory path = d := by
      unfold directory
      rw [hparent]
      rfl
    rw [hdir]
    by_cases hd : d.toList = []
    · rw [hd]
      exact List.nil_prefix
    · obtain ⟨up, hup, rfl⟩ := Option.map_eq_some_iff.mp hparent
      rwa [trimmedDirectory_of_parent hup hd] at hstarts

end TestScaffold.Path
