/-
  TestScaffold.Proofs.Path.FileName — a path taken apart and put together again.

  The directory of a path is spelled without the last component, and the stem of a path without
  the extension.  Neither is the text of the path cut at one place: slashes that are repeated or
  stand at the end go, and so do inner dots.  What is left is followed here by components:

    * `components_join` — a name that is joined to a path comes after its components;
    * `components_of_fileName` — the file name comes after the components of the directory;
    * `components_directory_join_iff` — so only the file name, joined to the directory, gives the
      components back;
    * `fileName_iff_hasExtension` — the stem with an extension is the file name exactly if the path
      has that extension;
    * `fileName_iff_readable` — the stem as it is read is so exactly if, besides, the name is a text;
    * `not_readAlike_of_isText` — only names that are no texts are read as the names of others.
-/
import TestScaffold.Proofs.Path.Ancestors

namespace TestScaffold.Path

open Text

/-! ## §1. Components -/

/-- Between slashes, an ordinary name is one component. -/
theorem components_segment {name : ByteString} (h : isOrdinary name = true) :
    ((splitSep slash name.toList).filter counts).map Component.ofSegment = [.name name.toList] := by
  obtain ⟨-, hslash, -, hdots⟩ := isOrdinary_iff.mp h
  rw [splitSep_of_not_mem hslash, List.filter_cons_of_pos (counts_ordinary h), List.filter_nil,
    List.map_singleton, Component.ofSegment, if_neg (by simpa using hdots)]

/-- A slash after a path separates components. -/
theorem componentsOf_slash {a : List UInt8} (ha : a ≠ []) (b : List UInt8) :
    componentsOf (a ++ slash :: b)
      = componentsOf a ++ ((splitSep slash b).filter counts).map Component.ofSegment := by
  simp only [componentsOf, parts_join_slash ha, splitSep_append, List.filter_append,
    List.map_append, List.append_assoc]

/-- A slash in front is the root. -/
theorem componentsOf_root (b : List UInt8) :
    componentsOf (slash :: b)
      = .root :: ((splitSep slash b).filter counts).map Component.ofSegment := rfl

/-- **A name that is joined to a path** comes after the components of the path. -/
theorem components_join (path : ByteString) {name : ByteString} (h : isOrdinary name = true) :
    components (join path name) = components path ++ [.name name.toList] := by
  unfold components
  rw [toList_join, ← components_segment h]
  obtain ⟨hnil, hjoin⟩ | ⟨front, hfront, hjoin⟩ | ⟨hne, -, hjoin⟩ :=
    joinBytes_of_relative path.toList (head?_ordinary h)
  · -- nothing stands before the name, and a name alone has no head
    rw [hjoin, hnil, componentsOf, parts_ordinary h]
    rfl
  · rw [hjoin, hfront]
    by_cases hroot : front = []
    · rw [hroot]
      exact componentsOf_root name.toList
    · -- the slash at the end of the path is the one before the name
      rw [componentsOf_slash hroot, componentsOf_slash hroot]
      simp [splitSep, counts]
  · rw [hjoin]
    exact componentsOf_slash hne name.toList

/-- **The file name of a path** comes after the components of its directory. -/
theorem components_of_fileName {path name : ByteString} (h : fileName? path = some name) :
    components path = components (directory path) ++ [.name name.toList] := by
  have hchars := fileNameBytes?_of_fileName? h
  obtain ⟨base, -, -, hparent, -⟩ := spelled_parent hchars
  obtain ⟨-, last, hlast⟩ := parentBytes?_eq_some hparent
  have hdirectory : components (directory path) = componentsOf base := by
    unfold components directory parent?
    rw [hparent]
    simp only [Option.map_some, Option.getD_some, ByteString.toList_ofList]
  -- the last component is the file name
  have hname : last = .name name.toList := by
    unfold fileNameBytes? at hchars
    rw [hlast, List.getLast?_concat] at hchars
    cases last with
    | name n => rw [Option.some.inj hchars]
    | root => cases hchars
    | current => cases hchars
    | parent => cases hchars
  rw [hdirectory, ← hname]
  exact hlast

/-- **Only its file name gives a path back**: a name joined to the directory of a path has the
    components of the path exactly if it is the file name. -/
theorem components_directory_join_iff {path own name : ByteString} (h : fileName? path = some own)
    (hord : isOrdinary name = true) :
    components (join (directory path) name) = components path ↔ name = own := by
  rw [components_join _ hord, components_of_fileName h, List.append_cancel_left_eq]
  simp [ByteString.toList_inj]

/-! ## §2. Stem and extension -/

/-- A name without an extension is its own stem. -/
theorem cutExtension_whole {name : List UInt8} (h : (cutExtension name).2 = none) :
    (cutExtension name).1 = name := by
  unfold cutExtension at h ⊢
  simp only at h ⊢
  split
  · rfl
  · rename_i hcut
    rw [if_neg hcut] at h
    cases h

/-- **The stem with an extension** is the file name exactly if the path has that extension. -/
theorem fileName_iff_hasExtension {path own : ByteString} (h : fileName? path = some own)
    (ext : String) : stemBytes path ++ "." ++ ext = own ↔ hasExtension path ext = true := by
  constructor
  · intro hown
    have hchars := fileNameBytes?_of_fileName? h
    unfold stemBytes at hown
    unfold hasExtension extension?
    simp only [hchars] at hown ⊢
    have hbytes : (cutExtension own.toList).1 ++ dot :: (ByteString.ofText ext).toList = own.toList := by
      simpa using congrArg ByteString.toList hown
    cases hcut : (cutExtension own.toList).2 with
    | none =>
        -- the name would be longer than itself
        rw [cutExtension_whole hcut] at hbytes
        have hlen := congrArg List.length hbytes
        simp at hlen
    | some e =>
        have hname := cutExtension_append (show cutExtension own.toList
          = ((cutExtension own.toList).1, some e) by rw [← hcut])
        have hext : (ByteString.ofText ext).toList = e :=
          List.tail_eq_of_cons_eq (List.append_cancel_left (hbytes.trans hname))
        rw [Option.map_some, ← hext, ByteString.ofList_toList, beq_self_eq_true]
  · intro hext
    exact Option.some.inj ((fileName?_of_hasExtension hext).symm.trans h)

/-- A stem is a text if the file name is one. -/
theorem isText_stemBytes {path own : ByteString} (h : fileName? path = some own)
    (htext : own.isText = true) : (stemBytes path).isText = true := by
  have hchars := fileNameBytes?_of_fileName? h
  unfold stemBytes
  simp only [hchars]
  cases hcut : (cutExtension own.toList).2 with
  | none =>
      rw [cutExtension_whole hcut]
      exact htext
  | some e =>
      have hname := cutExtension_append (show cutExtension own.toList
        = ((cutExtension own.toList).1, some e) by rw [← hcut])
      rw [← ByteString.ofList_toList own, hname] at htext
      exact (ByteString.isText_of_append (by decide) htext).1

theorem ofText_stem {path own : ByteString} (h : fileName? path = some own)
    (htext : own.isText = true) : (stem path : ByteString) = stemBytes path :=
  ByteString.ofText_text (isText_stemBytes h htext)

/-- **The stem as read, with an extension**, is the file name exactly if the path has that extension and
    its file name can be read without loss. -/
theorem fileName_iff_readable {path own : ByteString} (h : fileName? path = some own) (ext : String) :
    ByteString.ofText (stem path ++ "." ++ ext) = own
      ↔ hasExtension path ext = true ∧ own.isText = true := by
  have hsplit : ByteString.ofText (stem path ++ "." ++ ext) = (stem path : ByteString) ++ "." ++ ext := by
    rw [ByteString.ofText_append, ByteString.ofText_append]
  constructor
  · intro hown
    have htext : own.isText = true := hown ▸ ByteString.isText_ofText _
    rw [hsplit, ofText_stem h htext, fileName_iff_hasExtension h] at hown
    exact ⟨hown, htext⟩
  · rintro ⟨hext, htext⟩
    rw [hsplit, ofText_stem h htext, fileName_iff_hasExtension h]
    exact hext

/-! ## §3. Stems that are read alike -/

/-- The stems of two paths differ but are read alike. -/
def ReadAlike (a b : ByteString) : Prop :=
  stemBytes a ≠ stemBytes b ∧ stem a = stem b

instance (a b : ByteString) : Decidable (ReadAlike a b) :=
  inferInstanceAs (Decidable (_ ∧ _))

theorem stemBytes_eq_of_stem {a b : ByteString} (h : stem a = stem b) (halike : ¬ ReadAlike a b) :
    stemBytes a = stemBytes b :=
  not_not.mp fun hne => halike ⟨hne, h⟩

/-- **Names that are texts** are not read as the names of others that are. -/
theorem not_readAlike_of_isText {a b own own' : ByteString} (ha : fileName? a = some own)
    (hb : fileName? b = some own') (htext : own.isText = true) (htext' : own'.isText = true) :
    ¬ ReadAlike a b := by
  rintro ⟨hne, hstem⟩
  refine hne ?_
  rw [← ofText_stem ha htext, ← ofText_stem hb htext', hstem]

end TestScaffold.Path
