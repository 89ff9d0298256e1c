/-
  TestScaffold.Proofs.Path.NormalForm — the lexical normal form of a path.

  Cleaning runs over the components with a stack of those kept so far.  What the stack can be is
  said once, by `Stack`, and everything else follows from it:

    * `Stack.cleanStep` — one component keeps the shape of the stack;
    * `Stack.again` — a stack that is cleaned again stays as it is;
    * `plain_clean` — the normal form is read back as the components that were kept;
    * `plain_join` — joining appends components;
    * `clean_eq_iff` — paths that never go up are told apart by their normal forms;
    * `clean_normal_form` — so the normal form is one, and can be taken before joining.
-/
import TestScaffold.Proofs.Path.Names

namespace TestScaffold

open Text

/-- The component that a step is spelled as. -/
def Step.component : Step → Path.Component
  | .here => .current
  | .up => .parent
  | .down name => .name name.toList

namespace Path

/-! ## §1. The stack of cleaning -/

/-- A component that is a step of its own: `..`, or a name that a path can spell. -/
inductive Component.IsStep : Component → Prop where
  /-- To the directory above. -/
  | parent : IsStep .parent
  /-- To a name. -/
  | name {text : List UInt8} (h : isOrdinary (ByteString.ofList text) = true) : IsStep (.name text)

/-- What cleaning keeps, last first.  An absolute path has the root at the bottom and only names
    above it; a relative one has steps up at the bottom, if any, and names above them. -/
inductive Stack : (rooted : Bool) → List Component → Prop where
  /-- Nothing is kept of a relative path. -/
  | empty : Stack false []
  /-- Nothing but the root is kept of an absolute path. -/
  | root : Stack true [.root]
  /-- One more step up. -/
  | up {kept : List Component} (h : Stack false kept) (hups : ∀ c ∈ kept, c = .parent) :
      Stack false (.parent :: kept)
  /-- One more name. -/
  | down {rooted : Bool} {kept : List Component} {text : List UInt8} (h : Stack rooted kept)
      (hname : isOrdinary (ByteString.ofList text) = true) : Stack rooted (.name text :: kept)

namespace Stack

variable {rooted : Bool} {kept : List Component}

/-- **One step of cleaning** keeps the shape of the stack. -/
theorem cleanStep {c : Component} (h : Stack rooted kept) (hc : c.IsStep) :
    Stack rooted (cleanStep kept c) := by
  cases hc with
  | name hname => exact .down h hname
  | parent =>
      cases h with
      | empty => exact .up .empty (by simp)
      | root => exact .root
      | up h hups => exact .up (.up h hups) (by simpa using hups)
      | down h hname => exact h

/-- So do all steps. -/
theorem foldl {cs : List Component} (h : Stack rooted kept) (hcs : ∀ c ∈ cs, c.IsStep) :
    Stack rooted (cs.foldl Path.cleanStep kept) := by
  induction cs generalizing kept with
  | nil => exact h
  | cons c cs ih =>
      exact ih (h.cleanStep (hcs c List.mem_cons_self))
        fun d hd => hcs d (List.mem_cons_of_mem c hd)

/-- **A stack that is cleaned again stays as it is.** -/
theorem again (h : Stack rooted kept) : kept.reverse.foldl Path.cleanStep [] = kept := by
  induction h with
  | empty => rfl
  | root => rfl
  | up h hups ih =>
      rename_i below
      rw [List.reverse_cons, List.foldl_append, ih]
      -- below a step up there is nothing that it could fold
      cases below with
      | nil => rfl
      | cons c below =>
          rw [hups c List.mem_cons_self]
          rfl
  | down h hname ih =>
      rw [List.reverse_cons, List.foldl_append, ih]
      rfl

theorem reverse_cons_steps {start cs : List Component} {c : Component} (hc : c.IsStep)
    (hkept : kept.reverse = start ++ cs) (hcs : ∀ d ∈ cs, d.IsStep) :
    (c :: kept).reverse = start ++ (cs ++ [c]) ∧ ∀ d ∈ cs ++ [c], d.IsStep := by
  refine ⟨by rw [List.reverse_cons, hkept, List.append_assoc], ?_⟩
  intro d hd
  rcases List.mem_append.mp hd with hd | hd
  · exact hcs d hd
  · exact List.mem_singleton.mp hd ▸ hc

/-- Behind the root everything is a step. -/
theorem steps (h : Stack rooted kept) :
    ∃ cs, kept.reverse = (if rooted then [.root] else []) ++ cs ∧ ∀ c ∈ cs, c.IsStep := by
  induction h with
  | empty => exact ⟨[], rfl, by simp⟩
  | root => exact ⟨[], rfl, by simp⟩
  | up h hups ih =>
      obtain ⟨cs, hkept, hcs⟩ := ih
      exact ⟨_, reverse_cons_steps .parent hkept hcs⟩
  | down h hname ih =>
      obtain ⟨cs, hkept, hcs⟩ := ih
      exact ⟨_, reverse_cons_steps (.name hname) hkept hcs⟩

/-- A step up is kept of a relative path only, and only above steps up. -/
theorem ups (h : Stack rooted kept) {above below : List Component}
    (hkept : kept = above ++ .parent :: below) : rooted = false ∧ ∀ c ∈ below, c = .parent := by
  induction h generalizing above with
  | empty => simp at hkept
  | root => cases above <;> simp at hkept
  | up h hups ih =>
      cases above with
      | nil =>
          obtain ⟨-, rfl⟩ := List.cons.inj hkept
          exact ⟨rfl, hups⟩
      | cons c above => exact ih (List.cons.inj hkept).2
  | down h hname ih =>
      cases above with
      | nil => cases (List.cons.inj hkept).1
      | cons c above => exact ih (List.cons.inj hkept).2

end Stack

/-! ## §2. Components that say something -/

/-- The components of a path without a leading `.`, which cleaning drops. -/
def plain (path : ByteString) : List Component :=
  (components path).filter (· != .current)

/-- The steps of a path that lead elsewhere. -/
def moves (path : ByteString) : List Step :=
  (Route.spelled path.toList).filter (· != .here)

/-- The root for an absolute path. -/
def origin (path : ByteString) : List Component :=
  if isAbsolute path then [.root] else []

/-- Cleaning does not see a leading `.`. -/
theorem foldl_plain (cs kept : List Component) :
    (cs.filter (· != .current)).foldl cleanStep kept = cs.foldl cleanStep kept := by
  induction cs generalizing kept with
  | nil => rfl
  | cons c cs ih =>
      cases c with
      | current => exact ih kept
      | _ => exact ih _

theorem component_stepOf {s : List UInt8} (hs : counts s = true) :
    (Route.stepOf s).component = .ofSegment s := by
  have hdot : s ≠ [dot] := by
    rintro rfl
    exact absurd hs (by decide)
  unfold Route.stepOf Component.ofSegment
  rw [if_neg (by simpa using hdot)]
  split
  · rfl
  · show Component.name (ByteString.ofList s).toList = _
    rw [ByteString.toList_ofList]

/-- **What a path says** is the root, if it is absolute, and its moves. -/
theorem plain_eq (path : ByteString) : plain path = origin path ++ (moves path).map Step.component := by
  have hbody : ((splitSep slash (parts path.toList).body).filter counts).map Component.ofSegment
      = (moves path).map Step.component := by
    rw [moves, filter_spelled, List.map_map]
    refine List.map_congr_left fun s hs => ?_
    exact (component_stepOf (List.mem_filter.mp hs).2).symm
  have hbodyPlain : ((moves path).map Step.component).filter (· != .current)
      = (moves path).map Step.component := by
    refine List.filter_eq_self.mpr ?_
    intro c hc
    obtain ⟨step, hstep, rfl⟩ := List.mem_map.mp hc
    have hmove := (List.mem_filter.mp hstep).2
    cases step with
    | here => cases hmove
    | up => rfl
    | down name => rfl
  have hhead : (headComponents (parts path.toList).head).filter (· != .current) = origin path := by
    unfold origin isAbsolute
    rcases parts_cases path.toList with ⟨body, hcs, hp⟩ | ⟨body, hcs, -, hp⟩ | ⟨hroot, hp⟩
    · rw [hp, hcs]
      rfl
    · rw [hp, hcs]
      rfl
    · rw [hp, if_neg (by simpa using hroot)]
      rfl
  unfold plain components componentsOf
  dsimp only
  rw [List.filter_append, hhead, hbody, hbodyPlain]

theorem isStep_of_mem_moves {path : ByteString} {step : Step} (h : step ∈ moves path) :
    step.component.IsStep := by
  obtain ⟨hspelled, hmove⟩ := List.mem_filter.mp h
  cases step with
  | here => cases hmove
  | up => exact .parent
  | down name =>
      refine .name ?_
      rw [ByteString.ofList_toList]
      exact Route.isOrdinary_of_mem_spelled hspelled

/-- **Joining appends moves**, and starts where the left path starts. -/
theorem plain_join (p : ByteString) {q : ByteString} (hq : isAbsolute q = false) :
    plain (join p q) = plain p ++ plain q := by
  have hrel : q.toList.head? ≠ some slash := by simpa [isAbsolute] using hq
  have horigin : origin (join p q) = origin p := by
    unfold origin isAbsolute
    rw [toList_join, head?_join hrel]
  have hmoves : moves (join p q) = moves p ++ moves q := by
    unfold moves
    rw [toList_join, spelled_join hrel, List.filter_append]
  have hnone : origin q = [] := by
    unfold origin
    rw [hq]
    rfl
  rw [plain_eq, plain_eq, plain_eq, horigin, hmoves, hnone, List.map_append, List.append_assoc,
    List.nil_append]

/-! ## §3. The text of the normal form -/

/-- What cleaning keeps of a path, last first. -/
def kept (path : ByteString) : List Component :=
  (components path).foldl cleanStep []

theorem kept_eq (path : ByteString) :
    kept path = ((moves path).map Step.component).foldl cleanStep (origin path) := by
  unfold kept
  rw [← foldl_plain]
  show (plain path).foldl cleanStep [] = _
  rw [plain_eq, List.foldl_append]
  congr 1
  unfold origin
  split <;> rfl

theorem stack_origin (path : ByteString) : Stack (isAbsolute path) (origin path) := by
  unfold origin
  cases isAbsolute path with
  | true => exact .root
  | false => exact .empty

theorem isStep_of_mem_components {path : ByteString} {c : Component}
    (h : c ∈ (moves path).map Step.component) : c.IsStep := by
  obtain ⟨step, hstep, rfl⟩ := List.mem_map.mp h
  exact isStep_of_mem_moves hstep

theorem stack_kept (path : ByteString) : Stack (isAbsolute path) (kept path) := by
  rw [kept_eq]
  exact (stack_origin path).foldl fun c hc => isStep_of_mem_components hc

/-- The text of a step is one segment, and is read as that step. -/
theorem Component.IsStep.bytes {c : Component} (h : c.IsStep) :
    c.bytes ≠ [] ∧ slash ∉ c.bytes ∧ Route.stepOf c.bytes ≠ .here
      ∧ (Route.stepOf c.bytes).component = c := by
  cases h with
  | parent => decide
  | name hname =>
      rename_i text
      obtain ⟨hne, hslash, -, -⟩ := isOrdinary_iff.mp hname
      have hstep := Route.stepOf_ordinary hname
      rw [ByteString.toList_ofList] at hne hslash hstep
      refine ⟨hne, hslash, ?_, ?_⟩
      · show Route.stepOf text ≠ .here
        rw [hstep]
        intro heq
        cases heq
      · show (Route.stepOf text).component = _
        rw [hstep]
        show Component.name (ByteString.ofList text).toList = _
        rw [ByteString.toList_ofList]

section Written

variable {cs : List Component} (hcs : ∀ c ∈ cs, c.IsStep)
include hcs

/-- Steps that are written down are read back. -/
theorem spelled_written :
    Route.spelled (joinSegments (cs.map Component.bytes))
      = cs.map fun c => Route.stepOf c.bytes := by
  have hslash : ∀ s ∈ cs.map Component.bytes, slash ∉ s := by
    intro s hs
    obtain ⟨c, hc, rfl⟩ := List.mem_map.mp hs
    exact (hcs c hc).bytes.2.1
  have hne : (cs.map Component.bytes).filter (fun s => !s.isEmpty) = cs.map Component.bytes := by
    refine List.filter_eq_self.mpr ?_
    intro s hs
    obtain ⟨c, hc, rfl⟩ := List.mem_map.mp hs
    simpa using (hcs c hc).bytes.1
  rw [Route.spelled, Route.segments_intercalate hslash, hne, List.map_map]
  rfl

theorem written_ne_nil (hne : cs ≠ []) : joinSegments (cs.map Component.bytes) ≠ [] := by
  intro hnil
  have hspelled := spelled_written hcs
  rw [hnil, Route.spelled_nil] at hspelled
  exact hne (List.map_eq_nil_iff.mp hspelled.symm)

/-- None of them stays, so all of them are moves. -/
theorem moves_written :
    (cs.map fun c => Route.stepOf c.bytes).filter (· != .here)
      = cs.map fun c => Route.stepOf c.bytes := by
  refine List.filter_eq_self.mpr ?_
  intro step hstep
  obtain ⟨c, hc, rfl⟩ := List.mem_map.mp hstep
  simpa using (hcs c hc).bytes.2.2.1

/-- They are the moves of the components that were written. -/
theorem filter_written :
    ((cs.map fun c => Route.stepOf c.bytes).filter (· != .here)).map Step.component = cs := by
  rw [moves_written hcs, List.map_map]
  refine (List.map_congr_left fun c hc => ?_).trans (List.map_id cs)
  exact (hcs c hc).bytes.2.2.2

theorem head?_written : (joinSegments (cs.map Component.bytes)).head? ≠ some slash := by
  cases cs with
  | nil => simp [joinSegments]
  | cons c cs =>
      obtain ⟨hne, hslash, -, -⟩ := (hcs c List.mem_cons_self).bytes
      obtain ⟨a, rest, ha⟩ := List.exists_cons_of_ne_nil hne
      obtain ⟨more, hmore⟩ := joinSegments_starts [c.bytes] (cs.map Component.bytes)
      have hfirst : joinSegments [c.bytes] = a :: rest := by
        rw [joinSegments, List.intercalate_singleton, ha]
      rw [List.map_cons, ← List.singleton_append, ← hmore, hfirst]
      intro heq
      refine hslash ?_
      rw [ha, ← Option.some.inj heq]
      exact List.mem_cons_self

theorem getLast?_written (hne : cs ≠ []) :
    (joinSegments (cs.map Component.bytes)).getLast? ≠ some slash := by
  rcases List.eq_nil_or_concat cs with hnil | ⟨init, c, hconcat⟩
  · exact absurd hnil hne
  · rw [List.concat_eq_append] at hconcat
    subst hconcat
    obtain ⟨htext, hslash, -, -⟩ := (hcs c (by simp)).bytes
    have hlast : (joinSegments ((init ++ [c]).map Component.bytes)).getLast? = c.bytes.getLast? := by
      rw [List.map_append]
      by_cases hinit : init = []
      · rw [hinit]
        simp [joinSegments, List.intercalate_singleton]
      · rw [joinSegments_append (by simpa using hinit) (by simp), List.getLast?_append,
          List.getLast?_cons]
        simp [joinSegments, List.intercalate_singleton, List.getLast?_eq_some_getLast htext]
    rw [hlast]
    intro heq
    exact hslash (List.mem_of_getLast? heq)

/-- A relative path that is not folded away is written as its steps. -/
theorem writeComponents_relative (hne : cs ≠ []) :
    writeComponents cs = joinSegments (cs.map Component.bytes) := by
  cases cs with
  | nil => exact absurd rfl hne
  | cons c cs =>
      have hc := hcs c List.mem_cons_self
      cases hc <;> rfl

end Written

/-- How the normal form is written: a dot, a slash, or the kept steps behind their origin. -/
inductive CleanText (path : ByteString) : Prop where
  /-- Everything has been folded away. -/
  | dot (hrel : isAbsolute path = false) (hkept : (kept path).reverse = [])
      (htext : clean path = ".")
  /-- There is something to write. -/
  | written (cs : List Component) (hcs : ∀ c ∈ cs, c.IsStep)
      (hkept : (kept path).reverse = origin path ++ cs) (hne : isAbsolute path = true ∨ cs ≠ [])
      (htext : (clean path).toList
        = (if isAbsolute path then [slash] else []) ++ joinSegments (cs.map Component.bytes))

theorem cleanText (path : ByteString) : CleanText path := by
  obtain ⟨cs, hkept, hcs⟩ := (stack_kept path).steps
  have hclean : clean path = ByteString.ofList (writeComponents (kept path).reverse) := rfl
  by_cases habs : isAbsolute path = true
  · refine .written cs hcs hkept (Or.inl habs) ?_
    rw [hclean, ByteString.toList_ofList, hkept, habs]
    rfl
  · rw [Bool.not_eq_true] at habs
    have hnone : (kept path).reverse = cs := by
      rw [hkept, habs]
      rfl
    by_cases hne : cs = []
    · subst hne
      refine .dot habs hnone ?_
      rw [hclean, hnone]
      rfl
    · refine .written cs hcs hkept (Or.inr hne) ?_
      rw [hclean, ByteString.toList_ofList, hnone, habs, writeComponents_relative hcs hne]
      rfl

/-- **The normal form is absolute if the path is.** -/
theorem isAbsolute_clean (path : ByteString) : isAbsolute (clean path) = isAbsolute path := by
  cases cleanText path with
  | dot hrel hkept htext =>
      rw [htext, hrel]
      decide
  | written cs hcs hkept hne htext =>
      have hhead := head?_written hcs
      unfold isAbsolute at htext ⊢
      rw [htext]
      by_cases habs : (path.toList.head? == some slash) = true
      · rw [habs]
        rfl
      · rw [Bool.not_eq_true] at habs
        rw [habs]
        simpa using hhead

/-- The normal form is not empty. -/
theorem clean_ne_empty (path : ByteString) : clean path ≠ "" := by
  intro hempty
  cases cleanText path with
  | dot hrel hkept htext =>
      rw [htext] at hempty
      exact absurd hempty (by decide)
  | written cs hcs hkept hne htext =>
      rw [hempty] at htext
      have hnil := List.append_eq_nil_iff.mp htext.symm
      rcases hne with habs | hne
      · rw [habs] at hnil
        cases hnil.1
      · exact written_ne_nil hcs hne hnil.2

theorem spelled_clean_of_written {path : ByteString} {cs : List Component} (hcs : ∀ c ∈ cs, c.IsStep)
    (htext : (clean path).toList
      = (if isAbsolute path then [slash] else []) ++ joinSegments (cs.map Component.bytes)) :
    Route.spelled (clean path).toList = cs.map fun c => Route.stepOf c.bytes := by
  rw [htext, ← spelled_written hcs]
  split
  · show (Route.segments (slash :: _)).map _ = _
    rw [Route.segments_cons_slash]
    rfl
  · rfl

/-- **The normal form is read back** as the components that were kept. -/
theorem plain_clean (path : ByteString) : plain (clean path) = (kept path).reverse := by
  have horigin : origin (clean path) = origin path := by
    unfold origin
    rw [isAbsolute_clean]
  cases cleanText path with
  | dot hrel hkept htext =>
      rw [hkept, htext]
      decide
  | written cs hcs hkept hne htext =>
      rw [plain_eq, horigin, hkept, moves, spelled_clean_of_written hcs htext, filter_written hcs]

/-- Cleaning a normal form keeps what was kept before. -/
theorem kept_clean (path : ByteString) : kept (clean path) = kept path := by
  unfold kept
  rw [← foldl_plain]
  show (plain (clean path)).foldl cleanStep [] = _
  rw [plain_clean]
  exact (stack_kept path).again

theorem here_of_current {path : ByteString} (h : .current ∈ components path) :
    .here ∈ Route.spelled path.toList := by
  unfold components componentsOf at h
  rcases List.mem_append.mp h with h | h
  · -- a leading dot is a segment of its own
    have hpre := spelled_head (List.prefix_refl (parts path.toList).body)
    rw [parts_append] at hpre
    rw [hpre]
    rcases parts_cases path.toList with ⟨body, -, hp⟩ | ⟨body, -, -, hp⟩ | ⟨-, hp⟩
    · rw [hp] at h
      simp [headComponents] at h
    · rw [hp]
      exact List.mem_append_left _ List.mem_cons_self
    · rw [hp] at h
      simp [headComponents] at h
  · obtain ⟨s, -, hs⟩ := List.mem_map.mp h
    unfold Component.ofSegment at hs
    split at hs <;> cases hs

/-- The normal form is a dot or has no dot. -/
theorem clean_dots (path : ByteString) : clean path = "." ∨ .current ∉ components (clean path) := by
  cases cleanText path with
  | dot hrel hkept htext => exact Or.inl htext
  | written cs hcs hkept hne htext =>
      refine Or.inr fun hcurrent => ?_
      have hhere := here_of_current hcurrent
      rw [spelled_clean_of_written hcs htext] at hhere
      obtain ⟨c, hc, hstep⟩ := List.mem_map.mp hhere
      exact (hcs c hc).bytes.2.2.1 hstep

/-! ## §4. The normal form -/

/-- A path in normal form: it is `.` or has no `.`, and `..` stands only at its beginning, before
    everything else, where it is relative. -/
structure NormalForm (path : ByteString) : Prop where
  /-- There is no `.` but a path that is nothing else. -/
  dots : path = "." ∨ .current ∉ components path
  /-- Before a `..` there are only others, and no root. -/
  ups : ∀ before after, components path = before ++ .parent :: after →
    isAbsolute path = false ∧ ∀ c ∈ before, c = .parent

theorem normalForm_clean (path : ByteString) : NormalForm (clean path) where
  dots := clean_dots path
  ups before after h := by
    rw [isAbsolute_clean]
    rcases clean_dots path with hdot | hnone
    · rw [hdot] at h
      have hsplit : [Component.current] = before ++ .parent :: after := h
      cases before <;> simp at hsplit
    · have hplain : plain (clean path) = components (clean path) := by
        refine List.filter_eq_self.mpr ?_
        intro c hc
        simpa using fun heq : c = .current => hnone (heq ▸ hc)
      rw [← hplain, plain_clean] at h
      have hkept : kept path = after.reverse ++ .parent :: before.reverse := by
        rw [← List.reverse_reverse (kept path), h]
        simp
      obtain ⟨hrel, hups⟩ := (stack_kept path).ups hkept
      exact ⟨hrel, fun c hc => hups c (List.mem_reverse.mpr hc)⟩

theorem moves_downward {steps : List Step} (h : .up ∉ steps) :
    (steps.filter (· != .here)).map Step.component
      = (steps.filterMap Step.name?).map fun n => .name n.toList := by
  induction steps with
  | nil => rfl
  | cons step rest ih =>
      have hrest := ih fun hmem => h (List.mem_cons_of_mem step hmem)
      cases step with
      | here => exact hrest
      | up => exact absurd List.mem_cons_self h
      | down name => exact congrArg (Component.name name.toList :: ·) hrest

/-- A path that never goes up keeps its names. -/
theorem kept_downward {path : ByteString} (h : .up ∉ Route.spelled path.toList) :
    kept path = ((names path).map fun n => Component.name n.toList).reverse ++ origin path := by
  rw [kept_eq, moves, moves_downward h, ← names, foldl_cleanStep_names]

/-- **Normal forms tell names**: paths that never go up and start together have one normal form if
    they have the same names. -/
theorem clean_eq_iff {a b : ByteString} (ha : .up ∉ Route.spelled a.toList)
    (hb : .up ∉ Route.spelled b.toList) (habs : isAbsolute a = isAbsolute b) :
    clean a = clean b ↔ names a = names b := by
  have horigin : origin a = origin b := by
    unfold origin
    rw [habs]
  constructor
  · intro h
    have hkept : kept a = kept b := by rw [← kept_clean a, h, kept_clean b]
    rw [kept_downward ha, kept_downward hb, horigin] at hkept
    have hnames := List.reverse_inj.mp (List.append_cancel_right hkept)
    exact (List.map_inj_right fun x y hxy => ByteString.toList_inj.mp (Component.name.inj hxy)).mp hnames
  · intro h
    have hkept : kept a = kept b := by rw [kept_downward ha, kept_downward hb, horigin, h]
    show ByteString.ofList (writeComponents (kept a).reverse)
      = ByteString.ofList (writeComponents (kept b).reverse)
    rw [hkept]

/-- What is kept of a joined path depends on what is kept of its left side. -/
theorem kept_join (p : ByteString) {q : ByteString} (hq : isAbsolute q = false) :
    kept (join p q) = (plain q).foldl cleanStep (kept p) := by
  unfold kept
  rw [← foldl_plain, ← foldl_plain (components p)]
  show (plain (join p q)).foldl cleanStep [] = _
  rw [plain_join p hq, List.foldl_append]
  rfl

/-- **Cleaning gives a normal form that can be taken before joining.**  The cleaned path is in normal
    form and absolute if the path is; cleaning it again changes nothing; and what is joined to a path
    before cleaning can as well be joined to the cleaned path. -/
theorem clean_normal_form (p : ByteString) :
    NormalForm (clean p) ∧ isAbsolute (clean p) = isAbsolute p ∧ clean (clean p) = clean p
      ∧ ∀ q, clean (join p q) = clean (join (clean p) q) := by
  refine ⟨normalForm_clean p, isAbsolute_clean p, ?_, ?_⟩
  · show ByteString.ofList (writeComponents (kept (clean p)).reverse) = _
    rw [kept_clean]
    rfl
  · intro q
    cases hq : isAbsolute q with
    | true =>
        -- an absolute path replaces what it is joined to
        have hright : ∀ left, join left q = q := by
          intro left
          have hroot : (q.toList.head? == some slash) = true := hq
          unfold join joinBytes
          rw [if_pos hroot, ByteString.ofList_toList]
        rw [hright, hright]
    | false =>
        show ByteString.ofList (writeComponents (kept (join p q)).reverse)
          = ByteString.ofList (writeComponents (kept (join (clean p) q)).reverse)
        rw [kept_join p hq, kept_join (clean p) hq, kept_clean]

/-- Folding, climbing above the start and the root, and a path that is folded away. -/
example : clean "./a//b/../../../c/." = "../c" ∧ clean "/../a" = "/a" ∧ clean "a/.." = "." := by
  decide

end Path

end TestScaffold
