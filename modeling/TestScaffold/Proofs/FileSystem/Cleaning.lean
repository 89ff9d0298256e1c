/-
  TestScaffold.Proofs.FileSystem.Cleaning — a cleaned path leads where the path leads.

  Cleaning folds a name and the step up after it, without looking at what stands under the name.
  Where there are no links this is what going there would do.  The invariant ties the stack of
  cleaning to the way that is left:

    * `follow_fold`, `stops_fold` — a name and a step up can be left out, and no stop gets longer;
    * `leads_cleaned` — one component after the other, the way over the stack and the rest of the
      path leads to the same target;
    * `steps_clean` — the normal form asks for the steps on the stack;
    * `canonical?_clean` — so a path that resolves still does when it has been cleaned.
-/
import TestScaffold.Proofs.Path.NormalForm
import TestScaffold.Proofs.FileSystem.Tracing

namespace TestScaffold

/-! ## §1. The steps of components -/

namespace Path

/-- The step that a component asks for; the root and a leading `.` ask for none. -/
def Component.step? : Component → Option Step
  | .root | .current => none
  | .parent => some .up
  | .name text => some (.down (ByteString.ofList text))

/-- The way over a stack, which lists its components last first. -/
def stackSteps (kept : List Component) : List Step :=
  kept.reverse.filterMap Component.step?

theorem stackSteps_cons (c : Component) (kept : List Component) :
    stackSteps (c :: kept) = stackSteps kept ++ c.step?.toList := by
  unfold stackSteps
  rw [List.reverse_cons, List.filterMap_append]
  cases hstep : c.step? <;> simp [hstep]

theorem filterMap_components {steps : List Step} (h : ∀ s ∈ steps, s ≠ .here) :
    (steps.map Step.component).filterMap Component.step? = steps := by
  induction steps with
  | nil => rfl
  | cons step steps ih =>
      have hrest := ih fun s hs => h s (List.mem_cons_of_mem step hs)
      rw [List.map_cons, List.filterMap_cons, hrest]
      cases step with
      | here => exact absurd rfl (h .here List.mem_cons_self)
      | up => rfl
      | down name =>
          show Step.down (ByteString.ofList name.toList) :: steps = _
          rw [ByteString.ofList_toList]

/-- The moves of a path are the steps of their components. -/
theorem filterMap_moves (path : ByteString) :
    ((moves path).map Step.component).filterMap Component.step? = moves path :=
  filterMap_components fun s hs => by simpa using (List.mem_filter.mp hs).2

/-- What a path starts with is no step. -/
theorem filterMap_origin (path : ByteString) : (origin path).filterMap Component.step? = [] := by
  unfold origin
  split <;> rfl

/-- Apart from steps that stay, a path asks for its moves. -/
theorem filter_steps (path : ByteString) :
    (Route.ofPath path).steps.filter (· != .here) = moves path := by
  obtain ⟨j, hj, -⟩ := Route.ofPath_steps path
  rw [hj, List.filter_append, List.filter_replicate_of_neg (by simp), List.append_nil, moves]

/-- **The normal form asks for the steps on the stack**; if there are none, it stays. -/
theorem steps_clean (path : ByteString) :
    (Route.ofPath (clean path)).steps = stackSteps (kept path)
      ∨ ((Route.ofPath (clean path)).steps = [.here] ∧ stackSteps (kept path) = []) := by
  have hroute : stackSteps (kept path) = moves (clean path) := by
    rw [stackSteps, ← plain_clean, plain_eq, List.filterMap_append, filterMap_origin,
      filterMap_moves, List.nil_append]
  rw [hroute]
  cases cleanText path with
  | dot hrel hkept htext =>
      rw [htext]
      exact Or.inr ⟨by decide, by decide⟩
  | written cs hcs hkept hne htext =>
      by_cases hcs' : cs = []
      · -- nothing but the root
        have habs : isAbsolute path = true := hne.resolve_right (fun h => h hcs')
        have hroot : clean path = "/" := by
          rw [← ByteString.toList_inj, htext, habs, hcs']
          rfl
        rw [hroot]
        exact Or.inr ⟨by decide, by decide⟩
      · obtain ⟨j, hj, hzero⟩ := Route.ofPath_steps (clean path)
        have hlast : (clean path).toList.getLast? ≠ some slash := by
          have hend := getLast?_written hcs hcs'
          rw [List.getLast?_eq_some_getLast (written_ne_nil hcs hcs')] at hend
          rw [htext, List.getLast?_append, List.getLast?_eq_some_getLast (written_ne_nil hcs hcs')]
          exact hend
        refine Or.inl ?_
        rw [hj, hzero hlast, List.replicate_zero, List.append_nil, moves,
          spelled_clean_of_written hcs htext, moves_written hcs]

end Path

namespace FileSystem

open TestScaffold.Path (Component Stack stackSteps)

/-! ## §2. Ways that are folded -/

section

variable {fs : FileSystem} (hfree : fs.LinkFree)
include hfree

/-- Steps that stay can be left out of a way that leads somewhere. -/
theorem follow_moves {loc : Location} {steps : List Step} {t : Target}
    (h : fs.follow 0 loc steps = .ok t) : fs.follow 0 loc (steps.filter (· != .here)) = .ok t := by
  induction steps generalizing loc with
  | nil => exact h
  | cons step rest ih =>
      cases step with
      | here => exact ih h
      | up => exact @ih loc.dropLast h
      | down name =>
          rw [List.filter_cons_of_pos rfl]
          obtain ⟨hlen, ⟨-, rfl, -⟩ | ⟨es, hf, hrest⟩ | ⟨e, -, -, rfl, -⟩ | ⟨target, hf, -⟩⟩ :=
            walkSteps_down_cases h
          · exact h
          · rw [← ih hrest]
            exact walkSteps_down_directory hlen hf
          · exact h
          · exact (hfree.find?_ne hf).elim

/-- **A name and the step up after it can be left out**: more follows the name, so it is that of a
    directory, and the step up leads out of it again. -/
theorem follow_fold {loc : Location} {xs ys : List Step} {name : ByteString} {t : Target}
    (h : fs.follow 0 loc (xs ++ .down name :: .up :: ys) = .ok t) :
    fs.follow 0 loc (xs ++ ys) = .ok t := by
  induction xs generalizing loc with
  | nil =>
      obtain ⟨-, ⟨-, hnil, -⟩ | ⟨es, -, hup⟩ | ⟨e, -, -, hnil, -⟩ | ⟨target, hf, -⟩⟩ :=
        walkSteps_down_cases h
      · cases hnil
      · have hback : fs.follow 0 (loc ++ [name]).dropLast ys = .ok t := hup
        rwa [List.dropLast_concat] at hback
      · cases hnil
      · exact (hfree.find?_ne hf).elim
  | cons step xs ih =>
      cases step with
      | here => exact ih h
      | up => exact @ih loc.dropLast h
      | down m =>
          obtain ⟨hlen, ⟨-, hnil, -⟩ | ⟨es, hf, hrest⟩ | ⟨e, -, -, hnil, -⟩ | ⟨target, hf, -⟩⟩ :=
            walkSteps_down_cases h
          · simp at hnil
          · rw [← ih hrest]
            exact walkSteps_down_directory hlen hf
          · simp at hnil
          · exact (hfree.find?_ne hf).elim

/-! ## §3. Stops of ways that are folded -/

theorem stops_moves {limit : Nat} {loc : Location} {steps : List Step}
    (h : ∀ stop ∈ fs.stops 0 loc steps, stop.size ≤ limit) :
    ∀ stop ∈ fs.stops 0 loc (steps.filter (· != .here)), stop.size ≤ limit := by
  induction steps generalizing loc with
  | nil => exact h
  | cons step rest ih =>
      cases step with
      | here => exact ih h
      | up => exact @ih loc.dropLast h
      | down name =>
          rw [stops_down hfree, List.forall_mem_cons] at h
          rw [List.filter_cons_of_pos rfl, stops_down hfree, List.forall_mem_cons]
          exact ⟨Nat.le_trans (size_stopAt_mono asksDirectory_moves) h.1, ih h.2⟩

theorem stops_fold {limit : Nat} {loc : Location} {xs ys : List Step} {name : ByteString}
    (h : ∀ stop ∈ fs.stops 0 loc (xs ++ .down name :: .up :: ys), stop.size ≤ limit) :
    ∀ stop ∈ fs.stops 0 loc (xs ++ ys), stop.size ≤ limit := by
  induction xs generalizing loc with
  | nil =>
      rw [List.nil_append, stops_down hfree, List.forall_mem_cons] at h
      have hback : ∀ stop ∈ fs.stops 0 (loc ++ [name]).dropLast ys, stop.size ≤ limit := h.2
      rwa [List.dropLast_concat] at hback
  | cons step xs ih =>
      cases step with
      | here => exact ih h
      | up => exact @ih loc.dropLast h
      | down m =>
          rw [List.cons_append, stops_down hfree, List.forall_mem_cons] at h ⊢
          refine ⟨?_, ih h.2⟩
          by_cases hask : asksDirectory (xs ++ ys) = true
          · rcases asksDirectory_fold name (.up :: ys) hask with hold | ⟨i, rfl⟩
            · exact Nat.le_trans (size_stopAt_mono fun _ => hold) h.1
            · -- the slash is not more than the name that stood there
              have hskip : fs.stops 0 (loc ++ [m]) (List.replicate i .here ++ .down name :: .up :: ys)
                  = fs.stops 0 (loc ++ [m]) (.down name :: .up :: ys) :=
                stops_drop_heres (List.cons_ne_nil _ _) 0 (loc ++ [m]) [] i
              have hnext := h.2
              rw [hskip, stops_down hfree, List.forall_mem_cons] at hnext
              refine Nat.le_trans ?_ hnext.1
              have hup : asksDirectory (.up :: ys) = true := rfl
              have hbelow := size_path_append_le (loc ++ [m]) [name]
              rw [size_stopAt, size_stopAt, hask, hup]
              omega
          · exact Nat.le_trans (size_stopAt_mono fun hnow => absurd hnow hask) h.1

/-! ## §4. Cleaned paths -/

/-- **A way leads to a target**, and none of the paths that are looked at on it is longer than
    `limit`. -/
structure Leads (fs : FileSystem) (limit : Nat) (loc : Location) (steps : List Step) (t : Target) :
    Prop where
  /-- It ends there. -/
  arrives : fs.follow 0 loc steps = .ok t
  /-- All stops are short. -/
  within : ∀ stop ∈ fs.stops 0 loc steps, stop.size ≤ limit

/-- **One step of cleaning** leads to the same target: the way over the stack and what follows. -/
theorem leads_cleanStep {rooted : Bool} {kept : List Component} (hstack : Stack rooted kept)
    {limit : Nat} {loc : Location} (hroot : rooted = true → loc = []) {c : Component}
    (hc : c.IsStep) {rest : List Step} {t : Target}
    (h : fs.Leads limit loc (stackSteps kept ++ (c.step?.toList ++ rest)) t) :
    fs.Leads limit loc (stackSteps (Path.cleanStep kept c) ++ rest) t := by
  have hkeep : fs.Leads limit loc (stackSteps (c :: kept) ++ rest) t := by
    rwa [Path.stackSteps_cons, List.append_assoc]
  cases hc with
  | name hname => exact hkeep
  | parent =>
      cases hstack with
      | empty => exact hkeep
      | root =>
          -- the root is above itself
          rw [hroot rfl] at h ⊢
          exact ⟨h.arrives, h.within⟩
      | up hbelow hups => exact hkeep
      | down hbelow hname =>
          rw [Path.stackSteps_cons, List.append_assoc] at h
          exact ⟨follow_fold hfree h.arrives, stops_fold hfree h.within⟩

/-- **All steps of cleaning** do. -/
theorem leads_cleaned {rooted : Bool} {kept : List Component} (hstack : Stack rooted kept)
    {limit : Nat} {loc : Location} (hroot : rooted = true → loc = []) {cs : List Component}
    (hcs : ∀ c ∈ cs, c.IsStep) {t : Target}
    (h : fs.Leads limit loc (stackSteps kept ++ cs.filterMap Component.step?) t) :
    fs.Leads limit loc (stackSteps (cs.foldl Path.cleanStep kept)) t := by
  induction cs generalizing kept with
  | nil => simpa using h
  | cons c cs ih =>
      have hc := hcs c List.mem_cons_self
      have hsplit : (c :: cs).filterMap Component.step?
          = c.step?.toList ++ cs.filterMap Component.step? := by
        cases hstep : c.step? <;> simp [hstep]
      rw [hsplit] at h
      exact ih (hstack.cleanStep hc) (fun d hd => hcs d (List.mem_cons_of_mem c hd))
        (leads_cleanStep hfree hstack hroot hc h)

/-- **A cleaned path leads where the path leads**, on a way that is not longer. -/
theorem leads_clean {path : ByteString} {limit : Nat} {t : Target}
    (h : fs.Leads limit (fs.start (Route.ofPath path)) (Route.ofPath path).steps t) :
    fs.Leads limit (fs.start (Route.ofPath (Path.clean path))) (Route.ofPath (Path.clean path)).steps
      t := by
  have hstart : fs.start (Route.ofPath (Path.clean path)) = fs.start (Route.ofPath path) := by
    unfold FileSystem.start
    rw [Route.ofPath_fromRoot, Route.ofPath_fromRoot]
    have habs := Path.isAbsolute_clean path
    unfold Path.isAbsolute at habs
    rw [habs]
  have hroot : Path.isAbsolute path = true → fs.start (Route.ofPath path) = [] := by
    intro habs
    unfold FileSystem.start
    rw [Route.ofPath_fromRoot]
    exact if_pos habs
  -- the way over the stack, once all components have been cleaned
  have hkept : fs.Leads limit (fs.start (Route.ofPath path)) (stackSteps (Path.kept path)) t := by
    have hmoves : fs.Leads limit (fs.start (Route.ofPath path)) (Path.moves path) t := by
      rw [← Path.filter_steps]
      exact ⟨follow_moves hfree h.arrives, stops_moves hfree h.within⟩
    have hempty : stackSteps (Path.origin path) = [] := by
      unfold Path.origin
      split <;> rfl
    rw [Path.kept_eq]
    refine leads_cleaned hfree (Path.stack_origin path) hroot
      (fun c hc => Path.isStep_of_mem_components hc) ?_
    rwa [hempty, List.nil_append, Path.filterMap_moves]
  rw [hstart]
  rcases Path.steps_clean path with hsteps | ⟨hsteps, hnone⟩
  · rwa [hsteps]
  · -- staying leads where no step leads
    rw [hnone] at hkept
    rw [hsteps]
    exact ⟨hkept.arrives, hkept.within⟩

/-- **Lexical cleaning preserves meaning**: without links, whatever the working directory, a path that
    has a canonical path has the same one when it has been cleaned. -/
theorem canonical?_clean {path c : ByteString} (h : fs.canonical? path = some c) :
    fs.canonical? (Path.clean path) = some c := by
  obtain ⟨hshort, loc, hloc, rfl⟩ := canonical?_eq_some.mp h
  obtain ⟨-, e, hf⟩ := traced?_eq_some.mp hloc
  rw [follow_linkFree hfree] at hf
  rw [isTraceable_eq_true_iff, stops_linkFree hfree] at hshort
  obtain ⟨hclean, hstops⟩ := leads_clean hfree ⟨hf, hshort⟩
  rw [← follow_linkFree hfree] at hclean
  rw [← stops_linkFree hfree] at hstops
  exact canonical?_of_traced? (traced?_eq_some.mpr ⟨Path.clean_ne_empty path, e, hclean⟩)
    (isTraceable_eq_true_iff.mpr hstops)

end

/-- A module, seen from a directory two levels below the one that holds it. -/
def garden : FileSystem :=
  { top := [("bed", .directory
      [("row", .directory [("seeds", .directory [])]), ("sow.py", .file "".toUTF8)])]
    cwd := ["bed", "row"] }

theorem garden_linkFree : garden.LinkFree :=
  linkFree_of_entries (by decide)

/-- A way up that starts below the working directory, one above the root, and one that folds away. -/
theorem canonical?_clean_garden :
    garden.canonical? "./seeds//../.././sow.py" = some "/bed/sow.py"
      ∧ Path.clean "./seeds//../.././sow.py" = "../sow.py"
      ∧ garden.canonical? (Path.clean "./seeds//../.././sow.py") = some "/bed/sow.py"
      ∧ garden.canonical? (Path.clean "../../../bed/row/../sow.py") = some "/bed/sow.py"
      ∧ garden.canonical? (Path.clean "seeds/..") = some "/bed/row" :=
  ⟨by decide, by decide, canonical?_clean garden_linkFree (by decide),
    canonical?_clean garden_linkFree (by decide), canonical?_clean garden_linkFree (by decide)⟩

end FileSystem

end TestScaffold
