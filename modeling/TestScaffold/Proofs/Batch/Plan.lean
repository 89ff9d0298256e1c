/-
  TestScaffold.Proofs.Batch.Plan — a batch as a list of files to put somewhere.

  Seen by shapes, writing one test module puts a file at a place and makes the place's
  directory; a batch does so for a list of places.  Nothing here knows about paths:

    * `carryOut_apply` — what stands at a location afterwards: the last file put there, a
      directory where one was needed, or what stood there before;
    * `carryOut_cases` — the same, seen from the location: nothing, a file or a directory was put there;
    * `carryOut_carryOut` — carrying a plan out twice is carrying it out once;
    * `carryOut_congr` — the order of a plan does not matter, if it has one file for each place.

  All hold as long as no file is put where a directory is needed.
-/
import TestScaffold.Proofs.FileSystem.Effects

namespace TestScaffold

/-- What stands at each location. -/
abbrev Shapes := Location → Option Shape

/-- What stands where, after a file was put at a place. -/
def Shapes.put (shapes : Shapes) (place : Location) (content : ByteArray) : Shapes :=
  fun loc =>
    if loc = place then some (Shape.written content (shapes place))
    else if loc = place.dropLast then some .directory
    else shapes loc

/-- Files to put, each with its place. -/
abbrev Plan := List (Location × ByteArray)

namespace Plan

/-- What stands where, after all files of a plan were put one after the other. -/
def carryOut (plan : Plan) (shapes : Shapes) : Shapes :=
  plan.foldl (fun current file => current.put file.1 file.2) shapes

theorem carryOut_append (first later : Plan) (shapes : Shapes) :
    carryOut (first ++ later) shapes = later.carryOut (first.carryOut shapes) :=
  List.foldl_append

/-- The file that a plan puts at a location last. -/
def lastAt (loc : Location) : Plan → Option ByteArray
  | [] => none
  | (place, content) :: rest =>
    match lastAt loc rest with
    | some later => some later
    | none => if loc = place then some content else none

/-- Whether a plan needs a directory at a location. -/
def needsDirectory (plan : Plan) (loc : Location) : Bool :=
  plan.any fun file => loc = file.1.dropLast

/-- No file is put where a directory is needed. -/
def Apart (plan : Plan) : Prop :=
  ∀ file ∈ plan, plan.needsDirectory file.1 = false

theorem mem_of_lastAt {plan : Plan} {loc : Location} {content : ByteArray}
    (h : plan.lastAt loc = some content) : (loc, content) ∈ plan := by
  induction plan with
  | nil => cases h
  | cons file rest ih =>
      obtain ⟨place, first⟩ := file
      rw [lastAt] at h
      split at h
      · rename_i later hlater
        cases h
        exact List.mem_cons_of_mem _ (ih hlater)
      · split at h
        · rename_i heq
          cases h
          rw [heq]
          exact List.mem_cons_self
        · cases h

theorem lastAt_isSome_of_mem {plan : Plan} {loc : Location} {content : ByteArray}
    (h : (loc, content) ∈ plan) : (plan.lastAt loc).isSome = true := by
  induction plan with
  | nil => exact absurd h List.not_mem_nil
  | cons file rest ih =>
      obtain ⟨place, first⟩ := file
      rw [lastAt]
      split
      · rfl
      · rename_i hnone
        rcases List.mem_cons.mp h with heq | hmem
        · cases heq
          rw [if_pos rfl]
          rfl
        · have hsome := ih hmem
          rw [hnone] at hsome
          cases hsome

/-- A later part of a plan comes after an earlier one. -/
theorem lastAt_append (first later : Plan) (loc : Location) :
    (first ++ later).lastAt loc = (later.lastAt loc).or (first.lastAt loc) := by
  induction first with
  | nil => exact Option.or_none.symm
  | cons file rest ih =>
      obtain ⟨place, content⟩ := file
      rw [List.cons_append, lastAt, lastAt, ih]
      cases later.lastAt loc with
      | some last => rfl
      | none => rfl

theorem Apart.tail {file : Location × ByteArray} {rest : Plan} (h : Apart (file :: rest)) :
    Apart rest := by
  intro other hother
  have hfree := h other (List.mem_cons_of_mem file hother)
  rw [needsDirectory, List.any_cons, Bool.or_eq_false_iff] at hfree
  exact hfree.2

/-- **What stands at a location after a plan was carried out**: the last file put there, a directory
    where one was needed, or what stood there before. -/
theorem carryOut_apply {plan : Plan} (h : plan.Apart) (shapes : Shapes) (loc : Location) :
    plan.carryOut shapes loc
      = match plan.lastAt loc with
        | some content => some (Shape.written content (shapes loc))
        | none => if plan.needsDirectory loc then some .directory else shapes loc := by
  induction plan generalizing shapes with
  | nil => rfl
  | cons file rest ih =>
      obtain ⟨place, content⟩ := file
      have hdirs : needsDirectory ((place, content) :: rest) loc
          = (decide (loc = place.dropLast) || needsDirectory rest loc) := List.any_cons
      have hcarry : carryOut ((place, content) :: rest) shapes
          = carryOut rest (shapes.put place content) := rfl
      -- the rest of the plan is carried out on the shapes after the first file
      rw [hcarry, ih h.tail, lastAt]
      cases hlater : lastAt loc rest with
      | some later =>
          -- a later file replaces the first one, or stands elsewhere
          have hfree := h _ (List.mem_cons_of_mem _ (mem_of_lastAt hlater))
          have hplace : loc ≠ place.dropLast := by
            rintro rfl
            rw [needsDirectory, List.any_cons] at hfree
            simp at hfree
          simp only [Shapes.put, if_neg hplace]
          split
          · rename_i heq
            rw [heq, Shape.written_written]
          · rfl
      | none =>
          by_cases hloc : loc = place
          · -- no later file needs a directory where this one was put
            have hfree := h (place, content) List.mem_cons_self
            have hrest : needsDirectory rest place = false := by
              rw [needsDirectory, List.any_cons, Bool.or_eq_false_iff] at hfree
              exact hfree.2
            simp [hrest, hloc, Shapes.put]
          · rw [hdirs]
            by_cases hdir : loc = place.dropLast
            · simp [hloc, ← hdir, Shapes.put]
            · simp [hloc, hdir, Shapes.put]

/-- A plan leaves a location as it was, puts a file there, or makes it a directory. -/
theorem carryOut_cases {plan : Plan} (h : plan.Apart) (shapes : Shapes) (loc : Location) :
    plan.carryOut shapes loc = shapes loc
      ∨ (∃ content, (loc, content) ∈ plan
        ∧ plan.carryOut shapes loc = some (Shape.written content (shapes loc)))
      ∨ ∃ file ∈ plan, loc = file.1.dropLast ∧ plan.carryOut shapes loc = some .directory := by
  rw [carryOut_apply h]
  cases hlast : plan.lastAt loc with
  | some content => exact Or.inr (Or.inl ⟨content, mem_of_lastAt hlast, rfl⟩)
  | none =>
      cases hneeds : plan.needsDirectory loc with
      | false => exact Or.inl rfl
      | true =>
          obtain ⟨file, hfile, hloc⟩ := List.any_eq_true.mp hneeds
          exact Or.inr (Or.inr ⟨file, hfile, of_decide_eq_true hloc, rfl⟩)

/-- **Carrying a plan out twice** is carrying it out once. -/
theorem carryOut_carryOut {plan : Plan} (h : plan.Apart) (shapes : Shapes) :
    plan.carryOut (plan.carryOut shapes) = plan.carryOut shapes := by
  funext loc
  rw [carryOut_apply h (plan.carryOut shapes), carryOut_apply h shapes]
  cases plan.lastAt loc with
  | some content => exact congrArg some (Shape.written_written content content (shapes loc))
  | none =>
      by_cases hdir : plan.needsDirectory loc = true
      · simp only [hdir, if_true]
      · simp only [hdir, if_false, Bool.false_eq_true]

/-- No two different files are put at one place. -/
def OneEach (plan : Plan) : Prop :=
  ∀ {loc content content'}, (loc, content) ∈ plan → (loc, content') ∈ plan → content = content'

theorem lastAt_eq_some_iff {plan : Plan} (h : plan.OneEach) {loc : Location} {content : ByteArray} :
    plan.lastAt loc = some content ↔ (loc, content) ∈ plan := by
  refine ⟨mem_of_lastAt, fun hmem => ?_⟩
  obtain ⟨last, hlast⟩ := Option.isSome_iff_exists.mp (lastAt_isSome_of_mem hmem)
  rw [hlast, h (mem_of_lastAt hlast) hmem]

/-- **The order of a plan does not matter**: two plans with the same files do the same. -/
theorem carryOut_congr {plan plan' : Plan} (hsame : ∀ file, file ∈ plan ↔ file ∈ plan')
    (hapart : plan.Apart) (hone : plan.OneEach) (shapes : Shapes) :
    plan.carryOut shapes = plan'.carryOut shapes := by
  have hdirs : plan'.needsDirectory = plan.needsDirectory := by
    funext loc
    rw [Bool.eq_iff_iff]
    simp only [needsDirectory, List.any_eq_true, hsame]
  have hapart' : plan'.Apart := by
    intro file hfile
    rw [hdirs]
    exact hapart file ((hsame file).mpr hfile)
  have hone' : plan'.OneEach :=
    fun hmem hmem' => hone ((hsame _).mpr hmem) ((hsame _).mpr hmem')
  have hlast : ∀ loc, plan'.lastAt loc = plan.lastAt loc := by
    intro loc
    refine Option.ext fun content => ?_
    rw [lastAt_eq_some_iff hone', lastAt_eq_some_iff hone, hsame]
  funext loc
  rw [carryOut_apply hapart, carryOut_apply hapart', hlast, hdirs]

end Plan

end TestScaffold
