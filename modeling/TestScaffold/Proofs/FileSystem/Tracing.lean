/-
  TestScaffold.Proofs.FileSystem.Tracing — paths that are gone through one name after the other.

  A path has a canonical spelling if it leads to an entry and none of the paths that are looked
  at on the way is too long.  Those are paths of locations, so a short path in a deep
  directory may have none, and its identity is its lexical normal form then:

    * `canonical?_eq_some`, `identity_of_canonical?`, `identity_of_canonical?_none`;
    * `stops_grows` — a way that leads to an entry stops where it did when names are added;
    * `canonical?_of_deep` — a file whose location has a path that is too long has no canonical path;
    * `stops_drop_here` — staying before a further step is no stop;
    * `stops_downward` — without links and steps up, the last stop is the longest.
-/
import Mathlib.Algebra.Ring.Nat
import TestScaffold.Proofs.FileSystem.Resolution

namespace TestScaffold.FileSystem

/-! ## §1. Canonical paths and identities -/

section Canonical

variable {fs : FileSystem} {path : ByteString}

/-- **A canonical path** is the path of the location that is traced, if all stops can be looked at. -/
theorem canonical?_eq_some {c : ByteString} :
    fs.canonical? path = some c
      ↔ fs.isTraceable path = true ∧ ∃ loc, fs.traced? path = some loc ∧ loc.path = c := by
  unfold canonical?
  split
  · rename_i h
    rw [Option.map_eq_some_iff]
    exact ⟨fun hloc => ⟨h, hloc⟩, fun hloc => hloc.2⟩
  · rename_i h
    exact iff_of_false (by simp) fun hloc => h hloc.1

theorem identity_of_canonical? {c : ByteString} (h : fs.canonical? path = some c) :
    fs.identity path = c := by
  rw [identity, h, Option.getD_some]

theorem identity_of_canonical?_none (h : fs.canonical? path = none) :
    fs.identity path = Path.clean path := by
  rw [identity, h, Option.getD_none]

theorem canonical?_of_traced? {loc : Location} (h : fs.traced? path = some loc)
    (hstops : fs.isTraceable path = true) : fs.canonical? path = some loc.path :=
  canonical?_eq_some.mpr ⟨hstops, loc, h, rfl⟩

theorem canonical?_of_not_isTraceable (h : fs.isTraceable path = false) :
    fs.canonical? path = none := by
  rw [canonical?, h, if_neg Bool.false_ne_true]

theorem canonical?_of_traced?_none (h : fs.traced? path = none) : fs.canonical? path = none := by
  rw [canonical?, h, Option.map_none, ite_self]

theorem identity_of_locate?_none {r : Route} (hr : route path = .ok r)
    (h : fs.locate? path = none) : fs.identity path = Path.clean path :=
  identity_of_canonical?_none (canonical?_of_traced?_none (by rw [traced?_eq_locate? hr, h]))

theorem isTraceable_eq_true_iff :
    fs.isTraceable path = true
      ↔ ∀ stop ∈ fs.stops maxLinks (fs.start (Route.ofPath path)) (Route.ofPath path).steps,
          stop.size ≤ maxPathBytes := by
  simp only [isTraceable, List.all_eq_true, decide_eq_true_eq]

end Canonical

/-! ## §2. Stops -/

section Stops

variable {fs fs' : FileSystem} {onLink : Location → List Step → Except IoFault Target}
  {stopsOn stopsOn' : Location → List Step → List ByteString} {loc : Location} {name : ByteString}
  {rest : List Step}

/-- The stop at a name. -/
def stopAt (loc : Location) (rest : List Step) : ByteString :=
  if asksDirectory rest then loc.path ++ "/" else loc.path

theorem stopsFrom_down_link {target : ByteString} (h : fs.find? (loc ++ [name]) = some (.link target)) :
    fs.stopsFrom stopsOn loc (.down name :: rest)
      = Location.path (loc ++ [name])
        :: stopsOn (if (Route.ofPath target).fromRoot then [] else loc)
            ((Route.ofPath target).steps ++ rest) := by
  rw [stopsFrom]
  simp only [h]

theorem stopsFrom_down (h : ∀ target, fs.find? (loc ++ [name]) ≠ some (.link target)) :
    fs.stopsFrom stopsOn loc (.down name :: rest)
      = stopAt (loc ++ [name]) rest :: fs.stopsFrom stopsOn (loc ++ [name]) rest := by
  rw [stopsFrom]
  cases hf : fs.find? (loc ++ [name]) with
  | none => rfl
  | some e =>
      cases e with
      | link target => exact absurd hf (h target)
      | _ => rfl

theorem stopsFrom_down_directory {es : Entries}
    (h : fs.find? (loc ++ [name]) = some (.directory es)) :
    fs.stopsFrom stopsOn loc (.down name :: rest)
      = stopAt (loc ++ [name]) rest :: fs.stopsFrom stopsOn (loc ++ [name]) rest :=
  stopsFrom_down fun target htarget => by
    rw [h] at htarget
    cases htarget

theorem stopsFrom_down_end {e : Entry} (h : fs.find? (loc ++ [name]) = some e)
    (he : e.isEnd = true) :
    fs.stopsFrom stopsOn loc [.down name] = [Location.path (loc ++ [name])] :=
  stopsFrom_down fun target htarget => by
    rw [h] at htarget
    cases htarget
    cases he

theorem stopsFrom_grows (hg : Grows fs fs') {l : Location} {e : Entry}
    (hlink : ∀ loc steps, onLink loc steps = .ok (.found l e) →
      stopsOn' loc steps = stopsOn loc steps)
    {steps : List Step} (h : fs.walkSteps onLink loc steps = .ok (.found l e)) :
    fs'.stopsFrom stopsOn' loc steps = fs.stopsFrom stopsOn loc steps := by
  induction steps generalizing loc with
  | nil => rfl
  | cons step rest ih =>
      cases step with
      | here => exact ih h
      | up => exact ih h
      | down name =>
          obtain ⟨-, ⟨-, -, ht⟩ | ⟨es, hf, h⟩ | ⟨f, hf, hend, rfl, -⟩ | ⟨target, hf, h⟩⟩ :=
            walkSteps_down_cases h
          · cases ht
          · obtain ⟨f', hf', hk⟩ := hg.find? hf
            cases f' with
            | directory es' =>
                rw [stopsFrom_down_directory hf, stopsFrom_down_directory hf', ih h]
            | _ => cases hk
          · obtain ⟨f', hf', hk⟩ := hg.find? hf
            rw [stopsFrom_down_end hf hend, stopsFrom_down_end hf' (isEnd_of_kind hk hend)]
          · obtain ⟨f', hf', hk⟩ := hg.find? hf
            cases f' with
            | link target' =>
                cases hk
                rw [stopsFrom_down_link hf, stopsFrom_down_link hf', hlink _ _ h]
            | _ => cases hk

/-- **A way that leads to an entry stops where it did** after growth. -/
theorem stops_grows (hg : Grows fs fs') {budget : Nat} {steps : List Step} {l : Location} {e : Entry}
    (h : fs.follow budget loc steps = .ok (.found l e)) :
    fs'.stops budget loc steps = fs.stops budget loc steps := by
  induction budget generalizing loc steps with
  | zero => exact stopsFrom_grows hg (fun _ _ h => by cases h) h
  | succ budget ih => exact stopsFrom_grows hg (fun _ _ => ih) h

/-- **A path that leads to an entry keeps its canonical path** after growth, or still has none. -/
theorem canonical?_grows (hg : Grows fs fs') {path : ByteString} (h : fs.traced? path = some loc) :
    fs'.canonical? path = fs.canonical? path := by
  obtain ⟨-, e, hf⟩ := traced?_eq_some.mp h
  have hstops : fs'.isTraceable path = fs.isTraceable path := by
    unfold isTraceable
    simp only [hg.start, stops_grows hg hf]
  rw [canonical?, canonical?, hstops, h, traced?_grows hg h]

theorem asksDirectory_append {ys : List Step} (hy : ys ≠ []) (xs : List Step) :
    asksDirectory (xs ++ .here :: ys) = asksDirectory (xs ++ ys) := by
  induction xs with
  | nil =>
      rw [List.nil_append, List.nil_append, asksDirectory, List.isEmpty_eq_false_iff.mpr hy,
        Bool.false_or]
  | cons step xs ih =>
      cases step with
      | here =>
          have hlong : (xs ++ .here :: ys).isEmpty = false := by simp
          have hshort : (xs ++ ys).isEmpty = false := by simp [hy]
          rw [List.cons_append, List.cons_append, asksDirectory, asksDirectory, hlong, hshort, ih]
      | up => rfl
      | down name => rfl

/-- A way that goes on to a name without going up does not ask for a directory. -/
theorem asksDirectory_downward {xs : List Step} (hup : .up ∉ xs) {n : ByteString} :
    asksDirectory (xs ++ [.down n]) = false := by
  induction xs with
  | nil => rfl
  | cons step xs ih =>
      cases step with
      | here =>
          have hmore : (xs ++ [Step.down n]).isEmpty = false := by simp
          rw [List.cons_append, asksDirectory, hmore, Bool.false_or]
          exact ih fun hmem => hup (List.mem_cons_of_mem _ hmem)
      | up => exact absurd List.mem_cons_self hup
      | down m => rfl

theorem stopsFrom_end {l : Location} {e : Entry} (he : e.shape ≠ .directory)
    (hlink : ∀ loc steps, fs.shapeAt loc = some .directory →
      onLink loc steps = .ok (.found l e) → l.path ∈ stopsOn loc steps)
    {steps : List Step} (hd : fs.shapeAt loc = some .directory)
    (h : fs.walkSteps onLink loc steps = .ok (.found l e)) : l.path ∈ fs.stopsFrom stopsOn loc steps := by
  induction steps generalizing loc with
  | nil =>
      -- where the way starts is a directory
      obtain ⟨f, hf, ht⟩ := walkSteps_nil_ok h
      cases ht
      rw [shapeAt_of_find? hf] at hd
      exact absurd (Option.some.inj hd) he
  | cons step rest ih =>
      cases step with
      | here => exact ih hd h
      | up => exact ih (shapeAt_above hd) h
      | down name =>
          obtain ⟨-, ⟨-, -, ht⟩ | ⟨es, hf, h⟩ | ⟨f, hf, hend, rfl, ht⟩ | ⟨target, hf, h⟩⟩ :=
            walkSteps_down_cases h
          · cases ht
          · rw [stopsFrom_down_directory hf]
            exact List.mem_cons_of_mem _ (ih (shapeAt_of_find? hf) h)
          · cases ht
            rw [stopsFrom_down_end hf hend]
            exact List.mem_cons_self
          · rw [stopsFrom_down_link hf]
            exact List.mem_cons_of_mem _ (hlink _ _ (shapeAt_link_start hd _) h)

/-- **A file is the last stop** on the way to it. -/
theorem stops_end {budget : Nat} {l : Location} {e : Entry} (he : e.shape ≠ .directory)
    {steps : List Step} (hd : fs.shapeAt loc = some .directory)
    (h : fs.follow budget loc steps = .ok (.found l e)) : l.path ∈ fs.stops budget loc steps := by
  induction budget generalizing loc steps with
  | zero => exact stopsFrom_end he (fun _ _ _ h => by cases h) hd h
  | succ budget ih => exact stopsFrom_end he (fun _ _ => ih) hd h

/-- **A file deep down has no canonical path**: the path of its location is too long. -/
theorem canonical?_of_deep (hw : fs.WellFormed) {path : ByteString} {e : Entry}
    (h : fs.entryAt path = .ok (loc, e)) (he : e.shape ≠ .directory)
    (hlong : maxPathBytes < loc.path.size) : fs.canonical? path = none := by
  refine canonical?_of_not_isTraceable ?_
  rw [← Bool.not_eq_true, isTraceable_eq_true_iff]
  intro hshort
  obtain ⟨-, hf⟩ := resolve_eq_follow (entryAt_iff.mp h)
  exact Nat.not_lt_of_le (hshort _ (stops_end he (hw.start _) hf)) hlong

/-- A way that asks for a directory after a name has been folded away asked before, or the folded
    name came next. -/
theorem asksDirectory_fold {xs ys : List Step} (name : ByteString) (rest : List Step)
    (h : asksDirectory (xs ++ ys) = true) :
    asksDirectory (xs ++ .down name :: rest) = true ∨ ∃ i, xs = List.replicate i .here := by
  induction xs with
  | nil => exact Or.inr ⟨0, rfl⟩
  | cons step xs ih =>
      cases step with
      | here =>
          have hlong : (xs ++ .down name :: rest).isEmpty = false := by simp
          rw [List.cons_append, asksDirectory, hlong, Bool.false_or]
          rw [List.cons_append, asksDirectory, Bool.or_eq_true] at h
          rcases h with hnil | h
          · have hxs : xs = [] := by simp_all
            exact Or.inr ⟨1, by rw [hxs]; rfl⟩
          · exact (ih h).imp_right fun ⟨i, hi⟩ => ⟨i + 1, by rw [hi, List.replicate_succ]⟩
      | up => exact Or.inl rfl
      | down m => exact absurd h Bool.false_ne_true

theorem asksDirectory_moves {steps : List Step}
    (h : asksDirectory (steps.filter (· != .here)) = true) : asksDirectory steps = true := by
  induction steps with
  | nil => exact h
  | cons step rest ih =>
      cases step with
      | here => exact Bool.or_eq_true_iff.mpr (Or.inr (ih h))
      | up => rfl
      | down name => exact absurd h Bool.false_ne_true

theorem stopsFrom_drop_here {ys : List Step} (hy : ys ≠ [])
    (hlink : ∀ loc xs, stopsOn loc (xs ++ .here :: ys) = stopsOn loc (xs ++ ys))
    (loc : Location) (xs : List Step) :
    fs.stopsFrom stopsOn loc (xs ++ .here :: ys) = fs.stopsFrom stopsOn loc (xs ++ ys) := by
  induction xs generalizing loc with
  | nil => rfl
  | cons step xs ih =>
      cases step with
      | here => exact ih loc
      | up => exact ih loc.dropLast
      | down name =>
          rw [List.cons_append, List.cons_append]
          by_cases hl : ∃ target, fs.find? (loc ++ [name]) = some (.link target)
          · obtain ⟨target, hl⟩ := hl
            rw [stopsFrom_down_link hl, stopsFrom_down_link hl, ← List.append_assoc,
              ← List.append_assoc, hlink]
          · have hno : ∀ target, fs.find? (loc ++ [name]) ≠ some (.link target) :=
              fun target ht => hl ⟨target, ht⟩
            rw [stopsFrom_down hno, stopsFrom_down hno, ih, stopAt, stopAt, asksDirectory_append hy]

/-- **Staying before a further step is no stop.** -/
theorem stops_drop_here {ys : List Step} (hy : ys ≠ []) (budget : Nat) (loc : Location)
    (xs : List Step) :
    fs.stops budget loc (xs ++ .here :: ys) = fs.stops budget loc (xs ++ ys) := by
  induction budget generalizing loc xs with
  | zero => exact stopsFrom_drop_here hy (fun _ _ => rfl) loc xs
  | succ budget ih => exact stopsFrom_drop_here hy ih loc xs

theorem stops_drop_heres {ys : List Step} (hy : ys ≠ []) (budget : Nat) (loc : Location)
    (xs : List Step) (i : Nat) :
    fs.stops budget loc (xs ++ (List.replicate i .here ++ ys)) = fs.stops budget loc (xs ++ ys) := by
  induction i with
  | zero => rfl
  | succ i ih => rw [List.replicate_succ, List.cons_append, stops_drop_here (by simp [hy]), ih]

end Stops

/-! ## §3. Lengths -/

/-- The path of a location has a slash before each name. -/
theorem size_path {loc : Location} (hne : loc ≠ []) :
    loc.path.size = (loc.map fun n => n.size + 1).sum := by
  have hpath : loc.path.toList = (loc.map ByteString.toList).flatMap ([slash] ++ ·) :=
    Text.append_intercalate_self [slash] (by simpa using hne)
  rw [ByteString.size, hpath, List.length_flatMap, List.map_map]
  rfl

/-- A path is not shorter than that of a directory above it. -/
theorem size_path_append_le (loc names : Location) :
    loc.path.size ≤ (Location.path (loc ++ names)).size := by
  by_cases hloc : loc = []
  · -- the path of the root is the slash in front of every path
    rw [hloc]
    exact Nat.succ_le_succ (Nat.zero_le _)
  · rw [size_path hloc, size_path (by simp [hloc]), List.map_append, List.sum_append]
    omega

/-- A slash behind a path is one byte. -/
theorem size_stopAt (loc : Location) (rest : List Step) :
    (stopAt loc rest).size
      = loc.path.size + (if asksDirectory rest then 1 else 0) := by
  unfold stopAt
  split
  · exact ByteString.size_append _ _
  · rfl

theorem size_stopAt_mono {loc : Location} {rest rest' : List Step}
    (h : asksDirectory rest = true → asksDirectory rest' = true) :
    (stopAt loc rest).size ≤ (stopAt loc rest').size := by
  rw [size_stopAt, size_stopAt]
  by_cases hask : asksDirectory rest = true
  · simp [hask, h hask]
  · rw [if_neg hask]
    omega

/-! ## §4. Stops without links -/

section LinkFree

variable {fs : FileSystem} (hfree : fs.LinkFree)
include hfree

theorem stopsFrom_linkFree {stopsOn stopsOn' : Location → List Step → List ByteString} (loc : Location)
    (steps : List Step) : fs.stopsFrom stopsOn loc steps = fs.stopsFrom stopsOn' loc steps := by
  induction steps generalizing loc with
  | nil => rfl
  | cons step rest ih =>
      cases step with
      | here => exact ih loc
      | up => exact ih loc.dropLast
      | down name =>
          have hno : ∀ target, fs.find? (loc ++ [name]) ≠ some (.link target) :=
            fun target h => hfree.find?_ne h
          rw [stopsFrom_down hno, stopsFrom_down hno, ih]

/-- Without links it does not matter how many may be followed. -/
theorem stops_linkFree (budget : Nat) (loc : Location) (steps : List Step) :
    fs.stops budget loc steps = fs.stops 0 loc steps := by
  cases budget with
  | zero => rfl
  | succ budget => exact stopsFrom_linkFree hfree loc steps

theorem stops_down (loc : Location) (name : ByteString) (rest : List Step) :
    fs.stops 0 loc (.down name :: rest)
      = stopAt (loc ++ [name]) rest :: fs.stops 0 (loc ++ [name]) rest :=
  stopsFrom_down fun _ h => hfree.find?_ne h

/-- **Without links and steps up the last stop is the longest**: a way that ends in a name can be
    traced if the path of the location that it leads to is short enough. -/
theorem stops_downward {loc : Location} {xs : List Step} (hup : .up ∉ xs) (n : ByteString) (limit : Nat) :
    (∀ stop ∈ fs.stops 0 loc (xs ++ [.down n]), stop.size ≤ limit)
      ↔ (Location.path (loc ++ (xs.filterMap Step.name? ++ [n]))).size ≤ limit := by
  induction xs generalizing loc with
  | nil =>
      rw [List.nil_append, stops_down hfree]
      simp [stops, stopsFrom, stopAt, asksDirectory]
  | cons step xs ih =>
      have hxs : .up ∉ xs := fun hmem => hup (List.mem_cons_of_mem step hmem)
      cases step with
      | here => exact ih hxs
      | up => exact absurd List.mem_cons_self hup
      | down m =>
          have hsplit : loc ++ ((.down m :: xs).filterMap Step.name? ++ [n])
              = (loc ++ [m]) ++ (xs.filterMap Step.name? ++ [n]) := by simp [Step.name?]
          rw [List.cons_append, stops_down hfree, List.forall_mem_cons, ih hxs, hsplit, size_stopAt,
            asksDirectory_downward hxs, if_neg Bool.false_ne_true, Nat.add_zero]
          -- the stop at the first name is the path of a directory further up
          exact and_iff_right_of_imp fun h =>
            Nat.le_trans (size_path_append_le (loc ++ [m]) (xs.filterMap Step.name? ++ [n])) h

/-- **Without links a way that never goes up can be traced to a file** if the path of its location is
    not too long. -/
theorem isTraceable_iff_of_file (hw : fs.WellFormed) {path : ByteString} {loc : Location} {e : Entry}
    (hup : .up ∉ (Route.ofPath path).steps) (h : fs.traced? path = some loc)
    (hthere : fs.find? loc = some e) (he : e.shape ≠ .directory) :
    fs.isTraceable path = true ↔ loc.path.size ≤ maxPathBytes := by
  obtain ⟨-, f, hf⟩ := traced?_eq_some.mp h
  have hfound := follow_found hf
  rw [hthere] at hfound
  cases hfound
  have hstart := hw.start (Route.ofPath path)
  rw [isTraceable_eq_true_iff, stops_linkFree hfree]
  -- what leads to a file ends in its name
  rcases List.eq_nil_or_concat (Route.ofPath path).steps with hnil | ⟨xs, last, hcons⟩
  · rw [hnil] at hf
    obtain ⟨e', he', ht⟩ := walkSteps_nil_ok hf
    cases ht
    rw [shapeAt_of_find? he'] at hstart
    exact absurd (Option.some.inj hstart) he
  · rw [List.concat_eq_append] at hcons
    cases hname : last.name? with
    | none =>
        rw [hcons] at hf
        exact absurd (follow_turn_directory hname hstart hf) he
    | some n =>
        have hlast : last = .down n := by
          cases last with
          | down m => exact congrArg Step.down (Option.some.inj hname)
          | here => cases hname
          | up => cases hname
        subst hlast
        have hxs : .up ∉ xs := fun hmem => hup (by simp [hcons, hmem])
        rw [follow_linkFree hfree] at hf
        have hloc : loc = fs.start (Route.ofPath path) ++ (xs.filterMap Step.name? ++ [n]) := by
          have hend := follow_downward hfree hup hf
          rw [hcons, List.filterMap_append] at hend
          exact hend
        rw [hcons, stops_downward hfree hxs, ← hloc]

end LinkFree

end TestScaffold.FileSystem
