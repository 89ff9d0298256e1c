/-
  TestScaffold.Proofs.FileSystem.Resolution — where ways lead, and what keeps them there.

  Every fact about `follow` comes in two steps: `walkSteps` has it if `onLink` has it,
  and so `follow` has it by induction on the links that may still be followed.

    * `follow_found` — what is found stands at the location that is returned;
    * `follow_grows` — a way that leads to an entry still leads there when names are
      added and files rewritten;
    * `follow_drop_here` — staying in between changes nothing;
    * `follow_vacant_in` — a free name is an ordinary name in a directory;
    * `follow_append`, `follow_downward` — without links a way is taken step by step;
    * `follow_from_directory` — a file is reached from its directory by its name.
-/
import TestScaffold.Proofs.FileSystem.Shape
import TestScaffold.Proofs.Path.Names

namespace TestScaffold

/-- A shape, the content of files left out. -/
def Shape.kind : Shape → Shape
  | .file _ => .file .empty
  | s => s

/-- Whether a way can only end at an entry: it is neither a directory nor a link. -/
def Entry.isEnd : Entry → Bool
  | .file _ | .device => true
  | .link _ | .directory _ => false

/-- The location that a way ends at, whether something stands there or not. -/
def Target.location : Target → Location
  | .found loc _ => loc
  | .vacant directory name => directory ++ [name]

namespace FileSystem

/-! ## §1. One step down -/

section StepDown

variable {fs : FileSystem} {onLink : Location → List Step → Except IoFault Target}
  {loc : Location} {name : ByteString} {rest : List Step}

/-- What the end of a way asks. -/
theorem walkSteps_end :
    fs.walkSteps onLink loc []
      = match fs.find? loc with
        | some entry => .ok (.found loc entry)
        | none => .error .noEntry :=
  rfl

/-- What a step down asks. -/
theorem walkSteps_down :
    fs.walkSteps onLink loc (.down name :: rest)
      = if maxNameBytes < name.size then .error .nameTooLong
        else
          match fs.find? (loc ++ [name]) with
          | none => if rest.isEmpty then .ok (.vacant loc name) else .error .noEntry
          | some (.directory _) => fs.walkSteps onLink (loc ++ [name]) rest
          | some (.file content) =>
            if rest.isEmpty then .ok (.found (loc ++ [name]) (.file content))
            else .error .notDirectory
          | some .device =>
            if rest.isEmpty then .ok (.found (loc ++ [name]) .device) else .error .notDirectory
          | some (.link target) =>
            let route := Route.ofPath target
            onLink (if route.fromRoot then [] else loc) (route.steps ++ rest) :=
  rfl

/-- **All that a step down can do** when it leads on. -/
theorem walkSteps_down_cases {t : Target}
    (h : fs.walkSteps onLink loc (.down name :: rest) = .ok t) :
    name.size ≤ maxNameBytes ∧
      ((fs.find? (loc ++ [name]) = none ∧ rest = [] ∧ t = .vacant loc name)
      ∨ (∃ es, fs.find? (loc ++ [name]) = some (.directory es)
          ∧ fs.walkSteps onLink (loc ++ [name]) rest = .ok t)
      ∨ (∃ e, fs.find? (loc ++ [name]) = some e ∧ e.isEnd = true ∧ rest = []
          ∧ t = .found (loc ++ [name]) e)
      ∨ (∃ target, fs.find? (loc ++ [name]) = some (.link target)
          ∧ onLink (if (Route.ofPath target).fromRoot then [] else loc)
              ((Route.ofPath target).steps ++ rest) = .ok t)) := by
  rw [walkSteps_down] at h
  split at h
  · cases h
  · rename_i hlen
    refine ⟨Nat.le_of_not_lt hlen, ?_⟩
    -- what stands under the name decides; a free name, a file and a device must come last
    split at h
    · rename_i hfind
      split at h
      · rename_i hrest
        cases h
        exact Or.inl ⟨hfind, List.isEmpty_iff.mp hrest, rfl⟩
      · cases h
    · rename_i es hfind
      exact Or.inr (Or.inl ⟨es, hfind, h⟩)
    · rename_i content hfind
      split at h
      · rename_i hrest
        cases h
        exact Or.inr (Or.inr (Or.inl ⟨_, hfind, rfl, List.isEmpty_iff.mp hrest, rfl⟩))
      · cases h
    · rename_i hfind
      split at h
      · rename_i hrest
        cases h
        exact Or.inr (Or.inr (Or.inl ⟨_, hfind, rfl, List.isEmpty_iff.mp hrest, rfl⟩))
      · cases h
    · rename_i target hfind
      exact Or.inr (Or.inr (Or.inr ⟨target, hfind, h⟩))

theorem walkSteps_down_directory (hlen : name.size ≤ maxNameBytes) {es : Entries}
    (h : fs.find? (loc ++ [name]) = some (.directory es)) :
    fs.walkSteps onLink loc (.down name :: rest) = fs.walkSteps onLink (loc ++ [name]) rest := by
  rw [walkSteps_down, if_neg (Nat.not_lt.mpr hlen), h]

theorem walkSteps_down_end (hlen : name.size ≤ maxNameBytes) {e : Entry}
    (h : fs.find? (loc ++ [name]) = some e) (he : e.isEnd = true) :
    fs.walkSteps onLink loc [.down name] = .ok (.found (loc ++ [name]) e) := by
  rw [walkSteps_down, if_neg (Nat.not_lt.mpr hlen), h]
  cases e with
  | file content => rfl
  | device => rfl
  | link target => cases he
  | directory es => cases he

theorem walkSteps_down_link (hlen : name.size ≤ maxNameBytes) {target : ByteString}
    (h : fs.find? (loc ++ [name]) = some (.link target)) :
    fs.walkSteps onLink loc (.down name :: rest)
      = onLink (if (Route.ofPath target).fromRoot then [] else loc)
          ((Route.ofPath target).steps ++ rest) := by
  rw [walkSteps_down, if_neg (Nat.not_lt.mpr hlen), h]

theorem walkSteps_nil_ok {t : Target} (h : fs.walkSteps onLink loc [] = .ok t) :
    ∃ e, fs.find? loc = some e ∧ t = .found loc e := by
  rw [walkSteps_end] at h
  split at h
  · rename_i e he
    cases h
    exact ⟨e, he, rfl⟩
  · cases h

theorem walkSteps_nil {e : Entry} (h : fs.find? loc = some e) :
    fs.walkSteps onLink loc [] = .ok (.found loc e) := by
  rw [walkSteps_end, h]

end StepDown

/-! ## §2. What is found -/

section Found

variable {fs : FileSystem} {onLink : Location → List Step → Except IoFault Target}

theorem walkSteps_found {l : Location} {e : Entry}
    (hlink : ∀ loc steps, onLink loc steps = .ok (.found l e) → fs.find? l = some e)
    {loc : Location} {steps : List Step}
    (h : fs.walkSteps onLink loc steps = .ok (.found l e)) : fs.find? l = some e := by
  induction steps generalizing loc with
  | nil =>
      obtain ⟨f, hf, ht⟩ := walkSteps_nil_ok h
      cases ht
      exact hf
  | cons step rest ih =>
      cases step with
      | here => exact ih h
      | up => exact ih h
      | down name =>
          obtain ⟨-, ⟨-, -, ht⟩ | ⟨es, -, h⟩ | ⟨f, hf, -, -, ht⟩ | ⟨target, -, h⟩⟩ :=
            walkSteps_down_cases h
          · cases ht
          · exact ih h
          · cases ht
            exact hf
          · exact hlink _ _ h

/-- **What a way finds** stands at the location that it returns. -/
theorem follow_found {budget : Nat} {loc : Location} {steps : List Step} {l : Location} {e : Entry}
    (h : fs.follow budget loc steps = .ok (.found l e)) : fs.find? l = some e := by
  induction budget generalizing loc steps with
  | zero => exact walkSteps_found (fun _ _ h => by cases h) h
  | succ budget ih => exact walkSteps_found (fun _ _ => ih) h

theorem walkSteps_vacant {d : Location} {n : ByteString}
    (hlink : ∀ loc steps, onLink loc steps = .ok (.vacant d n) →
      fs.find? (d ++ [n]) = none ∧ n.size ≤ maxNameBytes)
    {loc : Location} {steps : List Step}
    (h : fs.walkSteps onLink loc steps = .ok (.vacant d n)) :
    fs.find? (d ++ [n]) = none ∧ n.size ≤ maxNameBytes := by
  induction steps generalizing loc with
  | nil =>
      obtain ⟨f, -, ht⟩ := walkSteps_nil_ok h
      cases ht
  | cons step rest ih =>
      cases step with
      | here => exact ih h
      | up => exact ih h
      | down name =>
          obtain ⟨hlen, ⟨hnone, -, ht⟩ | ⟨es, -, h⟩ | ⟨f, -, -, -, ht⟩ | ⟨target, -, h⟩⟩ :=
            walkSteps_down_cases h
          · cases ht
            exact ⟨hnone, hlen⟩
          · exact ih h
          · cases ht
          · exact hlink _ _ h

/-- A free name is free, and short enough to be taken. -/
theorem follow_vacant {budget : Nat} {loc : Location} {steps : List Step} {d : Location} {n : ByteString}
    (h : fs.follow budget loc steps = .ok (.vacant d n)) :
    fs.find? (d ++ [n]) = none ∧ n.size ≤ maxNameBytes := by
  induction budget generalizing loc steps with
  | zero => exact walkSteps_vacant (fun _ _ h => by cases h) h
  | succ budget ih => exact walkSteps_vacant (fun _ _ => ih) h

/-- **A path is looked at** if it is not empty, not too long and without a zero byte; then it is
    read as it is spelled. -/
theorem route_ok_iff {path : ByteString} {r : Route} :
    route path = .ok r ↔ 0 ∉ path.toList ∧ path ≠ ""
      ∧ path.size ≤ maxPathBytes ∧ r = Route.ofPath path := by
  unfold route
  by_cases hzero : 0 ∈ path.toList
  · simp [hzero]
  · by_cases hempty : path = ""
    · simp [hempty]
    · rw [if_neg (by simpa using hzero), if_neg (by simpa using hempty)]
      by_cases hlen : path.size ≤ maxPathBytes
      · rw [if_neg (Nat.not_lt.mpr hlen), Except.ok.injEq]
        exact ⟨fun h => ⟨hzero, hempty, hlen, h.symm⟩, fun h => h.2.2.2.symm⟩
      · rw [if_pos (Nat.lt_of_not_le hlen)]
        constructor
        · intro h
          cases h
        · intro h
          exact absurd h.2.2.1 hlen

theorem route_eq {path : ByteString} {r : Route} (h : route path = .ok r) : r = Route.ofPath path :=
  (route_ok_iff.mp h).2.2.2

/-- A path that leaves bytes of a looked-at path out is looked at too. -/
theorem route_of_sublist {path shorter : ByteString} {r : Route} (h : route path = .ok r)
    (hsub : shorter.toList.Sublist path.toList) (hne : shorter.toList ≠ []) :
    route shorter = .ok (Route.ofPath shorter) := by
  obtain ⟨hzero, -, hlen, -⟩ := route_ok_iff.mp h
  -- it is no longer, and has no zero byte either
  have hsize : shorter.size ≤ path.size := hsub.length_le
  refine route_ok_iff.mpr ⟨fun hmem => hzero (hsub.subset hmem), ?_, Nat.le_trans hsize hlen, rfl⟩
  intro hempty
  exact hne (by rw [hempty]; rfl)

theorem resolve_eq_follow {path : ByteString} {t : Target} (h : fs.resolve path = .ok t) :
    route path = .ok (Route.ofPath path)
      ∧ fs.follow maxLinks (fs.start (Route.ofPath path)) (Route.ofPath path).steps = .ok t := by
  unfold resolve at h
  cases hr : route path with
  | error fault =>
      rw [hr] at h
      cases h
  | ok r =>
      rw [hr] at h
      rw [← route_eq hr]
      exact ⟨rfl, h⟩

theorem resolve_of_route {path : ByteString} (h : route path = .ok (Route.ofPath path)) :
    fs.resolve path
      = fs.follow maxLinks (fs.start (Route.ofPath path)) (Route.ofPath path).steps := by
  rw [resolve, h]
  rfl

theorem entryAt_iff {path : ByteString} {l : Location} {e : Entry} :
    fs.entryAt path = .ok (l, e) ↔ fs.resolve path = .ok (.found l e) := by
  unfold entryAt
  split
  · rename_i heq
    rw [heq]
    simp
  · rename_i heq
    rw [heq]
    simp
  · rename_i heq
    rw [heq]
    simp

theorem entryAt_found {path : ByteString} {l : Location} {e : Entry}
    (h : fs.entryAt path = .ok (l, e)) : fs.find? l = some e :=
  follow_found (resolve_eq_follow (entryAt_iff.mp h)).2

theorem shapeAt_of_entryAt {path : ByteString} {l : Location} {e : Entry}
    (h : fs.entryAt path = .ok (l, e)) : fs.shapeAt l = some e.shape :=
  shapeAt_of_find? (entryAt_found h)

theorem shapeAt_of_found {path : ByteString} {l : Location} {e : Entry}
    (h : fs.resolve path = .ok (.found l e)) : fs.shapeAt l = some e.shape :=
  shapeAt_of_entryAt (entryAt_iff.mpr h)

theorem shapeAt_of_vacant {path : ByteString} {d : Location} {n : ByteString}
    (h : fs.resolve path = .ok (.vacant d n)) : fs.shapeAt (d ++ [n]) = none :=
  find?_eq_none_iff.mp (follow_vacant (resolve_eq_follow h).2).1

end Found

/-- The location of the entry that a path leads to. -/
def locate? (fs : FileSystem) (path : ByteString) : Option Location :=
  match fs.entryAt path with
  | .ok (loc, _) => some loc
  | .error _ => none

theorem locate?_eq_some {fs : FileSystem} {path : ByteString} {loc : Location} :
    fs.locate? path = some loc ↔ ∃ e, fs.entryAt path = .ok (loc, e) := by
  unfold locate?
  split
  · rename_i l e heq
    rw [heq]
    simp
  · rename_i heq
    rw [heq]
    simp

theorem traced?_eq_some {fs : FileSystem} {path : ByteString} {loc : Location} :
    fs.traced? path = some loc ↔ path ≠ "" ∧ ∃ e,
      fs.follow maxLinks (fs.start (Route.ofPath path)) (Route.ofPath path).steps
        = .ok (.found loc e) := by
  unfold traced?
  by_cases hempty : path = ""
  · simp [hempty]
  · have hcond : path.isEmpty = false := by simpa using hempty
    rw [hcond]
    cases hf : fs.follow maxLinks (fs.start (Route.ofPath path)) (Route.ofPath path).steps with
    | error fault => simp [hf]
    | ok target =>
        cases target with
        | found l e => simp [hf, hempty]
        | vacant d n => simp [hf]

theorem ne_empty_of_route {path : ByteString} {r : Route} (h : route path = .ok r) : path ≠ "" :=
  (route_ok_iff.mp h).2.1

/-- A path of a length that is looked at is traced to where it leads. -/
theorem traced?_eq_locate? {fs : FileSystem} {path : ByteString} {r : Route} (h : route path = .ok r) :
    fs.traced? path = fs.locate? path := by
  have hne := ne_empty_of_route h
  rw [route_eq h] at h
  refine Option.ext fun loc => ?_
  rw [traced?_eq_some, locate?_eq_some]
  constructor
  · rintro ⟨-, e, hf⟩
    exact ⟨e, entryAt_iff.mpr (by rw [resolve_of_route h, hf])⟩
  · rintro ⟨e, he⟩
    exact ⟨hne, e, (resolve_eq_follow (entryAt_iff.mp he)).2⟩

theorem traced?_of_locate? {fs : FileSystem} {path : ByteString} {loc : Location}
    (h : fs.locate? path = some loc) : fs.traced? path = some loc := by
  obtain ⟨e, he⟩ := locate?_eq_some.mp h
  rw [traced?_eq_locate? (resolve_eq_follow (entryAt_iff.mp he)).1, h]

theorem entryAt_file {fs : FileSystem} {path : ByteString} {content : ByteArray} {loc : Location}
    (hl : fs.locate? path = some loc) (hs : fs.shapeAt loc = some (.file content)) :
    fs.entryAt path = .ok (loc, .file content) := by
  obtain ⟨e, he⟩ := locate?_eq_some.mp hl
  have hshape := shapeAt_of_entryAt he
  rw [hs] at hshape
  cases e with
  | file c =>
      cases hshape
      exact he
  | _ => cases hshape

theorem readBytes_eq_ok {fs : FileSystem} {path : ByteString} {content : ByteArray} {loc : Location}
    (hl : fs.locate? path = some loc) (hs : fs.shapeAt loc = some (.file content)) :
    fs.readBytes path = .ok content := by
  unfold readBytes
  rw [entryAt_file hl hs]

theorem readBytes_device {fs : FileSystem} {path : ByteString} {loc : Location}
    (hl : fs.locate? path = some loc) (hs : fs.shapeAt loc = some .device) :
    fs.readBytes path = .ok .empty := by
  obtain ⟨e, he⟩ := locate?_eq_some.mp hl
  have hshape := shapeAt_of_entryAt he
  rw [hs] at hshape
  unfold readBytes
  rw [he]
  cases e with
  | device => rfl
  | _ => simp [Entry.shape] at hshape

/-- A path that can be read leads to a file, or to a device that holds nothing. -/
theorem locate?_of_readBytes {fs : FileSystem} {path : ByteString} {content : ByteArray}
    (h : fs.readBytes path = .ok content) :
    ∃ loc, fs.locate? path = some loc ∧ (fs.shapeAt loc = some (.file content)
      ∨ (fs.shapeAt loc = some .device ∧ content = .empty)) := by
  unfold readBytes at h
  split at h
  · rename_i loc c heq
    cases h
    exact ⟨loc, locate?_eq_some.mpr ⟨_, heq⟩, Or.inl (shapeAt_of_entryAt heq)⟩
  · rename_i loc heq
    cases h
    exact ⟨loc, locate?_eq_some.mpr ⟨_, heq⟩,
      Or.inr ⟨shapeAt_of_entryAt heq, rfl⟩⟩
  · cases h
  · cases h

/-- A path that is not looked at cannot be read in any file system. -/
theorem readBytes_of_no_route {path : ByteString} (h : ∀ r, route path ≠ .ok r)
    (fs fs' : FileSystem) : fs'.readBytes path = fs.readBytes path := by
  cases hroute : route path with
  | ok r => exact absurd hroute (h r)
  | error fault => simp [readBytes, entryAt, resolve, hroute, bind, Except.bind]

/-! ## §3. Growth -/

/-- `fs'` has everything that `fs` has: names may be added and files rewritten, but nothing is
    taken away or becomes something else. -/
structure Grows (fs fs' : FileSystem) : Prop where
  /-- The working directory stays. -/
  cwd : fs'.cwd = fs.cwd
  /-- What stands at a location stays of its kind. -/
  keep : ∀ {loc s}, fs.shapeAt loc = some s → (fs'.shapeAt loc).map Shape.kind = some s.kind

namespace Grows

variable {fs fs' fs'' : FileSystem}

theorem refl (fs : FileSystem) : Grows fs fs :=
  ⟨rfl, fun h => by rw [h]; rfl⟩

theorem trans (h : Grows fs fs') (h' : Grows fs' fs'') : Grows fs fs'' := by
  refine ⟨h'.cwd.trans h.cwd, ?_⟩
  intro loc s hs
  obtain ⟨s', hs', hk⟩ := Option.map_eq_some_iff.mp (h.keep hs)
  rw [← hk]
  exact h'.keep hs'

theorem start (h : Grows fs fs') (r : Route) : fs'.start r = fs.start r := by
  unfold FileSystem.start
  rw [h.cwd]

theorem find? (h : Grows fs fs') {loc : Location} {e : Entry} (he : fs.find? loc = some e) :
    ∃ e', fs'.find? loc = some e' ∧ e'.shape.kind = e.shape.kind := by
  obtain ⟨s, hs, hk⟩ := Option.map_eq_some_iff.mp (h.keep (shapeAt_of_find? he))
  obtain ⟨e', he', hshape⟩ := find?_of_shapeAt hs
  exact ⟨e', he', by rw [hshape, hk]⟩

theorem directory (h : Grows fs fs') {loc : Location}
    (hs : fs.shapeAt loc = some .directory) : fs'.shapeAt loc = some .directory := by
  obtain ⟨s, hs', hk⟩ := Option.map_eq_some_iff.mp (h.keep hs)
  cases s with
  | directory => exact hs'
  | _ => cases hk

/-- A directory was a directory before, or is new. -/
theorem directory_or_none (h : Grows fs fs') {loc : Location}
    (hs : fs'.shapeAt loc = some .directory) :
    fs.shapeAt loc = none ∨ fs.shapeAt loc = some .directory := by
  cases hbefore : fs.shapeAt loc with
  | none => exact Or.inl rfl
  | some s =>
      have hk := h.keep hbefore
      rw [hs] at hk
      cases s with
      | directory => exact Or.inr rfl
      | _ => cases hk

theorem file (h : Grows fs fs') {loc : Location} {content : ByteArray}
    (hs : fs.shapeAt loc = some (.file content)) :
    ∃ content', fs'.shapeAt loc = some (.file content') := by
  obtain ⟨s, hs', hk⟩ := Option.map_eq_some_iff.mp (h.keep hs)
  cases s with
  | file content' => exact ⟨content', hs'⟩
  | _ => cases hk

end Grows

theorem isEnd_of_kind {e e' : Entry} (hk : e'.shape.kind = e.shape.kind) (h : e.isEnd = true) :
    e'.isEnd = true := by
  cases e <;> cases e' <;> simp_all [Entry.isEnd, Entry.shape, Shape.kind]

section Growth

variable {fs fs' : FileSystem} {onLink onLink' : Location → List Step → Except IoFault Target}

theorem walkSteps_grows (hg : Grows fs fs') {l : Location} {e : Entry}
    (hlink : ∀ loc steps, onLink loc steps = .ok (.found l e) →
      ∃ e', onLink' loc steps = .ok (.found l e'))
    {loc : Location} {steps : List Step}
    (h : fs.walkSteps onLink loc steps = .ok (.found l e)) :
    ∃ e', fs'.walkSteps onLink' loc steps = .ok (.found l e') := by
  induction steps generalizing loc with
  | nil =>
      obtain ⟨f, hf, ht⟩ := walkSteps_nil_ok h
      obtain ⟨f', hf', -⟩ := hg.find? hf
      cases ht
      exact ⟨f', walkSteps_nil hf'⟩
  | cons step rest ih =>
      cases step with
      | here => exact ih h
      | up => exact ih h
      | down name =>
          -- a free name is not an entry; all other cases stay what they were
          obtain ⟨hlen, ⟨-, -, ht⟩ | ⟨es, hf, h⟩ | ⟨f, hf, hend, rfl, ht⟩ | ⟨target, hf, h⟩⟩ :=
            walkSteps_down_cases h
          · cases ht
          · obtain ⟨f', hf', hk⟩ := hg.find? hf
            cases f' with
            | directory es' =>
                rw [walkSteps_down_directory hlen hf']
                exact ih h
            | _ => cases hk
          · obtain ⟨f', hf', hk⟩ := hg.find? hf
            cases ht
            exact ⟨f', walkSteps_down_end hlen hf' (isEnd_of_kind hk hend)⟩
          · obtain ⟨f', hf', hk⟩ := hg.find? hf
            cases f' with
            | link target' =>
                cases hk
                rw [walkSteps_down_link hlen hf']
                exact hlink _ _ h
            | _ => cases hk

/-- **A way that leads to an entry leads there still** after growth. -/
theorem follow_grows (hg : Grows fs fs') {budget : Nat} {loc : Location} {steps : List Step}
    {l : Location} {e : Entry} (h : fs.follow budget loc steps = .ok (.found l e)) :
    ∃ e', fs'.follow budget loc steps = .ok (.found l e') := by
  induction budget generalizing loc steps with
  | zero => exact walkSteps_grows hg (fun _ _ h => by cases h) h
  | succ budget ih => exact walkSteps_grows hg (fun _ _ => ih) h

theorem walkSteps_filled (hg : Grows fs fs') {d : Location} {n : ByteString} {e : Entry}
    (hthere : fs'.find? (d ++ [n]) = some e) (hend : e.isEnd = true)
    (hlink : ∀ loc steps, onLink loc steps = .ok (.vacant d n) →
      onLink' loc steps = .ok (.found (d ++ [n]) e))
    {loc : Location} {steps : List Step}
    (h : fs.walkSteps onLink loc steps = .ok (.vacant d n)) :
    fs'.walkSteps onLink' loc steps = .ok (.found (d ++ [n]) e) := by
  induction steps generalizing loc with
  | nil =>
      obtain ⟨f, -, ht⟩ := walkSteps_nil_ok h
      cases ht
  | cons step rest ih =>
      cases step with
      | here => exact ih h
      | up => exact ih h
      | down name =>
          -- the free name is the last one; what stands before it stays what it was
          obtain ⟨hlen, ⟨-, rfl, ht⟩ | ⟨es, hf, h⟩ | ⟨f, -, -, -, ht⟩ | ⟨target, hf, h⟩⟩ :=
            walkSteps_down_cases h
          · cases ht
            exact walkSteps_down_end hlen hthere hend
          · obtain ⟨f', hf', hk⟩ := hg.find? hf
            cases f' with
            | directory es' =>
                rw [walkSteps_down_directory hlen hf']
                exact ih h
            | _ => cases hk
          · cases ht
          · obtain ⟨f', hf', hk⟩ := hg.find? hf
            cases f' with
            | link target' =>
                cases hk
                rw [walkSteps_down_link hlen hf']
                exact hlink _ _ h
            | _ => cases hk

/-- **A way that ends at a free name leads to what comes to stand there.** -/
theorem follow_filled (hg : Grows fs fs') {d : Location} {n : ByteString} {e : Entry}
    (hthere : fs'.find? (d ++ [n]) = some e) (hend : e.isEnd = true) {budget : Nat}
    {loc : Location} {steps : List Step}
    (h : fs.follow budget loc steps = .ok (.vacant d n)) :
    fs'.follow budget loc steps = .ok (.found (d ++ [n]) e) := by
  induction budget generalizing loc steps with
  | zero => exact walkSteps_filled hg hthere hend (fun _ _ h => by cases h) h
  | succ budget ih => exact walkSteps_filled hg hthere hend (fun _ _ => ih) h

theorem entryAt_grows (hg : Grows fs fs') {path : ByteString} {l : Location} {e : Entry}
    (h : fs.entryAt path = .ok (l, e)) : ∃ e', fs'.entryAt path = .ok (l, e') := by
  obtain ⟨hr, hf⟩ := resolve_eq_follow (entryAt_iff.mp h)
  obtain ⟨e', he'⟩ := follow_grows hg hf
  refine ⟨e', entryAt_iff.mpr ?_⟩
  rw [resolve_of_route hr, hg.start, he']

theorem locate?_grows (hg : Grows fs fs') {path : ByteString} {l : Location}
    (h : fs.locate? path = some l) : fs'.locate? path = some l := by
  obtain ⟨e, he⟩ := locate?_eq_some.mp h
  obtain ⟨e', he'⟩ := entryAt_grows hg he
  exact locate?_eq_some.mpr ⟨e', he'⟩

theorem traced?_grows (hg : Grows fs fs') {path : ByteString} {l : Location}
    (h : fs.traced? path = some l) : fs'.traced? path = some l := by
  obtain ⟨hne, e, hf⟩ := traced?_eq_some.mp h
  obtain ⟨e', he'⟩ := follow_grows hg hf
  refine traced?_eq_some.mpr ⟨hne, e', ?_⟩
  rw [hg.start, he']

theorem entryAt_file_grows (hg : Grows fs fs') {path : ByteString} {l : Location} {content : ByteArray}
    (h : fs.entryAt path = .ok (l, .file content)) :
    ∃ content', fs'.entryAt path = .ok (l, .file content') := by
  obtain ⟨content', hs⟩ := hg.file (shapeAt_of_entryAt h)
  exact ⟨content', entryAt_file (locate?_grows hg (locate?_eq_some.mpr ⟨_, h⟩)) hs⟩

theorem entryAt_directory_grows (hg : Grows fs fs') {path : ByteString} {l : Location} {es : Entries}
    (h : fs.entryAt path = .ok (l, .directory es)) :
    ∃ es', fs'.entryAt path = .ok (l, .directory es') := by
  obtain ⟨e, he⟩ := entryAt_grows hg h
  have hs := hg.directory (shapeAt_of_entryAt h)
  rw [shapeAt_of_find? (entryAt_found he)] at hs
  cases e with
  | directory es' => exact ⟨es', he⟩
  | _ => cases hs

/-- A path that ends at an entry which is no directory does so still. -/
theorem entryAt_isEnd_grows (hg : Grows fs fs') {path : ByteString} {l : Location} {e : Entry}
    (h : fs.entryAt path = .ok (l, e)) (hend : e.isEnd = true) :
    ∃ e', fs'.entryAt path = .ok (l, e') ∧ e'.isEnd = true := by
  obtain ⟨e', he'⟩ := entryAt_grows hg h
  obtain ⟨f, hf, hk⟩ := hg.find? (entryAt_found h)
  rw [entryAt_found he'] at hf
  cases hf
  exact ⟨e', he', isEnd_of_kind hk hend⟩

/-- A file that growth does not rewrite reads as before. -/
theorem readBytes_grows (hg : Grows fs fs') {path : ByteString} {loc : Location} {content : ByteArray}
    (hl : fs.locate? path = some loc) (hs : fs.shapeAt loc = some (.file content))
    (hs' : fs'.shapeAt loc = some (.file content)) : fs'.readBytes path = fs.readBytes path := by
  rw [readBytes_eq_ok hl hs, readBytes_eq_ok (locate?_grows hg hl) hs']

end Growth

/-! ## §4. Staying, and ending in directories -/

section Staying

variable {fs : FileSystem} {onLink : Location → List Step → Except IoFault Target}

theorem walkSteps_drop_here {ys : List Step} (hy : ys ≠ [])
    (hlink : ∀ loc xs, onLink loc (xs ++ .here :: ys) = onLink loc (xs ++ ys))
    (loc : Location) (xs : List Step) :
    fs.walkSteps onLink loc (xs ++ .here :: ys) = fs.walkSteps onLink loc (xs ++ ys) := by
  induction xs generalizing loc with
  | nil => rfl
  | cons step xs ih =>
      cases step with
      | here => exact ih loc
      | up => exact ih loc.dropLast
      | down name =>
          -- a step down asks only whether more steps follow, and on both sides they do
          have hlong : (xs ++ .here :: ys).isEmpty = false := by simp
          have hshort : (xs ++ ys).isEmpty = false := by simp [hy]
          rw [List.cons_append, List.cons_append, walkSteps_down, walkSteps_down, hlong, hshort, ih]
          cases fs.find? (loc ++ [name]) with
          | none => rfl
          | some e =>
              cases e with
              | link target =>
                  have h := hlink (if (Route.ofPath target).fromRoot then [] else loc)
                    ((Route.ofPath target).steps ++ xs)
                  rw [List.append_assoc, List.append_assoc] at h
                  simp only [h]
              | _ => rfl

/-- **Staying before a further step changes nothing.** -/
theorem follow_drop_here {ys : List Step} (hy : ys ≠ []) (budget : Nat) (loc : Location)
    (xs : List Step) :
    fs.follow budget loc (xs ++ .here :: ys) = fs.follow budget loc (xs ++ ys) := by
  induction budget generalizing loc xs with
  | zero => exact walkSteps_drop_here hy (fun _ _ => rfl) loc xs
  | succ budget ih => exact walkSteps_drop_here hy ih loc xs

theorem follow_drop_heres {ys : List Step} (hy : ys ≠ []) (budget : Nat) (loc : Location)
    (xs : List Step) (i : Nat) :
    fs.follow budget loc (xs ++ (List.replicate i .here ++ ys))
      = fs.follow budget loc (xs ++ ys) := by
  induction i with
  | zero => rfl
  | succ i ih =>
      rw [List.replicate_succ, List.cons_append, follow_drop_here (by simp [hy]), ih]

/-- A way through a directory goes on from that directory. -/
theorem walkSteps_append {l : Location} {es : Entries} {ys : List Step}
    {result : Except IoFault Target} (hon : fs.walkSteps onLink l ys = result)
    (hlink : ∀ loc xs, onLink loc xs = .ok (.found l (.directory es)) →
      onLink loc (xs ++ ys) = result)
    {loc : Location} {xs : List Step}
    (h : fs.walkSteps onLink loc xs = .ok (.found l (.directory es))) :
    fs.walkSteps onLink loc (xs ++ ys) = result := by
  induction xs generalizing loc with
  | nil =>
      obtain ⟨e, -, ht⟩ := walkSteps_nil_ok h
      cases ht
      exact hon
  | cons step xs ih =>
      cases step with
      | here => exact ih h
      | up => exact ih h
      | down name =>
          obtain ⟨hlen, hcase⟩ := walkSteps_down_cases h
          obtain ⟨-, -, ht⟩ | ⟨inner, hfind, hrest⟩ | ⟨e, -, hend, -, ht⟩ | ⟨target, hfind, hrest⟩ :=
            hcase
          · cases ht
          · show fs.walkSteps onLink loc (.down name :: (xs ++ ys)) = result
            rw [walkSteps_down_directory hlen hfind]
            exact ih hrest
          · cases ht
            cases hend
          · show fs.walkSteps onLink loc (.down name :: (xs ++ ys)) = result
            rw [walkSteps_down_link hlen hfind, ← List.append_assoc]
            exact hlink _ _ hrest

/-- So does a way on which links are followed, as long as there are none on the rest of it. -/
theorem follow_append_directory {budget : Nat} {loc l : Location} {es : Entries}
    {xs ys : List Step} {result : Except IoFault Target}
    (hon : ∀ onLink, fs.walkSteps onLink l ys = result)
    (h : fs.follow budget loc xs = .ok (.found l (.directory es))) :
    fs.follow budget loc (xs ++ ys) = result := by
  induction budget generalizing loc xs with
  | zero => exact walkSteps_append (hon _) (fun _ _ h => by cases h) h
  | succ budget ih => exact walkSteps_append (hon _) (fun _ _ => ih) h

/-- From a directory names lead down to what stands there. -/
theorem walkSteps_to_end {l : Location} {rel : List ByteString} {e : Entry} (hne : rel ≠ [])
    (hlen : ∀ n ∈ rel, n.size ≤ maxNameBytes) (h : fs.find? (l ++ rel) = some e)
    (hend : e.isEnd = true) :
    fs.walkSteps onLink l (rel.map Step.down) = .ok (.found (l ++ rel) e) := by
  induction rel generalizing l with
  | nil => exact absurd rfl hne
  | cons n rel ih =>
      have hn := hlen n List.mem_cons_self
      cases rel with
      | nil => exact walkSteps_down_end hn h hend
      | cons m rel =>
          -- something stands further down, so a directory stands here
          have hsplit : l ++ n :: m :: rel = (l ++ [n]) ++ m :: rel := by simp
          rw [hsplit] at h ⊢
          have hdir := shapeAt_of_append (shapeAt_of_find? h) (List.cons_ne_nil m rel)
          obtain ⟨f, hf, hshape⟩ := find?_of_shapeAt hdir
          cases f with
          | directory inner =>
              rw [List.map_cons, walkSteps_down_directory hn hf]
              exact ih (List.cons_ne_nil m rel) (fun k hk => hlen k (List.mem_cons_of_mem n hk)) h
          | _ => cases hshape

/-- What stands somewhere stands in a directory. -/
theorem shapeAt_above {loc : Location} {s : Shape} (h : fs.shapeAt loc = some s) :
    fs.shapeAt loc.dropLast = some .directory := by
  rcases List.eq_nil_or_concat loc with rfl | ⟨up, n, rfl⟩
  · rfl
  · rw [List.concat_eq_append] at h ⊢
    rw [List.dropLast_concat]
    exact shapeAt_of_append h (List.cons_ne_nil n [])

/-- A link in a directory is followed from a directory: from the root, or from where it stands. -/
theorem shapeAt_link_start {loc : Location} (hd : fs.shapeAt loc = some .directory) (r : Route) :
    fs.shapeAt (if r.fromRoot then [] else loc) = some .directory := by
  split
  · rfl
  · exact hd

theorem walkSteps_turn_directory {last : Step} (hlast : last.name? = none) {l : Location} {e : Entry}
    (hlink : ∀ loc xs, fs.shapeAt loc = some .directory →
      onLink loc (xs ++ [last]) = .ok (.found l e) → e.shape = .directory)
    {loc : Location} {xs : List Step} (hd : fs.shapeAt loc = some .directory)
    (h : fs.walkSteps onLink loc (xs ++ [last]) = .ok (.found l e)) : e.shape = .directory := by
  induction xs generalizing loc with
  | nil =>
      -- the last step ends where the way stands or above it, and both are directories
      have hend : ∃ loc', fs.shapeAt loc' = some .directory
          ∧ fs.walkSteps onLink loc' [] = .ok (.found l e) := by
        cases last with
        | here => exact ⟨loc, hd, h⟩
        | up => exact ⟨loc.dropLast, shapeAt_above hd, h⟩
        | down name => cases hlast
      obtain ⟨loc', hd', h'⟩ := hend
      obtain ⟨f, hf, ht⟩ := walkSteps_nil_ok h'
      cases ht
      have hs := shapeAt_of_find? hf
      rw [hd'] at hs
      exact (Option.some.inj hs).symm
  | cons step xs ih =>
      cases step with
      | here => exact ih hd h
      | up => exact ih (shapeAt_above hd) h
      | down name =>
          rw [List.cons_append] at h
          obtain ⟨-, ⟨-, hrest, -⟩ | ⟨es, hf, h⟩ | ⟨f, -, -, hrest, -⟩ | ⟨target, -, h⟩⟩ :=
            walkSteps_down_cases h
          · exact absurd hrest (by simp)
          · exact ih (shapeAt_of_find? hf) h
          · exact absurd hrest (by simp)
          · rw [← List.append_assoc] at h
            exact hlink _ _ (shapeAt_link_start hd _) h

/-- A way that ends by staying or going up ends in a directory. -/
theorem follow_turn_directory {last : Step} (hlast : last.name? = none) {budget : Nat}
    {loc : Location} {xs : List Step} {l : Location} {e : Entry}
    (hd : fs.shapeAt loc = some .directory)
    (h : fs.follow budget loc (xs ++ [last]) = .ok (.found l e)) : e.shape = .directory := by
  induction budget generalizing loc xs with
  | zero => exact walkSteps_turn_directory hlast (fun _ _ _ h => by cases h) hd h
  | succ budget ih => exact walkSteps_turn_directory hlast (fun _ _ hd h => ih hd h) hd h

theorem walkSteps_name_here_directory {name : ByteString} {ys : List Step} {l : Location} {e : Entry}
    (hlink : ∀ loc xs, onLink loc (xs ++ .down name :: (ys ++ [.here])) = .ok (.found l e) →
      e.shape = .directory)
    (hhere : ∀ loc xs, fs.shapeAt loc = some .directory →
      onLink loc (xs ++ [.here]) = .ok (.found l e) → e.shape = .directory)
    {loc : Location} {xs : List Step}
    (h : fs.walkSteps onLink loc (xs ++ .down name :: (ys ++ [.here])) = .ok (.found l e)) :
    e.shape = .directory := by
  induction xs generalizing loc with
  | nil =>
      obtain ⟨-, ⟨-, hrest, -⟩ | ⟨es, hf, h⟩ | ⟨f, -, -, hrest, -⟩ | ⟨target, hf, h⟩⟩ :=
        walkSteps_down_cases h
      · exact absurd hrest (by simp)
      · exact walkSteps_turn_directory rfl hhere (shapeAt_of_find? hf) h
      · exact absurd hrest (by simp)
      · -- the link stands in a directory, whatever the way came through before
        have hd : fs.shapeAt loc = some .directory :=
          shapeAt_of_append (shapeAt_of_find? hf) (List.cons_ne_nil name [])
        rw [← List.append_assoc] at h
        exact hhere _ _ (shapeAt_link_start hd _) h
  | cons step xs ih =>
      cases step with
      | here => exact ih h
      | up => exact ih h
      | down m =>
          rw [List.cons_append] at h
          obtain ⟨-, ⟨-, hrest, -⟩ | ⟨es, -, h⟩ | ⟨f, -, -, hrest, -⟩ | ⟨target, -, h⟩⟩ :=
            walkSteps_down_cases h
          · exact absurd hrest (by simp)
          · exact ih h
          · exact absurd hrest (by simp)
          · rw [← List.append_assoc] at h
            exact hlink _ _ h

/-- A way that stays after a name ends in a directory. -/
theorem follow_name_here_directory {budget : Nat} {loc : Location} {xs : List Step} {name : ByteString}
    {ys : List Step} {l : Location} {e : Entry}
    (h : fs.follow budget loc (xs ++ .down name :: (ys ++ [.here])) = .ok (.found l e)) :
    e.shape = .directory := by
  induction budget generalizing loc xs with
  | zero => exact walkSteps_name_here_directory (fun _ _ h => by cases h) (fun _ _ _ h => by cases h) h
  | succ budget ih =>
      exact walkSteps_name_here_directory (fun _ _ h => ih h)
        (fun _ _ hd h => follow_turn_directory rfl hd h) h

theorem walkSteps_vacant_in {d : Location} {n : ByteString}
    (hlink : ∀ loc steps, fs.shapeAt loc = some .directory →
      (∀ m, .down m ∈ steps → Path.isOrdinary m = true) →
      onLink loc steps = .ok (.vacant d n) →
      fs.shapeAt d = some .directory ∧ Path.isOrdinary n = true)
    {loc : Location} {steps : List Step} (hd : fs.shapeAt loc = some .directory)
    (hord : ∀ m, .down m ∈ steps → Path.isOrdinary m = true)
    (h : fs.walkSteps onLink loc steps = .ok (.vacant d n)) :
    fs.shapeAt d = some .directory ∧ Path.isOrdinary n = true := by
  induction steps generalizing loc with
  | nil =>
      obtain ⟨f, -, ht⟩ := walkSteps_nil_ok h
      cases ht
  | cons step rest ih =>
      have hrest : ∀ m, .down m ∈ rest → Path.isOrdinary m = true :=
        fun m hm => hord m (List.mem_cons_of_mem step hm)
      cases step with
      | here => exact ih hd hrest h
      | up => exact ih (shapeAt_above hd) hrest h
      | down name =>
          obtain ⟨-, ⟨-, -, ht⟩ | ⟨es, hf, h⟩ | ⟨f, -, -, -, ht⟩ | ⟨target, -, h⟩⟩ :=
            walkSteps_down_cases h
          · cases ht
            exact ⟨hd, hord _ List.mem_cons_self⟩
          · exact ih (shapeAt_of_find? hf) hrest h
          · cases ht
          · -- the target of the link is spelled too, so its names are ordinary
            refine hlink _ _ (shapeAt_link_start hd _) ?_ h
            intro m hm
            rcases List.mem_append.mp hm with hm | hm
            · exact Route.isOrdinary_of_mem_steps hm
            · exact hrest m hm

/-- A free name is an ordinary name in a directory. -/
theorem follow_vacant_in {budget : Nat} {loc : Location} {steps : List Step} {d : Location}
    {n : ByteString} (hd : fs.shapeAt loc = some .directory)
    (hord : ∀ m, .down m ∈ steps → Path.isOrdinary m = true)
    (h : fs.follow budget loc steps = .ok (.vacant d n)) :
    fs.shapeAt d = some .directory ∧ Path.isOrdinary n = true := by
  induction budget generalizing loc steps with
  | zero => exact walkSteps_vacant_in (fun _ _ _ _ h => by cases h) hd hord h
  | succ budget ih => exact walkSteps_vacant_in (fun _ _ hd hord h => ih hd hord h) hd hord h

end Staying

/-! ## §5. Ways without links -/

section LinkFree

variable {fs : FileSystem} {onLink onLink' : Location → List Step → Except IoFault Target}

theorem LinkFree.find?_ne (hfree : fs.LinkFree) {loc : Location} {target : ByteString}
    (h : fs.find? loc = some (.link target)) : False :=
  hfree loc target (shapeAt_of_find? h)

/-- Without links it does not matter how links are followed. -/
theorem walkSteps_linkFree (hfree : fs.LinkFree) (loc : Location) (steps : List Step) :
    fs.walkSteps onLink loc steps = fs.walkSteps onLink' loc steps := by
  induction steps generalizing loc with
  | nil => rfl
  | cons step rest ih =>
      cases step with
      | here => exact ih loc
      | up => exact ih loc.dropLast
      | down name =>
          rw [walkSteps_down, walkSteps_down, ih]
          -- the two ways of following links are never asked
          cases hf : fs.find? (loc ++ [name]) with
          | none => rfl
          | some e =>
              cases e with
              | link target => exact (hfree.find?_ne hf).elim
              | _ => rfl

theorem follow_linkFree (hfree : fs.LinkFree) (budget : Nat) (loc : Location) (steps : List Step) :
    fs.follow budget loc steps = fs.follow 0 loc steps := by
  cases budget with
  | zero => rfl
  | succ budget => exact walkSteps_linkFree hfree loc steps

/-- Without links a way through a directory goes on from that directory. -/
theorem follow_append (hfree : fs.LinkFree) {loc l : Location} {xs : List Step} {es : Entries}
    (h : fs.follow 0 loc xs = .ok (.found l (.directory es))) (ys : List Step) :
    fs.follow 0 loc (xs ++ ys) = fs.follow 0 l ys := by
  induction xs generalizing loc with
  | nil =>
      obtain ⟨f, -, ht⟩ := walkSteps_nil_ok h
      cases ht
      rfl
  | cons step xs ih =>
      cases step with
      | here => exact ih h
      | up => exact ih h
      | down name =>
          obtain ⟨hlen, ⟨-, -, ht⟩ | ⟨es', hf, h⟩ | ⟨f, -, hend, -, ht⟩ | ⟨target, hf, -⟩⟩ :=
            walkSteps_down_cases h
          · cases ht
          · rw [← ih h]
            exact walkSteps_down_directory hlen hf
          · cases ht
            cases hend
          · exact (hfree.find?_ne hf).elim

/-- Without links a way that leads on through its first part leads that part to a directory. -/
theorem follow_split (hfree : fs.LinkFree) {loc : Location} {xs ys : List Step} {t : Target}
    (hd : fs.shapeAt loc = some .directory) (hy : ys ≠ [])
    (h : fs.follow 0 loc (xs ++ ys) = .ok t) :
    ∃ l es, fs.follow 0 loc xs = .ok (.found l (.directory es)) ∧ fs.follow 0 l ys = .ok t := by
  induction xs generalizing loc with
  | nil =>
      obtain ⟨e, he, hs⟩ := find?_of_shapeAt hd
      cases e with
      | directory es => exact ⟨loc, es, walkSteps_nil he, h⟩
      | _ => cases hs
  | cons step xs ih =>
      cases step with
      | here => exact ih hd h
      | up => exact ih (shapeAt_above hd) h
      | down name =>
          -- more steps follow, so the name is a directory
          obtain ⟨hlen, ⟨-, hrest, -⟩ | ⟨es, hf, h⟩ | ⟨f, -, -, hrest, -⟩ | ⟨target, hf, -⟩⟩ :=
            walkSteps_down_cases h
          · exact absurd hrest (by simp [hy])
          · obtain ⟨l, es', hx, ht⟩ := ih (shapeAt_of_find? hf) h
            refine ⟨l, es', ?_, ht⟩
            rw [← hx]
            exact walkSteps_down_directory hlen hf
          · exact absurd hrest (by simp [hy])
          · exact (hfree.find?_ne hf).elim

/-- Without links a way that never goes up ends at the names that it goes down to. -/
theorem follow_downward (hfree : fs.LinkFree) {loc : Location} {steps : List Step} {t : Target}
    (hup : .up ∉ steps) (h : fs.follow 0 loc steps = .ok t) :
    t.location = loc ++ steps.filterMap Step.name? := by
  induction steps generalizing loc with
  | nil =>
      obtain ⟨e, -, ht⟩ := walkSteps_nil_ok h
      rw [ht]
      simp [Target.location]
  | cons step rest ih =>
      have hrest : .up ∉ rest := fun hm => hup (List.mem_cons_of_mem _ hm)
      cases step with
      | here => exact ih hrest h
      | up => exact absurd List.mem_cons_self hup
      | down name =>
          obtain ⟨-, ⟨-, hnil, ht⟩ | ⟨es, -, h⟩ | ⟨e, -, -, hnil, ht⟩ | ⟨target, hf, -⟩⟩ :=
            walkSteps_down_cases h
          · rw [ht, hnil]
            rfl
          · rw [ih hrest h]
            simp [Step.name?]
          · rw [ht, hnil]
            rfl
          · exact (hfree.find?_ne hf).elim

/-- So a path that never goes up leads to its names. -/
theorem location_of_traced? (hfree : fs.LinkFree) {path : ByteString} {loc : Location}
    (hup : .up ∉ (Route.ofPath path).steps) (h : fs.traced? path = some loc) :
    loc = fs.start (Route.ofPath path) ++ Path.names path := by
  obtain ⟨-, e, hf⟩ := traced?_eq_some.mp h
  rw [follow_linkFree hfree] at hf
  rw [← Path.filterMap_steps]
  exact follow_downward hfree hup hf

theorem location_of_entryAt (hfree : fs.LinkFree) {path : ByteString} {loc : Location} {e : Entry}
    (hup : .up ∉ (Route.ofPath path).steps) (h : fs.entryAt path = .ok (loc, e)) :
    loc = fs.start (Route.ofPath path) ++ Path.names path :=
  location_of_traced? hfree hup (traced?_of_locate? (locate?_eq_some.mpr ⟨e, h⟩))

/-- Without links a way that never goes up and ends in a name leads to what stands there. -/
theorem follow_to_name (hfree : fs.LinkFree) {loc : Location} {xs : List Step} {n : ByteString}
    {e : Entry} (hup : .up ∉ xs) (hlen : ∀ m, .down m ∈ xs ++ [.down n] → m.size ≤ maxNameBytes)
    (h : fs.find? (loc ++ (xs.filterMap Step.name? ++ [n])) = some e) :
    fs.follow 0 loc (xs ++ [.down n])
      = .ok (.found (loc ++ (xs.filterMap Step.name? ++ [n])) e) := by
  induction xs generalizing loc with
  | nil =>
      have hn := hlen n List.mem_cons_self
      show fs.walkSteps _ loc [.down n] = .ok (.found (loc ++ [n]) e)
      cases e with
      | directory es =>
          rw [walkSteps_down_directory hn h]
          exact walkSteps_nil h
      | link target => exact (hfree.find?_ne h).elim
      | file content => exact walkSteps_down_end hn h rfl
      | device => exact walkSteps_down_end hn h rfl
  | cons step xs ih =>
      have hxs : .up ∉ xs := fun hmem => hup (List.mem_cons_of_mem step hmem)
      have hrest := fun m hm => hlen m (List.mem_cons_of_mem step hm)
      cases step with
      | here => exact ih hxs hrest h
      | up => exact absurd List.mem_cons_self hup
      | down m =>
          have hsplit : loc ++ ((.down m :: xs).filterMap Step.name? ++ [n])
              = (loc ++ [m]) ++ (xs.filterMap Step.name? ++ [n]) := by simp [Step.name?]
          rw [hsplit] at h ⊢
          -- more names follow, so the first one is a directory
          obtain ⟨f, hf, hshape⟩ :=
            find?_of_shapeAt (shapeAt_of_append (shapeAt_of_find? h) (by simp))
          cases f with
          | directory es =>
              rw [← ih hxs hrest h]
              exact walkSteps_down_directory (hlen m List.mem_cons_self) hf
          | _ => cases hshape

end LinkFree

/-! ## §6. Files by directory and name -/

theorem WellFormed.start {fs : FileSystem} (hw : fs.WellFormed) (r : Route) :
    fs.shapeAt (fs.start r) = some .directory := by
  unfold FileSystem.start
  split
  · rfl
  · exact hw.working

/-- The steps of a path to a file end in its name: one after it would ask for a directory. -/
theorem steps_of_entryAt {fs : FileSystem} {path name : ByteString} {loc : Location} {e : Entry}
    (hname : Path.fileName? path = some name) (h : fs.entryAt path = .ok (loc, e))
    (he : e.shape ≠ .directory) :
    ∃ i, (Route.ofPath path).steps
      = Route.spelled (Path.directory path).toList ++ (List.replicate i .here ++ [.down name]) := by
  obtain ⟨i, j, hsteps, -, -, -⟩ := Path.steps_of_fileName hname
  obtain ⟨-, hf⟩ := resolve_eq_follow (entryAt_iff.mp h)
  cases j with
  | zero => exact ⟨i, hsteps⟩
  | succ j =>
      rw [hsteps, ← List.append_assoc, List.replicate_succ'] at hf
      exact absurd (follow_name_here_directory hf) he

/-- **A file is reached from its directory by its name.** -/
theorem follow_from_directory {fs : FileSystem} {path name : ByteString} {loc : Location} {e : Entry}
    (hname : Path.fileName? path = some name) (h : fs.entryAt path = .ok (loc, e))
    (he : e.shape ≠ .directory) :
    fs.follow maxLinks (fs.start (Route.ofPath path))
      (Route.spelled (Path.directory path).toList ++ [.down name]) = .ok (.found loc e) := by
  obtain ⟨i, hsteps⟩ := steps_of_entryAt hname h he
  obtain ⟨-, hf⟩ := resolve_eq_follow (entryAt_iff.mp h)
  -- steps that stay before the name are left out
  rwa [hsteps, follow_drop_heres (List.cons_ne_nil _ _)] at hf

/-- In a well-formed file system, a path that leads to a file ends in a name. -/
theorem fileName?_of_entryAt {fs : FileSystem} (hw : fs.WellFormed) {path : ByteString}
    {loc : Location} {e : Entry} (h : fs.entryAt path = .ok (loc, e)) (he : e.shape ≠ .directory) :
    ∃ name, Path.fileName? path = some name := by
  obtain ⟨-, hf⟩ := resolve_eq_follow (entryAt_iff.mp h)
  have hstart := hw.start (Route.ofPath path)
  -- a path that does not end in a name leads to a directory
  rcases List.eq_nil_or_concat (Route.ofPath path).steps with hnil | ⟨xs, last, hcons⟩
  · have hstay : fs.follow maxLinks (fs.start (Route.ofPath path)) ([] ++ [.here])
        = .ok (.found loc e) := by
      rw [← hf, hnil]
      rfl
    exact absurd (follow_turn_directory rfl hstart hstay) he
  · rw [List.concat_eq_append] at hcons
    cases last with
    | down name => exact ⟨name, Path.fileName?_of_steps hcons⟩
    | here =>
        rw [hcons] at hf
        exact absurd (follow_turn_directory rfl hstart hf) he
    | up =>
        rw [hcons] at hf
        exact absurd (follow_turn_directory rfl hstart hf) he

end FileSystem

end TestScaffold
