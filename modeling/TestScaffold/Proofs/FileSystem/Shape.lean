/-
  TestScaffold.Proofs.FileSystem.Shape — a file system as a function of locations.

  What stands at a location, apart from what is below it, is a `Shape`.  The rest of
  the theory sees a file system through `shapeAt` only:

    * `Entries.shapeAt_set` — setting a leaf changes one location and no other;
    * `Entries.set_wellFormed` — and keeps the entries in name order;
    * `Entries.eq_of_shapeAt_eq` — in name order, the shapes determine the entries.
-/
import TestScaffold.FileSystem.Access
import TestScaffold.Proofs.Path.Steps

namespace TestScaffold

/-! ## §1. Shapes -/

/-- What an entry is, apart from the entries below it. -/
inductive Shape where
  /-- A regular file. -/
  | file (content : ByteArray)
  /-- A symbolic link. -/
  | link (target : ByteString)
  /-- A device. -/
  | device
  /-- A directory, whatever it holds. -/
  | directory

instance : DecidableEq Shape
  | .file a, .file b => decidable_of_decidable_of_iff (p := a.data = b.data) (by simp [ByteArray.ext_iff])
  | .link a, .link b => decidable_of_decidable_of_iff (p := a = b) (by simp)
  | .device, .device => isTrue rfl
  | .directory, .directory => isTrue rfl
  | .file _, .link _ | .file _, .device | .file _, .directory => isFalse (by simp)
  | .link _, .file _ | .link _, .device | .link _, .directory => isFalse (by simp)
  | .device, .file _ | .device, .link _ | .device, .directory => isFalse (by simp)
  | .directory, .file _ | .directory, .link _ | .directory, .device => isFalse (by simp)

namespace Entry

/-- The shape of an entry. -/
def shape : Entry → Shape
  | .file content => .file content
  | .link target => .link target
  | .device => .device
  | .directory _ => .directory

/-- Whether nothing is below an entry. -/
def isLeaf : Entry → Bool
  | .directory es => es.isEmpty
  | _ => true

/-- The entry at a location below an entry; the empty location is the entry itself. -/
def below? : Entry → Location → Option Entry
  | .directory es, loc => Entries.find? es loc
  | e, [] => some e
  | _, _ :: _ => none

theorem below?_nil (e : Entry) : e.below? [] = some e := by
  cases e <;> rfl

theorem below?_of_isLeaf {e : Entry} (h : e.isLeaf = true) (n : ByteString) (ns : Location) :
    e.below? (n :: ns) = none := by
  cases e with
  | directory es =>
      have hes : es = [] := List.isEmpty_iff.mp h
      subst hes
      rfl
  | _ => rfl

/-- Only a directory has something below it. -/
theorem shape_of_below? {e f : Entry} {n : ByteString} {ns : Location}
    (h : e.below? (n :: ns) = some f) : e.shape = .directory := by
  cases e with
  | directory es => rfl
  | _ => exact absurd h (by simp [below?])

theorem below?_directory (es : Entries) (loc : Location) :
    (Entry.directory es).below? loc = Entries.find? es loc := by
  rw [below?]

/-- What is no directory has none at or below it. -/
theorem below?_ne_directory {e : Entry} (h : e.shape ≠ .directory) (loc : Location) (es : Entries) :
    e.below? loc ≠ some (.directory es) := by
  intro hbelow
  cases loc with
  | nil =>
      rw [below?_nil] at hbelow
      cases hbelow
      exact h rfl
  | cons n ns => exact h (shape_of_below? hbelow)

end Entry

namespace Entries

/-- What stands at a location below these entries. -/
def shapeAt (es : Entries) (loc : Location) : Option Shape :=
  (Entries.find? es loc).map Entry.shape

@[simp] theorem shapeAt_nil (es : Entries) : shapeAt es [] = some .directory := rfl

theorem find?_cons (es : Entries) (n : ByteString) (ns : Location) :
    Entries.find? es (n :: ns) = (es.lookup n).bind fun e => e.below? ns := by
  rw [Entries.find?]
  cases es.lookup n with
  | none => rfl
  | some e => cases e <;> cases ns <;> rfl

theorem find?_append (es : Entries) (a b : Location) :
    Entries.find? es (a ++ b) = (Entries.find? es a).bind fun e => e.below? b := by
  induction a generalizing es with
  | nil => rfl
  | cons n a ih =>
      rw [List.cons_append, find?_cons, find?_cons]
      cases es.lookup n with
      | none => rfl
      | some e =>
          cases e with
          | directory inner => exact ih inner
          | _ => cases a <;> cases b <;> rfl

theorem shapeAt_cons (es : Entries) (n : ByteString) (ns : Location) :
    shapeAt es (n :: ns) = ((es.lookup n).bind fun e => e.below? ns).map Entry.shape := by
  rw [shapeAt, find?_cons]

/-- What is above an entry is a directory. -/
theorem shapeAt_of_append {es : Entries} {a b : Location} {s : Shape}
    (h : shapeAt es (a ++ b) = some s) (hb : b ≠ []) : shapeAt es a = some .directory := by
  obtain ⟨n, ns, rfl⟩ := List.exists_cons_of_ne_nil hb
  rw [shapeAt, find?_append] at h
  rw [shapeAt]
  cases ha : Entries.find? es a with
  | none => simp [ha] at h
  | some e =>
      simp only [ha, Option.bind_some, Option.map_eq_some_iff] at h
      obtain ⟨f, hf, -⟩ := h
      simp [Entry.shape_of_below? hf]

/-! ## §2. Setting one entry -/

theorem lookup_cons_ne {m n : ByteString} (h : m ≠ n) (e : Entry) (es : Entries) :
    List.lookup m ((n, e) :: es) = es.lookup m := by
  have hb : (m == n) = false := by simpa using h
  rw [List.lookup_cons, hb]

theorem lookup_setName_self (n : ByteString) (e : Entry) (es : Entries) :
    (setName n e es).lookup n = some e := by
  induction es with
  | nil => exact List.lookup_cons_self
  | cons p es ih =>
      obtain ⟨m, f⟩ := p
      simp only [setName]
      split
      · exact List.lookup_cons_self
      · split
        · exact List.lookup_cons_self
        · rename_i hne _
          rw [lookup_cons_ne hne, ih]

theorem lookup_setName_ne {m n : ByteString} (h : m ≠ n) (e : Entry) (es : Entries) :
    (setName n e es).lookup m = es.lookup m := by
  induction es with
  | nil => exact lookup_cons_ne h e []
  | cons p es ih =>
      obtain ⟨k, f⟩ := p
      simp only [setName]
      split
      · rename_i hk
        subst hk
        rw [lookup_cons_ne h, lookup_cons_ne h]
      · split
        · exact lookup_cons_ne h e _
        · rw [List.lookup_cons, List.lookup_cons, ih]

theorem shapeAt_setName_self (es : Entries) (n : ByteString) (e : Entry) (ns : Location) :
    shapeAt (setName n e es) (n :: ns) = (e.below? ns).map Entry.shape := by
  rw [shapeAt_cons, lookup_setName_self]
  rfl

theorem shapeAt_setName_ne (es : Entries) {m n : ByteString} (h : m ≠ n) (e : Entry) (ns : Location) :
    shapeAt (setName n e es) (m :: ns) = shapeAt es (m :: ns) := by
  rw [shapeAt_cons, shapeAt_cons, lookup_setName_ne h]

/-- Nothing is below a location that holds no directory. -/
theorem shapeAt_below_none {es : Entries} {loc : Location}
    (h : shapeAt es loc ≠ some .directory) (n : ByteString) (ns : Location) :
    shapeAt es (loc ++ n :: ns) = none := by
  cases hs : shapeAt es (loc ++ n :: ns) with
  | none => rfl
  | some s => exact absurd (shapeAt_of_append hs (List.cons_ne_nil n ns)) h

/-- Setting a leaf under a name that is no directory. -/
theorem shapeAt_setName_leaf {es : Entries} {n : ByteString} {e : Entry} (hleaf : e.isLeaf = true)
    (hfree : shapeAt es [n] ≠ some .directory) (loc : Location) :
    shapeAt (setName n e es) loc = if loc = [n] then some e.shape else shapeAt es loc := by
  cases loc with
  | nil => simp
  | cons m ms =>
      by_cases hm : m = n
      · subst hm
        rw [shapeAt_setName_self]
        cases ms with
        | nil => simp [Entry.below?_nil]
        | cons k ks =>
            -- nothing stood below the name before, and nothing is below a leaf
            have hk : shapeAt es (m :: k :: ks) = none := shapeAt_below_none hfree k ks
            simp [Entry.below?_of_isLeaf hleaf, hk]
      · rw [shapeAt_setName_ne es hm]
        simp [hm]

/-- **Setting a leaf** where no directory stands changes that location, if its directory is there,
    and nothing else. -/
theorem shapeAt_set {es : Entries} {loc : Location} {e : Entry} (hleaf : e.isLeaf = true)
    (hfree : shapeAt es loc ≠ some .directory) (loc' : Location) :
    shapeAt (set es loc e) loc'
      = if loc' = loc ∧ shapeAt es loc.dropLast = some .directory then some e.shape
        else shapeAt es loc' := by
  induction loc generalizing es loc' with
  | nil => exact absurd (shapeAt_nil es) hfree
  | cons n loc ih =>
      cases loc with
      | nil =>
          show shapeAt (setName n e es) loc' = _
          rw [shapeAt_setName_leaf hleaf hfree]
          simp
      | cons k ks =>
          have hdrop : (n :: k :: ks).dropLast = n :: (k :: ks).dropLast := rfl
          rw [hdrop, Entries.set]
          split
          · rename_i inner hn
            have hin : ∀ ns, shapeAt es (n :: ns) = shapeAt inner ns := by
              intro ns
              rw [shapeAt_cons, hn]
              rfl
            cases loc' with
            | nil => simp
            | cons m ms =>
                by_cases hm : m = n
                · subst hm
                  rw [shapeAt_setName_self, hin, hin]
                  show shapeAt (set inner (k :: ks) e) ms = _
                  rw [ih (by rwa [← hin])]
                  simp
                · rw [shapeAt_setName_ne es hm]
                  simp [hm]
          · rename_i hn
            -- the first name is no directory, so there is nowhere to set the entry
            have hno : shapeAt es (n :: (k :: ks).dropLast) ≠ some .directory := by
              rw [shapeAt_cons]
              cases hl : es.lookup n with
              | none => simp
              | some f =>
                  cases f with
                  | directory inner => exact absurd hl (hn inner)
                  | _ => cases (k :: ks).dropLast <;> simp [Entry.below?, Entry.shape]
            simp [hno]

end Entries

/-! ## §3. Name order -/

/-- A name that an entry can have. -/
def validName (name : ByteString) : Bool :=
  Path.isOrdinary name && decide (name.size ≤ maxNameBytes)

theorem validName_iff {name : ByteString} :
    validName name = true ↔ Path.isOrdinary name = true ∧ name.size ≤ maxNameBytes := by
  simp [validName]

mutual

/-- Whether the directories at and below an entry are in name order, each name valid and there once. -/
def Entry.isWellFormed : Entry → Bool
  | .directory es => entriesWellFormed es
  | _ => true

/-- Whether entries are in name order, and so on below them. -/
def entriesWellFormed : List (ByteString × Entry) → Bool
  | [] => true
  | (name, entry) :: rest =>
    validName name && rest.all (fun p => decide (name < p.1)) && entry.isWellFormed
      && entriesWellFormed rest

end

namespace Entries

theorem wellFormed_cons {n : ByteString} {e : Entry} {es : Entries} :
    entriesWellFormed ((n, e) :: es) = true ↔
      validName n = true ∧ (∀ p ∈ es, n < p.1) ∧ e.isWellFormed = true
        ∧ entriesWellFormed es = true := by
  simp only [entriesWellFormed, Bool.and_eq_true, List.all_eq_true, decide_eq_true_eq]
  constructor
  · rintro ⟨⟨⟨h1, h2⟩, h3⟩, h4⟩
    exact ⟨h1, h2, h3, h4⟩
  · rintro ⟨h1, h2, h3, h4⟩
    exact ⟨⟨⟨h1, h2⟩, h3⟩, h4⟩

theorem wellFormed_of_mem {es : Entries} {n : ByteString} {e : Entry}
    (h : entriesWellFormed es = true) (hm : (n, e) ∈ es) :
    validName n = true ∧ e.isWellFormed = true := by
  induction es with
  | nil => exact absurd hm List.not_mem_nil
  | cons p es ih =>
      obtain ⟨m, f⟩ := p
      obtain ⟨hv, -, hf, hes⟩ := wellFormed_cons.mp h
      rcases List.mem_cons.mp hm with heq | hm
      · cases heq
        exact ⟨hv, hf⟩
      · exact ih hes hm

/-- The names in a list with one entry set are the old names and the new one. -/
theorem mem_setName {n : ByteString} {e : Entry} {es : Entries} {p : ByteString × Entry}
    (h : p ∈ setName n e es) : p = (n, e) ∨ p ∈ es := by
  induction es with
  | nil => exact Or.inl (List.mem_singleton.mp h)
  | cons q es ih =>
      obtain ⟨m, f⟩ := q
      simp only [setName] at h
      split at h
      · rcases List.mem_cons.mp h with h | h
        · exact Or.inl h
        · exact Or.inr (List.mem_cons_of_mem _ h)
      · split at h
        · rcases List.mem_cons.mp h with h | h
          · exact Or.inl h
          · exact Or.inr h
        · rcases List.mem_cons.mp h with h | h
          · exact Or.inr (h ▸ List.mem_cons_self)
          · rcases ih h with h | h
            · exact Or.inl h
            · exact Or.inr (List.mem_cons_of_mem _ h)

theorem setName_wellFormed {n : ByteString} {e : Entry} {es : Entries} (hn : validName n = true)
    (he : e.isWellFormed = true) (h : entriesWellFormed es = true) :
    entriesWellFormed (setName n e es) = true := by
  induction es with
  | nil => exact wellFormed_cons.mpr ⟨hn, fun p hp => absurd hp List.not_mem_nil, he, rfl⟩
  | cons q es ih =>
      obtain ⟨m, f⟩ := q
      obtain ⟨hm, hlt, hf, hes⟩ := wellFormed_cons.mp h
      simp only [setName]
      split
      · rename_i hnm
        subst hnm
        exact wellFormed_cons.mpr ⟨hn, hlt, he, hes⟩
      · rename_i hnm
        split
        · rename_i hlt'
          refine wellFormed_cons.mpr ⟨hn, ?_, he, h⟩
          intro p hp
          rcases List.mem_cons.mp hp with hp | hp
          · rw [hp]
            exact hlt'
          · exact ByteString.lt_trans hlt' (hlt p hp)
        · rename_i hge
          -- the new name is neither the first one nor before it
          have hmn : m < n := by
            rcases Decidable.em (m < n) with hmn | hmn
            · exact hmn
            · exact absurd (ByteString.eq_of_not_lt hge hmn) hnm
          refine wellFormed_cons.mpr ⟨hm, ?_, hf, ih hes⟩
          intro p hp
          rcases mem_setName hp with hp | hp
          · rw [hp]
            exact hmn
          · exact hlt p hp

/-- **Name order is kept** when a well-formed entry is set under a valid name. -/
theorem set_wellFormed {es : Entries} {loc : Location} {e : Entry}
    (hloc : ∀ n ∈ loc.getLast?, validName n = true) (he : e.isWellFormed = true)
    (h : entriesWellFormed es = true) : entriesWellFormed (set es loc e) = true := by
  induction loc generalizing es with
  | nil => exact h
  | cons n loc ih =>
      cases loc with
      | nil => exact setName_wellFormed (hloc n rfl) he h
      | cons k ks =>
          rw [Entries.set]
          split
          · rename_i inner hn
            obtain ⟨hv, hin⟩ := wellFormed_of_mem h (Text.mem_of_lookup hn)
            exact setName_wellFormed hv (ih (by simpa using hloc) hin) h
          · exact h

/-- Every step of a location at which something stands is a valid name. -/
theorem validName_of_shapeAt {es : Entries} {loc : Location} {s : Shape}
    (h : entriesWellFormed es = true) (hs : shapeAt es loc = some s) :
    ∀ n ∈ loc, validName n = true := by
  induction loc generalizing es with
  | nil => exact fun n hn => absurd hn List.not_mem_nil
  | cons m loc ih =>
      rw [shapeAt_cons] at hs
      cases hl : es.lookup m with
      | none => simp [hl] at hs
      | some e =>
          obtain ⟨hv, he⟩ := wellFormed_of_mem h (Text.mem_of_lookup hl)
          intro n hn
          rcases List.mem_cons.mp hn with rfl | hn
          · exact hv
          · cases e with
            | directory inner =>
                rw [hl] at hs
                exact ih he hs n hn
            | _ =>
                -- a leaf is the end of the location
                cases loc with
                | nil => exact absurd hn List.not_mem_nil
                | cons k ks => simp [hl, Entry.below?] at hs

theorem isOrdinary_of_find? {es : Entries} {loc : Location} {e : Entry}
    (h : entriesWellFormed es = true) (he : Entries.find? es loc = some e) :
    ∀ n ∈ loc, Path.isOrdinary n = true := by
  have hs : shapeAt es loc = some e.shape := by
    rw [shapeAt, he]
    rfl
  exact fun n hn => (validName_iff.mp (validName_of_shapeAt h hs n hn)).1

/-- Every entry below well-formed entries is well-formed. -/
theorem wellFormed_of_find? {es : Entries} {loc : Location} {e : Entry}
    (h : entriesWellFormed es = true) (he : Entries.find? es loc = some e) :
    e.isWellFormed = true := by
  induction loc generalizing es with
  | nil =>
      cases he
      exact h
  | cons n loc ih =>
      rw [find?_cons] at he
      obtain ⟨f, hf, hbelow⟩ := Option.bind_eq_some_iff.mp he
      have hwf := (wellFormed_of_mem h (Text.mem_of_lookup hf)).2
      cases f with
      | directory inner => exact ih hwf hbelow
      | _ =>
          cases loc with
          | nil =>
              cases hbelow
              exact hwf
          | cons m loc => cases hbelow

/-- The first name has an entry, and a list in name order has no other entry of that name. -/
theorem shapeAt_head {n : ByteString} {e : Entry} {es : Entries} (loc : Location) :
    shapeAt ((n, e) :: es) (n :: loc) = (e.below? loc).map Entry.shape := by
  rw [shapeAt_cons, List.lookup_cons_self]
  rfl

theorem shapeAt_tail {m n : ByteString} (h : m ≠ n) (e : Entry) (es : Entries) (loc : Location) :
    shapeAt ((n, e) :: es) (m :: loc) = shapeAt es (m :: loc) := by
  rw [shapeAt_cons, shapeAt_cons, lookup_cons_ne h]

theorem lookup_none_of_lt {n : ByteString} {es : Entries} (h : ∀ p ∈ es, n < p.1) :
    es.lookup n = none := by
  refine List.lookup_eq_none_iff.mpr ?_
  intro p hp
  have hne : n ≠ p.1 := fun heq => ByteString.lt_irrefl p.1 (heq ▸ h p hp)
  simpa using hne

theorem shapeAt_none_of_lt {n : ByteString} {es : Entries} (h : ∀ p ∈ es, n < p.1) (loc : Location) :
    shapeAt es (n :: loc) = none := by
  rw [shapeAt_cons, lookup_none_of_lt h]
  rfl

/-- A name that stands in one of two lists with the same shapes is not before the first name of the
    other. -/
theorem not_lt_of_shapeAt_eq {n m : ByteString} {e f : Entry} {es fs : Entries}
    (hf : ∀ p ∈ fs, m < p.1)
    (h : ∀ loc, shapeAt ((n, e) :: es) loc = shapeAt ((m, f) :: fs) loc) : ¬ n < m := by
  intro hlt
  have hall : ∀ p ∈ (m, f) :: fs, n < p.1 := by
    intro p hp
    rcases List.mem_cons.mp hp with rfl | hp
    · exact hlt
    · exact ByteString.lt_trans hlt (hf p hp)
  have hn := h [n]
  rw [shapeAt_head, shapeAt_none_of_lt hall, Entry.below?_nil] at hn
  exact absurd hn (by simp)

end Entries

mutual

theorem Entry.eq_of_below?_shape (e e' : Entry) (hw : e.isWellFormed = true)
    (hw' : e'.isWellFormed = true)
    (h : ∀ loc, (e.below? loc).map Entry.shape = (e'.below? loc).map Entry.shape) : e = e' := by
  have hnil := h []
  rw [Entry.below?_nil, Entry.below?_nil] at hnil
  match e, e' with
  | .directory es, .directory es' => rw [eq_of_shapeAt_eq es es' hw hw' h]
  | .file c, .file c' => simp_all [Entry.shape]
  | .link t, .link t' => simp_all [Entry.shape]
  | .device, .device => rfl
  | .file _, .link _ | .file _, .device | .file _, .directory _
  | .link _, .file _ | .link _, .device | .link _, .directory _
  | .device, .file _ | .device, .link _ | .device, .directory _
  | .directory _, .file _ | .directory _, .link _ | .directory _, .device =>
      simp [Entry.shape] at hnil

/-- **In name order, the shapes determine the entries.** -/
theorem eq_of_shapeAt_eq (es es' : List (ByteString × Entry)) (hw : entriesWellFormed es = true)
    (hw' : entriesWellFormed es' = true)
    (h : ∀ loc, Entries.shapeAt es loc = Entries.shapeAt es' loc) : es = es' := by
  match es, es' with
  | [], [] => rfl
  | [], (n, e) :: rest =>
      have hn := h [n]
      rw [Entries.shapeAt_head, Entry.below?_nil] at hn
      exact absurd hn (by simp [Entries.shapeAt, Entries.find?])
  | (n, e) :: rest, [] =>
      have hn := h [n]
      rw [Entries.shapeAt_head, Entry.below?_nil] at hn
      exact absurd hn (by simp [Entries.shapeAt, Entries.find?])
  | (n, e) :: rest, (m, f) :: rest' =>
      obtain ⟨-, hlt, he, hes⟩ := Entries.wellFormed_cons.mp hw
      obtain ⟨-, hlt', hf, hes'⟩ := Entries.wellFormed_cons.mp hw'
      -- the first names are the least ones, so they agree
      have hnm : n = m :=
        ByteString.eq_of_not_lt (Entries.not_lt_of_shapeAt_eq hlt' h)
          (Entries.not_lt_of_shapeAt_eq hlt fun loc => (h loc).symm)
      subst hnm
      have hef : e = f := by
        refine Entry.eq_of_below?_shape e f he hf ?_
        intro loc
        have hloc := h (n :: loc)
        rwa [Entries.shapeAt_head, Entries.shapeAt_head] at hloc
      have hrest : rest = rest' := by
        refine eq_of_shapeAt_eq rest rest' hes hes' ?_
        intro loc
        cases loc with
        | nil => rfl
        | cons k loc =>
            by_cases hk : k = n
            · -- the first name does not come again
              subst hk
              rw [Entries.shapeAt_none_of_lt hlt, Entries.shapeAt_none_of_lt hlt']
            · have hloc := h (k :: loc)
              rwa [Entries.shapeAt_tail hk, Entries.shapeAt_tail hk] at hloc
      rw [hef, hrest]

end

/-! ## §4. File systems -/

mutual

/-- Whether there is no link at or below an entry. -/
def Entry.isLinkFree : Entry → Bool
  | .link _ => false
  | .directory es => entriesLinkFree es
  | _ => true

/-- Whether there is no link in or below a list of entries. -/
def entriesLinkFree : List (ByteString × Entry) → Bool
  | [] => true
  | (_, entry) :: rest => entry.isLinkFree && entriesLinkFree rest

end

namespace FileSystem

/-- What stands at a location. -/
def shapeAt (fs : FileSystem) (loc : Location) : Option Shape :=
  Entries.shapeAt fs.top loc

/-- What holds of every file system: directories in name order, and a working directory that is
    there. -/
structure WellFormed (fs : FileSystem) : Prop where
  /-- Every directory is in name order, each name valid and there once. -/
  ordered : entriesWellFormed fs.top = true
  /-- The working directory is a directory. -/
  working : fs.shapeAt fs.cwd = some .directory

theorem WellFormed.below {fs : FileSystem} (hw : fs.WellFormed) {loc : Location} {es : Entries}
    (h : fs.find? loc = some (.directory es)) : entriesWellFormed es = true :=
  Entries.wellFormed_of_find? hw.ordered h

/-- No location holds a link. -/
def LinkFree (fs : FileSystem) : Prop :=
  ∀ loc target, fs.shapeAt loc ≠ some (.link target)

theorem shapeAt_of_find? {fs : FileSystem} {loc : Location} {e : Entry}
    (h : fs.find? loc = some e) : fs.shapeAt loc = some e.shape := by
  show (fs.find? loc).map Entry.shape = _
  rw [h]
  rfl

theorem find?_of_shapeAt {fs : FileSystem} {loc : Location} {s : Shape}
    (h : fs.shapeAt loc = some s) : ∃ e, fs.find? loc = some e ∧ e.shape = s :=
  Option.map_eq_some_iff.mp h

theorem find?_eq_none_iff {fs : FileSystem} {loc : Location} :
    fs.find? loc = none ↔ fs.shapeAt loc = none := by
  show _ ↔ (fs.find? loc).map Entry.shape = none
  rw [Option.map_eq_none_iff]

theorem shapeAt_of_append {fs : FileSystem} {a b : Location} {s : Shape}
    (h : fs.shapeAt (a ++ b) = some s) (hb : b ≠ []) : fs.shapeAt a = some .directory :=
  Entries.shapeAt_of_append h hb

/-- What stands below a directory stands among its entries. -/
theorem shapeAt_below {fs : FileSystem} {loc : Location} {es : Entries}
    (h : fs.find? loc = some (.directory es)) (rel : Location) :
    fs.shapeAt (loc ++ rel) = Entries.shapeAt es rel := by
  show (Entries.find? fs.top (loc ++ rel)).map Entry.shape = _
  rw [Entries.find?_append]
  show ((fs.find? loc).bind _).map Entry.shape = _
  rw [h]
  rfl

theorem shapeAt_set {fs : FileSystem} {loc : Location} {e : Entry} (hleaf : e.isLeaf = true)
    (hfree : fs.shapeAt loc ≠ some .directory) (loc' : Location) :
    (fs.set loc e).shapeAt loc'
      = if loc' = loc ∧ fs.shapeAt loc.dropLast = some .directory then some e.shape
        else fs.shapeAt loc' :=
  Entries.shapeAt_set hleaf hfree loc'

/-- Well-formed file systems with the same shapes and the same working directory are equal. -/
theorem eq_of_shapes {fs fs' : FileSystem} (hw : fs.WellFormed) (hw' : fs'.WellFormed)
    (hcwd : fs.cwd = fs'.cwd) (h : ∀ loc, fs.shapeAt loc = fs'.shapeAt loc) : fs = fs' := by
  obtain ⟨top, cwd⟩ := fs
  obtain ⟨top', cwd'⟩ := fs'
  cases hcwd
  rw [eq_of_shapeAt_eq top top' hw.ordered hw'.ordered h]

end FileSystem

mutual

theorem Entry.shape_below?_ne_link (e : Entry) (h : e.isLinkFree = true) (loc : Location)
    (target : ByteString) : (e.below? loc).map Entry.shape ≠ some (.link target) := by
  match e with
  | .directory es => exact shapeAt_ne_link es h loc target
  | .link _ => exact absurd h (by simp [Entry.isLinkFree])
  | .file _ => cases loc <;> simp [Entry.below?, Entry.shape]
  | .device => cases loc <;> simp [Entry.below?, Entry.shape]

theorem shapeAt_ne_link (es : List (ByteString × Entry)) (h : entriesLinkFree es = true)
    (loc : Location) (target : ByteString) : Entries.shapeAt es loc ≠ some (.link target) := by
  match es, loc with
  | _, [] => simp
  | [], n :: loc => simp [Entries.shapeAt, Entries.find?]
  | (n, e) :: rest, m :: loc =>
      simp only [entriesLinkFree, Bool.and_eq_true] at h
      by_cases hm : m = n
      · subst hm
        rw [Entries.shapeAt_head]
        exact Entry.shape_below?_ne_link e h.1 loc target
      · rw [Entries.shapeAt_tail hm]
        exact shapeAt_ne_link rest h.2 (m :: loc) target

end

/-- A check of all entries shows that there is no link. -/
theorem FileSystem.linkFree_of_entries {fs : FileSystem} (h : entriesLinkFree fs.top = true) :
    fs.LinkFree :=
  fun loc target => shapeAt_ne_link fs.top h loc target

end TestScaffold
