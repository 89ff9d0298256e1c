/-
  TestScaffold.Proofs.SettingsFile.Decoding — what a JSON value does to settings.

  The readers go through a text; here the same is said of the value that the text stands
  for, where white space, escapes and the place in the text play no part:

    * `Slot.change?` — what the value of one field changes, if it is taken;
    * `membersChange?`, `groupChange?` — all members of an object;
    * `settings?` — the settings of a whole value;
    * `membersChange?_perm` — the order of members plays no part either;
    * `orderFree_part`, `renderFields_pairwise`, … — for the fields change different things.
-/
import Mathlib.Data.List.Pairwise
import TestScaffold.Proofs.SettingsFile.Grammar
import TestScaffold.Proofs.Text.Split

namespace TestScaffold.SettingsFile

namespace Json.Value

/-- The string that the value is. -/
def text? : Value → Option String
  | .text t => some t
  | _ => none

/-- The truth value that the value is. -/
def flag? : Value → Option Bool
  | .flag b => some b
  | _ => none

/-- The size that the value is: a natural number of one word. -/
def size? : Value → Option Nat
  | .number n => n.natural?.filter (· < sizeBound)
  | _ => none

/-- The strings that the value is a list of. -/
def texts? : Value → Option (List String)
  | .array vs => vs.mapM text?
  | _ => none

end Json.Value

open Json (Value)

/-! ## §1. Fields -/

/-- What a choice changes, given its content. -/
def Variant.change? : Variant σ → Value → Option (σ → σ)
  | .unit choose, .null => some choose
  | .text choose, .text t => some (choose t)
  | _, _ => none

/-- What a name alone chooses, or an object with a name and its content. -/
def choiceChange? (variants : List (String × Variant σ)) : Value → Option (σ → σ)
  | .text name =>
    match variants.lookup name with
    | some (.unit choose) => some choose
    | _ => none
  | .object [(name, content)] => (variants.lookup name).bind (·.change? content)
  | _ => none

/-- What a field changes, given its value. -/
def Slot.change? : Slot σ → Value → Option (σ → σ)
  | .text put, v => v.text?.map put
  | .flag put, v => v.flag?.map put
  | .size put, v => v.size?.map put
  | .texts put, v => v.texts?.map put
  | .choice variants, v => choiceChange? variants v

/-- What a field changes, given its name and value. -/
def fieldChange? (fields : Fields σ) (name : String) (v : Value) : Option (σ → σ) :=
  (fields.lookup name).bind (·.change? v)

/-! ## §2. Groups -/

section Groups

variable {σ : Type} (known : List String) (field : String → Value → Option (σ → σ))

/-- What members change, one after the other. -/
def changes? : List (String × Value) → Option (σ → σ)
  | [] => some id
  | (name, v) :: ms => (field name v).bind fun f => (changes? ms).map (· ∘ f)

/-- Every name is known, and none comes twice or has been seen. -/
def Admitted (seen : List String) (ms : List (String × Value)) : Prop :=
  (names ms).Nodup ∧ ∀ name ∈ names ms, name ∈ known ∧ name ∉ seen

instance (seen : List String) (ms : List (String × Value)) : Decidable (Admitted known seen ms) :=
  inferInstanceAs (Decidable (_ ∧ _))

/-- What the members of an object change, after those seen before. -/
def membersChange? (seen : List String) (ms : List (String × Value)) : Option (σ → σ) :=
  if Admitted known seen ms then changes? field ms else none

/-- What the elements of an array change that stands for an object. -/
def elementsChange? : List String → List Value → Option (σ → σ)
  | _, [] => some id
  | [], _ :: _ => none
  | name :: rest, v :: vs => (field name v).bind fun f => (elementsChange? rest vs).map (· ∘ f)

/-- What the value of a group changes. -/
def groupChange? : Value → Option (σ → σ)
  | .object ms => membersChange? known field [] ms
  | .array vs => elementsChange? field known vs
  | _ => none

end Groups

/-- What one of the two groups changes: all its fields. -/
def partChange? (name : String) (v : Value) : Option (Settings → Settings) :=
  if name = "filter" then
    (groupChange? (names filterFields) (fieldChange? filterFields) v).map
      fun f s => { s with filter := f {} }
  else
    (groupChange? (names renderFields) (fieldChange? renderFields) v).map
      fun f s => { s with render := f {} }

/-- The settings of a value. -/
def settings? (v : Value) : Option Settings :=
  (groupChange? groupNames partChange? v).map (· {})

/-! ## §3. Members -/

section Members

variable {σ : Type} {known : List String} {field : String → Value → Option (σ → σ)}

theorem admitted_cons {seen : List String} {name : String} {v : Value}
    {ms : List (String × Value)} :
    Admitted known seen ((name, v) :: ms)
      ↔ (name ∈ known ∧ name ∉ seen) ∧ Admitted known (name :: seen) ms := by
  simp only [Admitted, names, List.map_cons, List.nodup_cons, List.forall_mem_cons]
  simp only [List.mem_cons, not_or]
  constructor
  · rintro ⟨⟨hnew, hnodup⟩, hname, hrest⟩
    exact ⟨hname, hnodup, fun n hn => ⟨(hrest n hn).1, fun heq => hnew (heq ▸ hn), (hrest n hn).2⟩⟩
  · rintro ⟨hname, hnodup, hrest⟩
    exact ⟨⟨fun hn => (hrest name hn).2.1 rfl, hnodup⟩, hname,
      fun n hn => ⟨(hrest n hn).1, (hrest n hn).2.2⟩⟩

/-- Members are taken one by one. -/
theorem membersChange?_cons {seen : List String} {name : String} {v : Value}
    {ms : List (String × Value)} :
    membersChange? known field seen ((name, v) :: ms)
      = if name ∈ known ∧ name ∉ seen then
          (field name v).bind fun f => (membersChange? known field (name :: seen) ms).map (· ∘ f)
        else none := by
  unfold membersChange?
  by_cases hname : name ∈ known ∧ name ∉ seen
  · rw [if_pos hname]
    by_cases hrest : Admitted known (name :: seen) ms
    · rw [if_pos (admitted_cons.mpr ⟨hname, hrest⟩), if_pos hrest, changes?]
    · rw [if_neg fun h => hrest (admitted_cons.mp h).2, if_neg hrest]
      cases field name v <;> rfl
  · rw [if_neg fun h => hname (admitted_cons.mp h).1, if_neg hname]

/-- Only members with known and different names change anything. -/
theorem admitted_of_membersChange? {seen : List String} {ms : List (String × Value)} {f : σ → σ}
    (h : membersChange? known field seen ms = some f) : Admitted known seen ms := by
  unfold membersChange? at h
  split at h
  · assumption
  · cases h

/-- They only do so all together. -/
theorem isSome_of_changes? {ms : List (String × Value)} {f : σ → σ}
    (h : changes? field ms = some f) : ∀ m ∈ ms, (field m.1 m.2).isSome = true := by
  induction ms generalizing f with
  | nil => simp
  | cons m ms ih =>
      obtain ⟨name, v⟩ := m
      rw [changes?] at h
      obtain ⟨g, hg, hrest⟩ := Option.bind_eq_some_iff.mp h
      obtain ⟨k, hk, -⟩ := Option.map_eq_some_iff.mp hrest
      exact List.forall_mem_cons.mpr ⟨Option.isSome_of_eq_some hg, ih hk⟩

/-- The known fields change different things. -/
def OrderFree (known : List String) (field : String → Value → Option (σ → σ)) : Prop :=
  ∀ n ∈ known, ∀ n' ∈ known, n ≠ n' → ∀ v v' f g, field n v = some f → field n' v' = some g →
    f ∘ g = g ∘ f

theorem changes?_perm (hfree : OrderFree known field) {ms ms' : List (String × Value)}
    (hperm : ms.Perm ms') (hnodup : (names ms).Nodup) (hknown : ∀ name ∈ names ms, name ∈ known) :
    changes? field ms = changes? field ms' := by
  -- on transpositions: two neighbours have different names, so their changes commute
  induction hperm with
  | nil => rfl
  | cons m _ ih =>
      rw [changes?, changes?, ih hnodup.of_cons fun n hn => hknown n (List.mem_cons_of_mem _ hn)]
  | swap m m' ms =>
      have hne : m'.1 ≠ m.1 := fun heq =>
        (List.nodup_cons.mp hnodup).1 (heq ▸ List.mem_cons_self)
      have hm' : m'.1 ∈ known := hknown _ List.mem_cons_self
      have hm : m.1 ∈ known := hknown _ (List.mem_cons_of_mem _ List.mem_cons_self)
      simp only [changes?]
      cases hf : field m'.1 m'.2 with
      | none => cases field m.1 m.2 <;> rfl
      | some f =>
          cases hg : field m.1 m.2 with
          | none => rfl
          | some g =>
              have hcomm := hfree _ hm' _ hm hne _ _ f g hf hg
              simp only [Option.bind_some, Option.map_map]
              cases changes? field ms with
              | none => rfl
              | some k =>
                  show some ((k ∘ g) ∘ f) = some ((k ∘ f) ∘ g)
                  rw [Function.comp_assoc, Function.comp_assoc, hcomm]
  | trans hfirst _ ih ih' =>
      have hnames := hfirst.map Prod.fst
      rw [ih hnodup hknown, ih' (hnames.nodup_iff.mp hnodup)
        fun n hn => hknown n (hnames.mem_iff.mpr hn)]

/-- **The order of the members plays no part.** -/
theorem membersChange?_perm (hfree : OrderFree known field) {seen : List String}
    {ms ms' : List (String × Value)} (hperm : ms.Perm ms') :
    membersChange? known field seen ms = membersChange? known field seen ms' := by
  have hnames := hperm.map Prod.fst
  have hiff : Admitted known seen ms ↔ Admitted known seen ms' := by
    unfold Admitted names
    rw [hnames.nodup_iff]
    exact and_congr_right' (forall_congr' fun n => imp_congr_left hnames.mem_iff)
  unfold membersChange?
  by_cases hadmitted : Admitted known seen ms
  · rw [if_pos hadmitted, if_pos (hiff.mp hadmitted)]
    exact changes?_perm hfree hperm hadmitted.1 fun n hn => (hadmitted.2 n hn).1
  · rw [if_neg hadmitted, if_neg fun h => hadmitted (hiff.mpr h)]

end Members

/-! ## §4. Independent fields -/

/-- The changes that a choice can make. -/
def Variant.Makes : Variant σ → (σ → σ) → Prop
  | .unit choose, f => f = choose
  | .text choose, f => ∃ t, f = choose t

/-- The changes that one of several choices can make. -/
def choiceMakes : List (String × Variant σ) → (σ → σ) → Prop
  | [], _ => False
  | (_, choice) :: rest, f => choice.Makes f ∨ choiceMakes rest f

/-- The changes that a field can make. -/
def Slot.Makes : Slot σ → (σ → σ) → Prop
  | .text put, f => ∃ t, f = put t
  | .flag put, f => ∃ b, f = put b
  | .size put, f => ∃ n, f = put n
  | .texts put, f => ∃ ts, f = put ts
  | .choice variants, f => choiceMakes variants f

theorem Variant.makes_of_change? {choice : Variant σ} {v : Value} {f : σ → σ}
    (h : choice.change? v = some f) : choice.Makes f := by
  unfold Variant.change? at h
  split at h
  · exact (Option.some.inj h).symm
  · exact ⟨_, (Option.some.inj h).symm⟩
  · cases h

theorem choiceMakes_of_lookup {variants : List (String × Variant σ)} {name : String}
    {choice : Variant σ} (hlookup : variants.lookup name = some choice) {f : σ → σ}
    (h : choice.Makes f) : choiceMakes variants f := by
  have hmem := Text.mem_of_lookup hlookup
  clear hlookup
  induction variants with
  | nil => cases hmem
  | cons variant rest ih =>
      rcases List.mem_cons.mp hmem with rfl | hmem
      · exact .inl h
      · exact .inr (ih hmem)

theorem Slot.makes_of_change? {slot : Slot σ} {v : Value} {f : σ → σ}
    (h : slot.change? v = some f) : slot.Makes f := by
  have hput : ∀ {α : Type} {a? : Option α} {put : α → σ → σ}, a?.map put = some f →
      ∃ a, f = put a := by
    intro α a? put hmap
    obtain ⟨a, -, ha⟩ := Option.map_eq_some_iff.mp hmap
    exact ⟨a, ha.symm⟩
  cases slot with
  | text put | flag put | size put | texts put => exact hput h
  | choice variants =>
      change choiceChange? variants v = some f at h
      unfold choiceChange? at h
      split at h
      · split at h
        · rename_i choose hlookup
          exact choiceMakes_of_lookup hlookup (Option.some.inj h).symm
        · cases h
      · obtain ⟨choice, hlookup, hchange⟩ := Option.bind_eq_some_iff.mp h
        exact choiceMakes_of_lookup hlookup (choice.makes_of_change? hchange)
      · cases h

/-- Two fields can be set in either order. -/
def Slot.Commutes (a b : Slot σ) : Prop :=
  ∀ f, a.Makes f → ∀ g, b.Makes g → ∀ s, f (g s) = g (f s)

instance : Std.Symm fun x y : String × Slot σ => x.2.Commutes y.2 :=
  ⟨fun _ _ h g hg f hf s => (h f hf g hg s).symm⟩

theorem orderFree_of_pairwise {fields : Fields σ}
    (h : fields.Pairwise fun x y => x.2.Commutes y.2) :
    OrderFree (names fields) (fieldChange? fields) := by
  intro n _ n' _ hne v v' f g hf hg
  obtain ⟨slot, hslot, hchange⟩ := Option.bind_eq_some_iff.mp hf
  obtain ⟨slot', hslot', hchange'⟩ := Option.bind_eq_some_iff.mp hg
  have hcomm : slot.Commutes slot' :=
    h.forall (Text.mem_of_lookup hslot) (Text.mem_of_lookup hslot')
      fun heq => hne (congrArg Prod.fst heq)
  funext s
  exact hcomm f (slot.makes_of_change? hchange) g (slot'.makes_of_change? hchange') s

theorem filterFields_pairwise : filterFields.Pairwise fun x y => x.2.Commutes y.2 := by
  simp [filterFields, Slot.Commutes, Slot.Makes]

theorem renderFields_pairwise : renderFields.Pairwise fun x y => x.2.Commutes y.2 := by
  simp [renderFields, Slot.Commutes, Slot.Makes, choiceMakes, Variant.Makes, frameworkVariants,
    outcomeVariants, docstringVariants]

theorem filter_of_partChange? {v : Value} {f : Settings → Settings}
    (h : partChange? "filter" v = some f) :
    ∃ g, groupChange? (names filterFields) (fieldChange? filterFields) v = some g
      ∧ f = fun s => { s with filter := g {} } := by
  rw [partChange?, if_pos rfl] at h
  obtain ⟨g, hg, rfl⟩ := Option.map_eq_some_iff.mp h
  exact ⟨g, hg, rfl⟩

theorem render_of_partChange? {v : Value} {f : Settings → Settings}
    (h : partChange? "render" v = some f) :
    ∃ g, groupChange? (names renderFields) (fieldChange? renderFields) v = some g
      ∧ f = fun s => { s with render := g {} } := by
  rw [partChange?, if_neg (by decide)] at h
  obtain ⟨g, hg, rfl⟩ := Option.map_eq_some_iff.mp h
  exact ⟨g, hg, rfl⟩

/-- The two groups change different parts of the settings. -/
theorem orderFree_part : OrderFree groupNames partChange? := by
  intro n hn n' hn' hne v v' f g hf hg
  simp only [groupNames, List.mem_cons, List.not_mem_nil, or_false] at hn hn'
  rcases hn with rfl | rfl <;> rcases hn' with rfl | rfl
  · exact absurd rfl hne
  · obtain ⟨_, -, rfl⟩ := filter_of_partChange? hf
    obtain ⟨_, -, rfl⟩ := render_of_partChange? hg
    rfl
  · obtain ⟨_, -, rfl⟩ := render_of_partChange? hf
    obtain ⟨_, -, rfl⟩ := filter_of_partChange? hg
    rfl
  · exact absurd rfl hne

end TestScaffold.SettingsFile
