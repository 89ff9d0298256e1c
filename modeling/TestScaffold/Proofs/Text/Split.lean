/-
  TestScaffold.Proofs.Text.Split — splitting undone by joining, and the search for a part.

    * `intercalate_splitSep`, `splitSep_intercalate` — splitting and joining are inverse;
    * `append_intercalate_self`, `intercalate_append_self` — a separator before or after every part;
    * `splitSep_append`, `eq_of_append_sep` — a separator splits the two sides apart;
    * `splitSep_concat` — any other item at the end belongs to the last piece;
    * `occursInChars_iff` — `occursInChars` finds exactly the infixes;
    * `infix_intercalate_iff` — a part without separators lies within one of the joined pieces;
    * `mem_of_lookup` — what is found under a text is in the table.
-/
import TestScaffold.Text.Blank

namespace TestScaffold.Text

/-! ## §1. Joining -/

section Joining

variable {α : Type}

/-- With a separator after the last part, every part ends with one. -/
theorem intercalate_append_self (sep : List α) {parts : List (List α)} (h : parts ≠ []) :
    sep.intercalate parts ++ sep = parts.flatMap (· ++ sep) := by
  induction parts with
  | nil => exact absurd rfl h
  | cons part parts ih =>
      by_cases hparts : parts = []
      · simp [hparts, List.intercalate]
      · rw [List.intercalate_cons_of_ne_nil hparts, List.append_assoc, ih hparts]
        simp

/-- With a separator before the first part, every part begins with one. -/
theorem append_intercalate_self (sep : List α) {parts : List (List α)} (h : parts ≠ []) :
    sep ++ sep.intercalate parts = parts.flatMap (sep ++ ·) := by
  induction parts with
  | nil => exact absurd rfl h
  | cons part parts ih =>
      by_cases hparts : parts = []
      · simp [hparts, List.intercalate]
      · rw [List.intercalate_cons_of_ne_nil hparts, List.append_assoc, ih hparts]
        simp

/-- A piece stands in the joined text as it is. -/
theorem infix_intercalate (sep : α) {segments : List (List α)} {p : List α} (h : p ∈ segments) :
    p <:+: List.intercalate [sep] segments := by
  obtain ⟨before, after, rfl⟩ := List.append_of_mem h
  clear h
  -- on the pieces that stand before it
  induction before with
  | nil =>
      cases after with
      | nil =>
          simp only [List.nil_append, List.intercalate_singleton, List.infix_refl]
      | cons q after =>
          rw [List.nil_append, List.intercalate_cons_cons, List.append_assoc]
          exact (List.prefix_append p _).isInfix
  | cons q before ih =>
      obtain ⟨r, rs, hr⟩ := List.exists_cons_of_ne_nil
        (show before ++ p :: after ≠ [] by simp)
      rw [List.cons_append, hr, List.intercalate_cons_cons, ← hr]
      exact ih.trans (List.suffix_append _ _).isInfix

end Joining

/-! ## §2. Splitting -/

section Splitting

variable {α : Type} [DecidableEq α] {sep : α}

theorem splitSep_ne_nil (sep : α) (cs : List α) : splitSep sep cs ≠ [] := by
  cases cs with
  | nil => simp [splitSep]
  | cons c cs =>
      rw [splitSep]
      split
      · simp
      · split <;> simp

theorem splitSep_cons_ne {c : α} (h : c ≠ sep) {cs p : List α} {ps : List (List α)}
    (hs : splitSep sep cs = p :: ps) : splitSep sep (c :: cs) = (c :: p) :: ps := by
  rw [splitSep, if_neg h, hs]

theorem splitSep_cons_sep (sep : α) (cs : List α) :
    splitSep sep (sep :: cs) = [] :: splitSep sep cs := by
  rw [splitSep, if_pos rfl]

/-- **A separator splits the two sides apart.** -/
theorem splitSep_append (a b : List α) :
    splitSep sep (a ++ sep :: b) = splitSep sep a ++ splitSep sep b := by
  induction a with
  | nil => exact splitSep_cons_sep sep b
  | cons c a ih =>
      by_cases hc : c = sep
      · subst hc
        rw [List.cons_append, splitSep_cons_sep, splitSep_cons_sep, ih]
        rfl
      · -- the element joins the first piece of what follows it
        obtain ⟨p, ps, hs⟩ := List.exists_cons_of_ne_nil (splitSep_ne_nil sep a)
        rw [hs, List.cons_append] at ih
        rw [List.cons_append, splitSep_cons_ne hc ih, splitSep_cons_ne hc hs]
        rfl

/-- An element at the end belongs to the last piece. -/
theorem splitSep_concat {b : α} (hb : b ≠ sep) (cs : List α) :
    ∃ ps p, splitSep sep cs = ps ++ [p] ∧ splitSep sep (cs ++ [b]) = ps ++ [p ++ [b]] := by
  induction cs with
  | nil => exact ⟨[], [], rfl, by simp [splitSep, hb]⟩
  | cons c cs ih =>
      obtain ⟨ps, p, hcs, hmore⟩ := ih
      by_cases hc : c = sep
      · subst hc
        refine ⟨[] :: ps, p, ?_, ?_⟩
        · rw [splitSep_cons_sep, hcs, List.cons_append]
        · rw [List.cons_append, splitSep_cons_sep, hmore, List.cons_append]
      · -- the first piece may be the last one too
        cases ps with
        | nil => exact ⟨[], c :: p, splitSep_cons_ne hc hcs, splitSep_cons_ne hc hmore⟩
        | cons q ps => exact ⟨(c :: q) :: ps, p, splitSep_cons_ne hc hcs, splitSep_cons_ne hc hmore⟩

theorem splitSep_of_not_mem {cs : List α} (h : sep ∉ cs) : splitSep sep cs = [cs] := by
  induction cs with
  | nil => rfl
  | cons c cs ih =>
      have hc : c ≠ sep := fun heq => h (heq ▸ List.mem_cons_self)
      exact splitSep_cons_ne hc (ih fun hm => h (List.mem_cons_of_mem c hm))

/-- What stands before the first separator is determined by the whole text. -/
theorem eq_of_append_sep {a b u v : List α} (ha : sep ∉ a) (hb : sep ∉ b)
    (h : a ++ sep :: u = b ++ sep :: v) : a = b ∧ u = v := by
  have hsplit := congrArg (splitSep sep) h
  rw [splitSep_append, splitSep_append, splitSep_of_not_mem ha, splitSep_of_not_mem hb] at hsplit
  have hab : a = b := List.head_eq_of_cons_eq hsplit
  rw [hab] at h
  exact ⟨hab, List.tail_eq_of_cons_eq (List.append_cancel_left h)⟩

theorem not_mem_of_mem_splitSep {cs p : List α} (h : p ∈ splitSep sep cs) : sep ∉ p := by
  induction cs generalizing p with
  | nil =>
      have hp : p = [] := by simpa [splitSep] using h
      rw [hp]
      exact List.not_mem_nil
  | cons c cs ih =>
      by_cases hc : c = sep
      · subst hc
        rw [splitSep_cons_sep] at h
        rcases List.mem_cons.mp h with rfl | h
        · exact List.not_mem_nil
        · exact ih h
      · obtain ⟨q, qs, hs⟩ := List.exists_cons_of_ne_nil (splitSep_ne_nil sep cs)
        rw [splitSep_cons_ne hc hs] at h
        rw [hs] at ih
        rcases List.mem_cons.mp h with rfl | h
        · intro hm
          rcases List.mem_cons.mp hm with heq | hm
          · exact hc heq.symm
          · exact ih List.mem_cons_self hm
        · exact ih (List.mem_cons_of_mem q h)

theorem intercalate_splitSep (sep : α) (cs : List α) :
    List.intercalate [sep] (splitSep sep cs) = cs := by
  induction cs with
  | nil => rfl
  | cons c cs ih =>
      obtain ⟨p, ps, hs⟩ := List.exists_cons_of_ne_nil (splitSep_ne_nil sep cs)
      by_cases hc : c = sep
      · subst hc
        rw [splitSep_cons_sep, hs, List.intercalate_cons_cons, ← hs, ih]
        rfl
      · rw [splitSep_cons_ne hc hs]
        rw [hs] at ih
        -- whether a separator follows the first piece
        cases ps with
        | nil =>
            rw [List.intercalate_singleton] at ih ⊢
            rw [ih]
        | cons q ps =>
            rw [List.intercalate_cons_cons] at ih ⊢
            rw [← ih]
            rfl

theorem splitSep_intercalate {segments : List (List α)} (hne : segments ≠ [])
    (h : ∀ s ∈ segments, sep ∉ s) : splitSep sep (List.intercalate [sep] segments) = segments := by
  induction segments with
  | nil => exact absurd rfl hne
  | cons s rest ih =>
      have hs := splitSep_of_not_mem (h s List.mem_cons_self)
      cases rest with
      | nil => rw [List.intercalate_singleton, hs]
      | cons t rest =>
          have hrest := ih (List.cons_ne_nil t rest) fun r hr => h r (List.mem_cons_of_mem s hr)
          rw [List.intercalate_cons_cons, List.append_assoc, List.singleton_append,
            splitSep_append, hs, hrest]
          rfl

theorem infix_of_mem_splitSep {cs p : List α} (h : p ∈ splitSep sep cs) : p <:+: cs := by
  have hp := infix_intercalate sep h
  rwa [intercalate_splitSep] at hp

/-- Every element but the separator is in one of the segments. -/
theorem exists_mem_splitSep {cs : List α} {c : α} (hc : c ∈ cs) (hsep : c ≠ sep) :
    ∃ p ∈ splitSep sep cs, c ∈ p := by
  induction cs with
  | nil => exact absurd hc List.not_mem_nil
  | cons d cs ih =>
      by_cases hd : d = sep
      · have hlater : c ∈ cs := (List.mem_cons.mp hc).resolve_left (hd ▸ hsep)
        obtain ⟨p, hp, hmem⟩ := ih hlater
        rw [hd, splitSep_cons_sep]
        exact ⟨p, List.mem_cons_of_mem [] hp, hmem⟩
      · obtain ⟨first, rest, hsplit⟩ := List.exists_cons_of_ne_nil (splitSep_ne_nil sep cs)
        rw [splitSep_cons_ne hd hsplit]
        rcases List.mem_cons.mp hc with rfl | hc
        · exact ⟨c :: first, List.mem_cons_self, List.mem_cons_self⟩
        · obtain ⟨p, hp, hmem⟩ := ih hc
          rw [hsplit] at hp
          rcases List.mem_cons.mp hp with rfl | hp
          · exact ⟨d :: p, List.mem_cons_self, List.mem_cons_of_mem d hmem⟩
          · exact ⟨p, List.mem_cons_of_mem _ hp, hmem⟩

end Splitting

/-! ## §3. Searching -/

theorem occursInChars_iff {part text : List Char} :
    occursInChars part text = true ↔ part <:+: text := by
  induction text with
  | nil => simp [occursInChars]
  | cons c text ih =>
      rw [occursInChars, Bool.or_eq_true, List.isPrefixOf_iff_prefix, ih, List.infix_cons_iff]

theorem occursIn_iff {part text : String} :
    occursIn part text = true ↔ part.toList <:+: text.toList :=
  occursInChars_iff

section Parts

variable {α : Type} {sep : α} {part : List α} (hsep : sep ∉ part)
include hsep

/-- A beginning without separators ends before the first one. -/
theorem prefix_of_prefix_append_sep {a b : List α} (h : part <+: a ++ sep :: b) : part <+: a := by
  induction a generalizing part with
  | nil =>
      cases part with
      | nil => exact List.nil_prefix
      | cons c part =>
          have hc : c = sep := (List.cons_prefix_cons.mp h).1
          exact absurd (hc ▸ List.mem_cons_self) hsep
  | cons d a ih =>
      cases part with
      | nil => exact List.nil_prefix
      | cons c part =>
          obtain ⟨hc, hrest⟩ := List.cons_prefix_cons.mp h
          exact List.cons_prefix_cons.mpr ⟨hc, ih (fun hm => hsep (List.mem_cons_of_mem c hm)) hrest⟩

/-- A part without separators lies on one side of each. -/
theorem infix_append_sep {a b : List α} :
    part <:+: a ++ sep :: b ↔ part <:+: a ∨ part <:+: b := by
  constructor
  · intro h
    induction a with
    | nil =>
        rcases List.infix_cons_iff.mp h with h | h
        · exact Or.inl (prefix_of_prefix_append_sep (a := []) hsep h).isInfix
        · exact Or.inr h
    | cons c a ih =>
        -- the part begins here, or it lies further on
        rcases List.infix_cons_iff.mp h with h | h
        · exact Or.inl (prefix_of_prefix_append_sep (a := c :: a) hsep h).isInfix
        · exact (ih h).imp_left List.infix_cons
  · rintro (h | h)
    · exact h.trans (List.prefix_append a _).isInfix
    · exact h.trans ((List.suffix_cons sep b).trans (List.suffix_append a _)).isInfix

/-- **A part without separators occurs in joined pieces exactly if it occurs in one of them.** -/
theorem infix_intercalate_iff {segments : List (List α)} (hne : segments ≠ []) :
    part <:+: [sep].intercalate segments ↔ ∃ s ∈ segments, part <:+: s := by
  induction segments with
  | nil => exact absurd rfl hne
  | cons s rest ih =>
      cases rest with
      | nil => simp
      | cons t rest =>
          rw [List.intercalate_cons_cons, List.append_assoc, List.singleton_append,
            infix_append_sep hsep, ih (List.cons_ne_nil t rest)]
          simp only [List.mem_cons, exists_eq_or_imp]

end Parts

/-! ## §4. Tables -/

theorem mem_of_lookup {α β : Type} [BEq α] [LawfulBEq α] {table : List (α × β)} {name : α} {a : β}
    (h : table.lookup name = some a) : (name, a) ∈ table := by
  obtain ⟨before, after, rfl, -⟩ := List.lookup_eq_some_iff.mp h
  exact List.mem_append_right _ List.mem_cons_self

end TestScaffold.Text
