/-
  TestScaffold.Proofs.Text.FirstOccurrences — lists without repetitions.

  A list without its repetitions holds what the list holds, in the order in which the items
  first occur.  These two properties say it all: there is no other such list.

    * `FirstOccurrences` — the two properties;
    * `FirstOccurrences.nodup`, `FirstOccurrences.unique` — no item comes twice, and the list is
      the only one;
    * `eq_dedupe_iff` — the loop that looks at the items met before finds it;
    * `eq_cleanList_iff` — so a cleaned list is the one of the trimmed entries that are not blank.
-/
import TestScaffold.Proofs.Text.Lists
import Mathlib.Data.List.Basic

namespace TestScaffold.Text

/-! ## §1. First occurrences -/

/-- `kept` holds the items, in the order in which they first occur. -/
structure FirstOccurrences {α : Type} [BEq α] (items kept : List α) : Prop where
  /-- The same items. -/
  mem_iff : ∀ x, x ∈ kept ↔ x ∈ items
  /-- One stands before another if it occurs before it. -/
  ordered : kept.Pairwise fun a b => items.idxOf a < items.idxOf b

namespace FirstOccurrences

variable {α : Type} [BEq α] {items kept kept' : List α}

/-- Each item is kept once. -/
theorem nodup (h : FirstOccurrences items kept) : kept.Nodup := by
  refine h.ordered.imp ?_
  rintro a b hlt rfl
  omega

/-- **There is only one such list.** -/
theorem unique (h : FirstOccurrences items kept) (h' : FirstOccurrences items kept') :
    kept = kept' := by
  have hperm : kept.Perm kept' := by
    refine (List.perm_ext_iff_of_nodup h.nodup h'.nodup).mpr fun x => ?_
    rw [h.mem_iff, h'.mem_iff]
  refine hperm.eq_of_pairwise ?_ h.ordered h'.ordered
  intro a b _ _ hab hba
  omega

end FirstOccurrences

/-! ## §2. The loop -/

section Dedupe

variable {α : Type} [BEq α] [LawfulBEq α]

theorem mem_dedupeFrom {seen items : List α} {x : α} :
    x ∈ dedupeFrom seen items ↔ x ∈ items ∧ x ∉ seen := by
  induction items generalizing seen with
  | nil => simp [dedupeFrom]
  | cons y items ih =>
      by_cases hy : y ∈ seen
      · rw [dedupeFrom, if_pos (List.contains_iff_mem.mpr hy), ih, List.mem_cons]
        constructor
        · exact fun h => ⟨Or.inr h.1, h.2⟩
        · rintro ⟨rfl | hx, hseen⟩
          · exact absurd hy hseen
          · exact ⟨hx, hseen⟩
      · rw [dedupeFrom, if_neg (mt List.contains_iff_mem.mp hy), List.mem_cons, ih, List.mem_cons,
          List.mem_cons, not_or]
        constructor
        · rintro (rfl | ⟨hx, -, hseen⟩)
          · exact ⟨Or.inl rfl, hy⟩
          · exact ⟨Or.inr hx, hseen⟩
        · rintro ⟨rfl | hx, hseen⟩
          · exact Or.inl rfl
          · by_cases hxy : x = y
            · exact Or.inl hxy
            · exact Or.inr ⟨hx, hxy, hseen⟩

/-- From any point on, the loop keeps items in the order of their first occurrences from there. -/
theorem dedupeFrom_ordered (seen items : List α) :
    (dedupeFrom seen items).Pairwise fun a b => items.idxOf a < items.idxOf b := by
  induction items generalizing seen with
  | nil => exact List.Pairwise.nil
  | cons y items ih =>
      -- another item than the first one occurs one place later in the whole list
      have hlater : ∀ seen, y ∈ seen → (dedupeFrom seen items).Pairwise fun a b =>
          (y :: items).idxOf a < (y :: items).idxOf b := by
        intro seen hy
        have hne : ∀ x ∈ dedupeFrom seen items, y ≠ x := by
          rintro x hx rfl
          exact (mem_dedupeFrom.mp hx).2 hy
        refine (ih seen).imp_of_mem fun {a b} ha hb hab => ?_
        rw [List.idxOf_cons_ne _ (hne a ha), List.idxOf_cons_ne _ (hne b hb)]
        omega
      rw [dedupeFrom]
      split
      · rename_i hy
        exact hlater seen (List.contains_iff_mem.mp hy)
      · refine List.Pairwise.cons ?_ (hlater (y :: seen) List.mem_cons_self)
        intro x hx
        have hne : y ≠ x := by
          rintro rfl
          exact (mem_dedupeFrom.mp hx).2 List.mem_cons_self
        rw [List.idxOf_cons_self, List.idxOf_cons_ne _ hne]
        omega

theorem dedupe_firstOccurrences (items : List α) : FirstOccurrences items (dedupe items) where
  mem_iff x := by
    rw [dedupe, mem_dedupeFrom]
    simp
  ordered := dedupeFrom_ordered [] items

/-- **The loop finds the first occurrences.** -/
theorem eq_dedupe_iff {items kept : List α} : kept = dedupe items ↔ FirstOccurrences items kept := by
  constructor
  · rintro rfl
    exact dedupe_firstOccurrences items
  · intro h
    exact h.unique (dedupe_firstOccurrences items)

end Dedupe

/-- **A cleaned list** has the trimmed entries that are not blank, in the order in which they first
    occur. -/
theorem eq_cleanList_iff {items kept : List String} :
    kept = cleanList items ↔ FirstOccurrences (solidEntries items) kept := by
  rw [cleanList_eq, eq_dedupe_iff]

/-- Entries that differ in the white space around them only are one entry, and it stands where the
    first of them stood. -/
example : cleanList ["os", " sys", "\u00a0os", "", "sys "] = ["os", "sys"] := by decide +kernel

end TestScaffold.Text
