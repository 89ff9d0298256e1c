/-
  TestScaffold.Proofs.Text.Lists — trimmed texts, and the lists that are made of them.

  What trimming leaves has no white space at its ends, and trimming leaves such a text
  alone.  A cleaned list is made of such texts, so cleaning a part of a list before the
  whole changes nothing, and such texts come back from an answer that joins them.

    * `Tight` — no white space at either end; `tight_iff` — trimming changes nothing;
    * `trim_trim`, `trim_append_newline` — trimming twice, and trimming a line;
    * `cleanList_append` — a part of a list may be cleaned beforehand;
    * `splitList_trim`, `splitList_eq_nil_iff` — the entries of an answer do not depend on white space
      at its ends, and there are none if everything between the separators is white space;
    * `splitList_joinList` — entries are read back from their joined text;
    * `entry_of_mem_splitList`, `splitList_append` — what the entries of an answer are, and that a
      separator puts the entries of two answers in a row;
    * `splitList_faithful` — so joining and splitting lose nothing.
-/
import TestScaffold.Proofs.Text.Split
import Mathlib.Data.List.Induction
import Mathlib.Data.List.TakeWhile

namespace TestScaffold.Text

/-! ## §1. Trimming -/

/-- No white space at either end. -/
structure Tight (cs : List Char) : Prop where
  /-- The first character is none. -/
  first : ∀ c ∈ cs.head?, isBlank c = false
  /-- The last character is none. -/
  last : ∀ c ∈ cs.getLast?, isBlank c = false

theorem dropWhile_of_head {cs : List Char} (h : ∀ c ∈ cs.head?, isBlank c = false) :
    cs.dropWhile isBlank = cs := by
  cases cs with
  | nil => rfl
  | cons c cs => rw [List.dropWhile_cons_of_neg (by simp [h c rfl])]

theorem head_dropWhile (cs : List Char) : ∀ c ∈ (cs.dropWhile isBlank).head?, isBlank c = false := by
  intro c hc
  have hhead := List.head?_dropWhile_not isBlank cs
  rw [Option.mem_def.mp hc] at hhead
  exact hhead

/-- A text without white space at its ends is left alone. -/
theorem Tight.trimChars_eq {cs : List Char} (h : Tight cs) : trimChars cs = cs := by
  have hback : cs.reverse.dropWhile isBlank = cs.reverse :=
    dropWhile_of_head (by rw [List.head?_reverse]; exact h.last)
  rw [trimChars, dropWhile_of_head h.first, trimEndChars, hback, List.reverse_reverse]

theorem tight_trimChars (cs : List Char) : Tight (trimChars cs) := by
  constructor
  · -- what the end loses leaves the front as it is
    have hstart : trimChars cs <+: cs.dropWhile isBlank := by
      have hsuffix := (List.dropWhile_suffix isBlank (l := (cs.dropWhile isBlank).reverse)).reverse
      rwa [List.reverse_reverse] at hsuffix
    intro c hc
    obtain ⟨more, hmore⟩ := hstart
    apply head_dropWhile cs
    rw [← hmore, List.head?_append, Option.mem_def.mp hc]
    rfl
  · rw [trimChars, trimEndChars, List.getLast?_reverse]
    exact head_dropWhile _

/-- **The texts that trimming leaves alone.** -/
theorem tight_iff {cs : List Char} : Tight cs ↔ trimChars cs = cs :=
  ⟨Tight.trimChars_eq, fun h => h ▸ tight_trimChars cs⟩

theorem trim_eq_iff {s : String} : trim s = s ↔ Tight s.toList := by
  rw [tight_iff, trim, ← String.toList_inj, String.toList_ofList]

theorem trim_trim (s : String) : trim (trim s) = trim s := by
  rw [trim_eq_iff, trim, String.toList_ofList]
  exact tight_trimChars s.toList

/-- White space at the begin of a text makes no difference. -/
theorem trimChars_cons_blank (cs : List Char) {b : Char} (hb : isBlank b = true) :
    trimChars (b :: cs) = trimChars cs := by
  rw [trimChars, List.dropWhile_cons_of_pos hb, trimChars]

/-- White space at the end of a text makes no difference. -/
theorem trimChars_append_blank (cs : List Char) {b : Char} (hb : isBlank b = true) :
    trimChars (cs ++ [b]) = trimChars cs := by
  rw [trimChars, trimChars, List.dropWhile_append]
  split
  · -- nothing else stands there
    rename_i hblank
    rw [List.dropWhile_cons_of_pos hb, List.isEmpty_iff.mp hblank]
    rfl
  · rw [trimEndChars, List.reverse_append, List.reverse_singleton, List.singleton_append,
      List.dropWhile_cons_of_pos hb, trimEndChars]

/-- Trimming leaves nothing of a text that is white space. -/
theorem trimChars_eq_nil_iff {cs : List Char} : trimChars cs = [] ↔ ∀ c ∈ cs, isBlank c = true := by
  constructor
  · intro hnil
    rw [trimChars, trimEndChars, List.reverse_eq_nil_iff, List.dropWhile_eq_nil_iff] at hnil
    -- the first character that is no white space would be left
    cases hrest : cs.dropWhile isBlank with
    | nil => exact List.dropWhile_eq_nil_iff.mp hrest
    | cons c rest =>
        have hsolid := head_dropWhile cs c (by rw [hrest]; rfl)
        have hblank := hnil c (by rw [hrest]; simp)
        rw [hsolid] at hblank
        exact absurd hblank Bool.false_ne_true
  · intro hblank
    rw [trimChars, List.dropWhile_eq_nil_iff.mpr hblank]
    rfl

/-- The line feed at the end of a line makes no difference. -/
theorem trim_append_newline (s : String) : trim (s ++ "\n") = trim s := by
  rw [trim, String.toList_append, trim]
  exact congrArg String.ofList (trimChars_append_blank s.toList rfl)

/-! ## §2. Cleaned lists -/

/-- Items that were kept are kept again, so a part may be freed of repetitions beforehand. -/
theorem dedupeFrom_append {α : Type} [BEq α] (seen xs ys : List α) :
    dedupeFrom seen (dedupeFrom seen xs ++ ys) = dedupeFrom seen (xs ++ ys) := by
  induction xs generalizing seen with
  | nil => rfl
  | cons x xs ih =>
      by_cases hx : seen.contains x = true
      · rw [dedupeFrom, if_pos hx, List.cons_append, dedupeFrom, if_pos hx]
        exact ih seen
      · rw [dedupeFrom, if_neg hx, List.cons_append, List.cons_append, dedupeFrom, if_neg hx,
          dedupeFrom, if_neg hx, ih]

theorem mem_of_mem_dedupeFrom {α : Type} [BEq α] {seen xs : List α} {x : α}
    (h : x ∈ dedupeFrom seen xs) : x ∈ xs := by
  induction xs generalizing seen with
  | nil => exact absurd h List.not_mem_nil
  | cons y xs ih =>
      rw [dedupeFrom] at h
      split at h
      · exact List.mem_cons_of_mem y (ih h)
      · rcases List.mem_cons.mp h with rfl | h
        · exact List.mem_cons_self
        · exact List.mem_cons_of_mem y (ih h)

/-- The trimmed entries of a list that are not blank. -/
def solidEntries (items : List String) : List String :=
  (items.map trim).filter fun s => !s.isEmpty

theorem cleanList_eq (items : List String) : cleanList items = dedupe (solidEntries items) := rfl

theorem solidEntries_append (xs ys : List String) :
    solidEntries (xs ++ ys) = solidEntries xs ++ solidEntries ys := by
  rw [solidEntries, List.map_append, List.filter_append]
  rfl

theorem solid_of_mem {items : List String} {s : String} (h : s ∈ solidEntries items) :
    trim s = s ∧ s.isEmpty = false := by
  obtain ⟨hmem, hne⟩ := List.mem_filter.mp h
  obtain ⟨typed, -, rfl⟩ := List.mem_map.mp hmem
  exact ⟨trim_trim typed, by simpa using hne⟩

theorem solidEntries_of_solid {items : List String} (h : ∀ s ∈ items, trim s = s ∧ s.isEmpty = false) :
    solidEntries items = items := by
  have hmap : items.map trim = items :=
    (List.map_congr_left fun s hs => (h s hs).1).trans (List.map_id items)
  rw [solidEntries, hmap]
  exact List.filter_eq_self.mpr fun s hs => by rw [(h s hs).2]; rfl

/-- **A part of a list may be cleaned before the whole.** -/
theorem cleanList_append (xs ys : List String) :
    cleanList (cleanList xs ++ ys) = cleanList (xs ++ ys) := by
  have hkept : solidEntries (cleanList xs) = cleanList xs :=
    solidEntries_of_solid fun s hs => solid_of_mem (mem_of_mem_dedupeFrom hs)
  rw [cleanList_eq, solidEntries_append, hkept, cleanList_eq, dedupe, dedupe, dedupeFrom_append,
    ← solidEntries_append]
  rfl

/-! ## §3. List answers -/

/-- The trimmed pieces of a list answer. -/
def trimmedPieces (cs : List Char) : List (List Char) :=
  (splitSep listSeparator cs).map trimChars

theorem ne_listSeparator {b : Char} (hb : isBlank b = true) : b ≠ listSeparator := by
  rintro rfl
  exact absurd hb (by decide)

theorem trimmedPieces_cons_blank (cs : List Char) {b : Char} (hb : isBlank b = true) :
    trimmedPieces (b :: cs) = trimmedPieces cs := by
  obtain ⟨p, ps, hsplit⟩ := List.exists_cons_of_ne_nil (splitSep_ne_nil listSeparator cs)
  rw [trimmedPieces, splitSep_cons_ne (ne_listSeparator hb) hsplit, List.map_cons,
    trimChars_cons_blank p hb, trimmedPieces, hsplit, List.map_cons]

theorem trimmedPieces_append_blank (cs : List Char) {b : Char} (hb : isBlank b = true) :
    trimmedPieces (cs ++ [b]) = trimmedPieces cs := by
  obtain ⟨ps, p, hsplit, hmore⟩ := splitSep_concat (ne_listSeparator hb) cs
  rw [trimmedPieces, hmore, List.map_append, List.map_singleton, trimChars_append_blank p hb,
    trimmedPieces, hsplit, List.map_append, List.map_singleton]

theorem trimmedPieces_dropWhile (cs : List Char) :
    trimmedPieces (cs.dropWhile isBlank) = trimmedPieces cs := by
  induction cs with
  | nil => rfl
  | cons c cs ih =>
      by_cases hc : isBlank c = true
      · rw [List.dropWhile_cons_of_pos hc, ih, trimmedPieces_cons_blank cs hc]
      · rw [List.dropWhile_cons_of_neg hc]

theorem trimmedPieces_trimEndChars (cs : List Char) : trimmedPieces (trimEndChars cs) = trimmedPieces cs := by
  -- on the characters from the last one backwards
  induction cs using List.reverseRecOn with
  | nil => rfl
  | append_singleton cs c ih =>
      rw [trimEndChars, List.reverse_append, List.reverse_singleton, List.singleton_append]
      by_cases hc : isBlank c = true
      · rw [List.dropWhile_cons_of_pos hc, ← trimEndChars, ih, trimmedPieces_append_blank cs hc]
      · rw [List.dropWhile_cons_of_neg hc, List.reverse_cons, List.reverse_reverse]

/-- **The entries of an answer do not depend on the white space around it.** -/
theorem splitList_trim (s : String) : splitList (trim s) = splitList s := by
  have hpieces : trimmedPieces (trimChars s.toList) = trimmedPieces s.toList :=
    (trimmedPieces_trimEndChars _).trans (trimmedPieces_dropWhile _)
  rw [splitList, trim, String.toList_ofList, ← trimmedPieces, hpieces]
  rfl

/-- Whether something other than white space stands between two separators. -/
def HasEntry (s : String) : Prop :=
  ∃ piece ∈ splitSep listSeparator s.toList, ∃ c ∈ piece, isBlank c = false

theorem splitList_eq_nil_iff {s : String} : splitList s = [] ↔ ¬ HasEntry s := by
  have hkept : ∀ cs : List Char, (if cs.isEmpty then none else some (String.ofList cs)) = none ↔ cs = [] := by
    intro cs
    cases cs <;> simp
  rw [splitList, List.filterMap_eq_nil_iff, List.forall_mem_map, HasEntry]
  constructor
  · rintro hnone ⟨piece, hpiece, c, hc, hsolid⟩
    have hblank := trimChars_eq_nil_iff.mp ((hkept _).mp (hnone piece hpiece)) c hc
    rw [hsolid] at hblank
    exact absurd hblank Bool.false_ne_true
  · intro hblank piece hpiece
    refine (hkept _).mpr (trimChars_eq_nil_iff.mpr fun c hc => ?_)
    cases hsolid : isBlank c with
    | true => rfl
    | false => exact absurd ⟨piece, hpiece, c, hc, hsolid⟩ hblank

instance (s : String) : Decidable (HasEntry s) :=
  decidable_of_iff (splitList s ≠ []) (by rw [ne_eq, splitList_eq_nil_iff, Classical.not_not])

/-- Texts joined by a separator have the ends of the first and of the last. -/
theorem tight_intercalate (sep : List Char) {parts : List (List Char)}
    (h : ∀ p ∈ parts, Tight p ∧ p ≠ []) : Tight (sep.intercalate parts) := by
  induction parts with
  | nil => exact ⟨by simp [List.intercalate], by simp [List.intercalate]⟩
  | cons part parts ih =>
      obtain ⟨htight, hne⟩ := h part List.mem_cons_self
      cases parts with
      | nil => rwa [List.intercalate_singleton]
      | cons next parts =>
          have hrest := ih fun p hp => h p (List.mem_cons_of_mem part hp)
          -- something follows the separator, and that text is not empty either
          have hmore : sep.intercalate (next :: parts) ≠ [] := by
            have hnext := (h next (List.mem_cons_of_mem part List.mem_cons_self)).2
            cases parts with
            | nil => rwa [List.intercalate_singleton]
            | cons => simp [List.intercalate_cons_cons, hnext]
          rw [List.intercalate_cons_cons, List.append_assoc]
          constructor
          · rw [List.head?_append, Option.or_of_isSome (List.isSome_head?.mpr hne)]
            exact htight.first
          · rw [← List.append_assoc, List.getLast?_append,
              Option.or_of_isSome (List.getLast?_isSome.mpr hmore)]
            exact hrest.last

/-- Everything in a joined text comes from the separator or from a part. -/
theorem mem_of_mem_intercalate {α : Type} {sep : List α} {parts : List (List α)} {c : α}
    (h : c ∈ sep.intercalate parts) : c ∈ sep ∨ ∃ p ∈ parts, c ∈ p := by
  induction parts with
  | nil => exact absurd h (by simp [List.intercalate])
  | cons part parts ih =>
      cases parts with
      | nil =>
          rw [List.intercalate_singleton] at h
          exact Or.inr ⟨part, List.mem_cons_self, h⟩
      | cons next parts =>
          rw [List.intercalate_cons_cons, List.append_assoc, List.mem_append, List.mem_append] at h
          rcases h with h | h | h
          · exact Or.inr ⟨part, List.mem_cons_self, h⟩
          · exact Or.inl h
          · exact (ih h).imp_right fun ⟨p, hp, hc⟩ => ⟨p, List.mem_cons_of_mem part hp, hc⟩

/-- The entries of a list answer, joined as a user types them. -/
def joinList (entries : List String) : String :=
  String.intercalate (listSeparator.toString) entries

theorem toList_joinList (entries : List String) :
    (joinList entries).toList = List.intercalate [listSeparator] (entries.map String.toList) := by
  rw [joinList, String.toList_intercalate]
  rfl

/-- What may stand between two separators. -/
structure Entry (s : String) : Prop where
  /-- No white space at either end. -/
  trimmed : trim s = s
  /-- Something. -/
  nonempty : s ≠ ""
  /-- Only one entry. -/
  single : listSeparator ∉ s.toList

instance (s : String) : Decidable (Entry s) :=
  decidable_of_iff (trim s = s ∧ s ≠ "" ∧ listSeparator ∉ s.toList)
    ⟨fun ⟨htrimmed, hne, hsingle⟩ => ⟨htrimmed, hne, hsingle⟩,
      fun h => ⟨h.trimmed, h.nonempty, h.single⟩⟩

theorem trim_joinList {entries : List String} (h : ∀ e ∈ entries, Entry e) :
    trim (joinList entries) = joinList entries := by
  rw [trim_eq_iff, toList_joinList]
  refine tight_intercalate [listSeparator] fun p hp => ?_
  obtain ⟨e, he, rfl⟩ := List.mem_map.mp hp
  exact ⟨trim_eq_iff.mp (h e he).trimmed, by simpa using (h e he).nonempty⟩

/-- Texts that are not empty are kept. -/
theorem filterMap_toList {entries : List String} (h : ∀ e ∈ entries, e ≠ "") :
    (entries.map String.toList).filterMap
      (fun cs => if cs.isEmpty then none else some (String.ofList cs)) = entries := by
  induction entries with
  | nil => rfl
  | cons e entries ih =>
      have hne : e.toList.isEmpty = false := by simpa using h e List.mem_cons_self
      rw [List.map_cons, List.filterMap_cons, hne]
      simp only [Bool.false_eq_true, if_false, String.ofList_toList]
      rw [ih fun d hd => h d (List.mem_cons_of_mem e hd)]

/-- **Entries are read back from their joined text.** -/
theorem splitList_joinList {entries : List String} (h : ∀ e ∈ entries, Entry e) :
    splitList (joinList entries) = entries := by
  by_cases hne : entries = []
  · rw [hne]
    decide
  · have hsplit : splitSep listSeparator (joinList entries).toList = entries.map String.toList := by
      rw [toList_joinList]
      refine splitSep_intercalate (by simpa using hne) fun p hp => ?_
      obtain ⟨e, he, rfl⟩ := List.mem_map.mp hp
      exact (h e he).single
    -- each piece is trimmed already and not empty
    have htrim : (entries.map String.toList).map trimChars = entries.map String.toList := by
      rw [List.map_map]
      exact List.map_congr_left fun e he => (trim_eq_iff.mp (h e he).trimmed).trimChars_eq
    rw [splitList, hsplit, htrim]
    exact filterMap_toList fun e he => (h e he).nonempty

/-- What trimming leaves comes from the text. -/
theorem mem_of_mem_trimChars {cs : List Char} {c : Char} (h : c ∈ trimChars cs) : c ∈ cs := by
  rw [trimChars, trimEndChars, List.mem_reverse] at h
  have hfront := List.mem_reverse.mp ((List.dropWhile_sublist isBlank).subset h)
  exact (List.dropWhile_sublist isBlank).subset hfront

/-- **The entries of an answer** are trimmed, not empty, and free of separators. -/
theorem entry_of_mem_splitList {s e : String} (h : e ∈ splitList s) : Entry e := by
  obtain ⟨kept, hkept, hsome⟩ := List.mem_filterMap.mp h
  obtain ⟨piece, hpiece, rfl⟩ := List.mem_map.mp hkept
  split at hsome
  · cases hsome
  · rename_i hne
    obtain rfl := Option.some.inj hsome
    refine ⟨?_, ?_, ?_⟩
    · rw [trim_eq_iff, String.toList_ofList]
      exact tight_trimChars piece
    · simpa using hne
    · rw [String.toList_ofList]
      exact fun hmem => not_mem_of_mem_splitSep hpiece (mem_of_mem_trimChars hmem)

/-- **A separator between two answers** puts their entries in a row. -/
theorem splitList_append (a b : String) :
    splitList (a ++ listSeparator.toString ++ b) = splitList a ++ splitList b := by
  have hchars : (a ++ listSeparator.toString ++ b).toList
      = a.toList ++ listSeparator :: b.toList := by
    simp [Char.toString]
  rw [splitList, hchars, splitSep_append, List.map_append, List.filterMap_append]
  rfl

/-- **List answers are split faithfully.**  A separator between two answers puts their entries in a
    row; every entry is trimmed, not empty and free of separators; and such entries are read
    back from the text that joins them, in particular those of an answer. -/
theorem splitList_faithful :
    (∀ a b, splitList (a ++ ";" ++ b) = splitList a ++ splitList b)
      ∧ (∀ a, ∀ e ∈ splitList a, e ≠ "" ∧ trim e = e ∧ ';' ∉ e.toList)
      ∧ (∀ entries : List String, (∀ e ∈ entries, e ≠ "" ∧ trim e = e ∧ ';' ∉ e.toList) →
          splitList (String.intercalate ";" entries) = entries)
      ∧ ∀ a, splitList (String.intercalate ";" (splitList a)) = splitList a := by
  refine ⟨splitList_append, ?_, ?_, ?_⟩
  · intro a e he
    have hentry := entry_of_mem_splitList he
    exact ⟨hentry.nonempty, hentry.trimmed, hentry.single⟩
  · intro entries h
    exact splitList_joinList fun e he => ⟨(h e he).2.1, (h e he).1, (h e he).2.2⟩
  · intro a
    exact splitList_joinList fun e he => entry_of_mem_splitList he

/-- Blank pieces at both ends and in the middle, white space around an entry and within it. -/
theorem splitList_faithful_padded :
    splitList ("; \t os.path ;;" ++ ";" ++ " a b\u00a0; ") = ["os.path", "a b"]
      ∧ splitList (String.intercalate ";" ["os.path", "a b"]) = ["os.path", "a b"] := by
  obtain ⟨happend, -, hjoin, -⟩ := splitList_faithful
  refine ⟨?_, hjoin _ (by decide)⟩
  rw [happend]
  decide

end TestScaffold.Text
