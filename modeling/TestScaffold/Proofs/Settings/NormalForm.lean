/-
  TestScaffold.Proofs.Settings.NormalForm — the normal form of settings.

  The normal form of settings has the trimmed entries of their lists that are not blank, each
  once, and an indentation that is not zero; everything else stays.  Settings have one normal
  form, and a normal form is its own.  Nothing else gets to a batch, neither from the words of
  the command line and a settings file nor from a dialogue.

    * `Settings.NormalForm` — what the normal form of settings is;
    * `Settings.eq_normalized_iff` — it is what normalization gives, and nothing else is;
    * `Settings.normalized_again` — a second time nothing changes and nothing is remarked on;
    * `Arguments.settings_normalized`, `dialogue_normalized` — the two ways to a batch;
    * `normalization_canonical` — all of this together.
-/
import TestScaffold.Proofs.CommandLine.Layers
import TestScaffold.Proofs.Text.FirstOccurrences

namespace TestScaffold

open CommandLine Text

/-! ## §1. The normal form -/

namespace Settings

/-- `t` is the normal form of `s`. -/
structure NormalForm (s t : Settings) : Prop where
  /-- The folders to ignore. -/
  folders : FirstOccurrences (solidEntries s.filter.foldersToIgnore) t.filter.foldersToIgnore
  /-- The patterns to ignore. -/
  patterns : FirstOccurrences (solidEntries s.filter.patternsToIgnore) t.filter.patternsToIgnore
  /-- The packages to import. -/
  packages : FirstOccurrences (solidEntries s.render.importPackages) t.render.importPackages
  /-- The indentation, two spaces where there was none. -/
  indent : t.render.indentSize = if 0 < s.render.indentSize then s.render.indentSize else 2
  /-- All the rest. -/
  others : t.render = { s.render with importPackages := t.render.importPackages
                                      indentSize := t.render.indentSize }

theorem positiveIndent_eq (n : Nat) : positiveIndent n = if 0 < n then n else 2 := by
  rw [positiveIndent, defaultIndent]
  split <;> split <;> omega

/-- **Settings have one normal form**, the one that normalization gives. -/
theorem eq_normalized_iff {s t : Settings} : t = s.normalized.1 ↔ s.NormalForm t := by
  rw [normalized_fst]
  constructor
  · rintro rfl
    exact
      { folders := eq_cleanList_iff.mp rfl
        patterns := eq_cleanList_iff.mp rfl
        packages := eq_cleanList_iff.mp rfl
        indent := positiveIndent_eq s.render.indentSize
        others := rfl }
  · intro h
    obtain ⟨⟨folders, patterns⟩, render⟩ := t
    have hfolders : folders = cleanList s.filter.foldersToIgnore := eq_cleanList_iff.mpr h.folders
    have hpatterns : patterns = cleanList s.filter.patternsToIgnore :=
      eq_cleanList_iff.mpr h.patterns
    have hpackages : render.importPackages = cleanList s.render.importPackages :=
      eq_cleanList_iff.mpr h.packages
    have hindent : render.indentSize = positiveIndent s.render.indentSize :=
      h.indent.trans (positiveIndent_eq s.render.indentSize).symm
    have hrender : render = { s.render with importPackages := render.importPackages
                                            indentSize := render.indentSize } := h.others
    rw [hpackages, hindent] at hrender
    rw [hfolders, hpatterns, hrender]

theorem cleanList_cleanList (items : List String) : cleanList (cleanList items) = cleanList items := by
  have happend := cleanList_append items []
  rwa [List.append_nil, List.append_nil] at happend

theorem positiveIndent_pos (n : Nat) : 0 < positiveIndent n := by
  rw [positiveIndent_eq]
  split <;> omega

/-- **A normal form is its own**, and there is nothing to remark on it. -/
theorem normalized_again (s : Settings) : s.normalized.1.normalized = (s.normalized.1, []) := by
  have hpos := positiveIndent_pos s.render.indentSize
  rw [normalized_fst, normalized]
  dsimp only
  rw [if_neg (by omega)]
  simp only [cleanList_cleanList]

/-! ## §2. What a batch can work with -/

/-- No empty text to ignore, which would leave out everything, and an indentation. -/
structure Usable (s : Settings) : Prop where
  /-- No empty folder. -/
  folders : "" ∉ s.filter.foldersToIgnore
  /-- No empty pattern. -/
  patterns : "" ∉ s.filter.patternsToIgnore
  /-- An indentation. -/
  indent : 0 < s.render.indentSize

theorem empty_not_mem_cleanList (items : List String) : "" ∉ cleanList items := by
  intro hmem
  exact absurd (solid_of_mem (mem_of_mem_dedupeFrom hmem)).2 (by decide)

theorem normalized_usable (s : Settings) : s.normalized.1.Usable := by
  rw [normalized_fst]
  exact
    { folders := empty_not_mem_cleanList s.filter.foldersToIgnore
      patterns := empty_not_mem_cleanList s.filter.patternsToIgnore
      indent := positiveIndent_pos s.render.indentSize }

end Settings

/-- An empty text occurs in every path. -/
theorem FilterSettings.accepts_of_empty {f : FilterSettings}
    (h : "" ∈ f.foldersToIgnore ∨ "" ∈ f.patternsToIgnore) (path : ByteString) :
    f.accepts path = false := by
  have hoccurs : ∀ text, occursIn "" text = true := fun text =>
    occursIn_iff.mpr (List.nil_infix (l := text.toList))
  unfold accepts
  rcases h with h | h
  · have hfolder : f.inIgnoredFolder path = true := List.any_eq_true.mpr ⟨"", h, hoccurs _⟩
    rw [hfolder]
    rfl
  · have hpattern : f.matchesIgnoredPattern path = true := List.any_eq_true.mpr ⟨"", h, hoccurs _⟩
    rw [hpattern, Bool.not_true, Bool.and_false]

/-! ## §3. The ways to a batch -/

/-- The settings that the words of the command line and a settings file come to. -/
theorem CommandLine.Arguments.settings_normalized {a : Arguments} {fs : FileSystem} {t : Settings}
    {notices : List Notice} (h : a.settings fs = .ok (t, notices)) :
    ∃ s : Settings, t = s.normalized.1 := by
  unfold settings at h
  split at h
  · rename_i s _ _
    cases h
    exact ⟨a.apply s, rfl⟩
  · cases h

/-- What a part of a dialogue ends with comes from its last step. -/
theorem exists_of_run_bind {x : Talk α} {f : α → Talk β} {s : Session} {b : β}
    (h : ((x >>= f).run s).1 = .ok b) : ∃ a t, ((f a).run t).1 = .ok b := by
  match hx : x.run s with
  | (.error failure, t) =>
      rw [run_bind_error hx] at h
      cases h
  | (.ok a, t) =>
      rw [run_bind_ok hx] at h
      exact ⟨a, t, h⟩

/-- The settings that a dialogue comes to, whatever the terminal takes. -/
theorem dialogue_normalized {base t : Settings} {session : Session} {paths : List String}
    (h : ((dialogue base).run session).1 = .ok (paths, t)) : ∃ s : Settings, t = s.normalized.1 := by
  rw [dialogue] at h
  obtain ⟨_, _, h⟩ := exists_of_run_bind h
  obtain ⟨filter, _, h⟩ := exists_of_run_bind h
  obtain ⟨render, _, h⟩ := exists_of_run_bind h
  rw [run_bind_ok (run_keepNotices _ _)] at h
  cases h
  exact ⟨{ filter, render }, rfl⟩

/-- **Normalization reaches a canonical form.**  Settings have exactly one normal form: the trimmed
    entries of each list that are not blank, each once and in the order of their first occurrences,
    the indentation if it is positive and two otherwise, and everything else unchanged.  It is its
    own normal form, and nothing is remarked on it.  What the command line and a settings file
    come to, and what a dialogue comes to, is in normal form, holds no empty text to ignore and has
    an indentation; settings with an empty text to ignore would accept no path at all. -/
theorem normalization_canonical :
    (∀ s t : Settings, t = s.normalized.1 ↔ s.NormalForm t)
      ∧ (∀ s : Settings, s.normalized.1.normalized = (s.normalized.1, []))
      ∧ (∀ (a : Arguments) fs t notices, a.settings fs = .ok (t, notices) →
          t.normalized = (t, []) ∧ t.Usable)
      ∧ (∀ base input limit? paths t, (runDialogue base input limit?).1 = .ok (paths, t) →
          t.normalized = (t, []) ∧ t.Usable)
      ∧ ∀ f : FilterSettings, "" ∈ f.foldersToIgnore ∨ "" ∈ f.patternsToIgnore →
          ∀ path, f.accepts path = false := by
  refine ⟨fun _ _ => Settings.eq_normalized_iff, Settings.normalized_again, ?_, ?_, ?_⟩
  · intro a fs t notices h
    obtain ⟨s, rfl⟩ := Arguments.settings_normalized h
    exact ⟨s.normalized_again, s.normalized_usable⟩
  · intro base input limit? paths t h
    obtain ⟨s, rfl⟩ := dialogue_normalized h
    exact ⟨s.normalized_again, s.normalized_usable⟩
  · exact fun f => FilterSettings.accepts_of_empty

/-- Settings out of normal form; a settings file and options out of normal form; a dialogue on top of
    settings out of normal form; and a filter with an empty folder. -/
theorem normalization_canonical_desk :
    let s : Settings := { filter := { foldersToIgnore := ["build ", "", "dist", "\u00a0build"] }
                          render := { importPackages := ["os", " os"], indentSize := 0 } }
    let t : Settings := { filter := { foldersToIgnore := ["build", "dist"] }
                          render := { importPackages := ["os"], indentSize := 2 } }
    s.NormalForm t ∧ t.normalized = (t, [])
      ∧ (∃ u notices, deskOptions.settings desk = .ok (u, notices) ∧ u.normalized = (u, [])
          ∧ u.Usable)
      ∧ (∃ paths u, (runDialogue s "a.py\n; lib\n".toUTF8).1 = .ok (paths, u)
          ∧ u.normalized = (u, []) ∧ u.Usable)
      ∧ ({ foldersToIgnore := [""] } : FilterSettings).accepts "a.py" = false := by
  intro s t
  obtain ⟨hform, hagain, hsettings, hdialogue, hempty⟩ := normalization_canonical
  have hnormal : t = s.normalized.1 := by decide +kernel
  have hfile : deskOptions.settings desk = .ok
      ({ filter := { foldersToIgnore := ["build", "dist"] }
         render := { outputDir := "out", indentSize := 2 } }, [.zeroIndent 2]) :=
    eq_ok_of_toOption (by decide +kernel)
  have htalk : (runDialogue s "a.py\n; lib\n".toUTF8).1 = .ok
      (["a.py"], { filter := { foldersToIgnore := ["build", "dist", "lib"] }
                   render := { importPackages := ["os"], indentSize := 2 } }) :=
    eq_ok_of_toOption (by decide +kernel)
  refine ⟨(hform s t).mp hnormal, ?_, ⟨_, _, hfile, hsettings _ _ _ _ hfile⟩,
    ⟨_, _, htalk, hdialogue _ _ _ _ _ htalk⟩, hempty _ (Or.inl List.mem_cons_self) "a.py"⟩
  rw [hnormal]
  exact hagain s

end TestScaffold
