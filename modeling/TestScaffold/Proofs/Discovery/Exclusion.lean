/-
  TestScaffold.Proofs.Discovery.Exclusion — what an ignored folder and an ignored pattern exclude.

  Exclusion searches a path as it is read, and a token that has no slash cannot lie across one.  So
  the search can be read segment by segment:

    * `inIgnoredFolder_iff`, `matchesIgnoredPattern_iff` — the search in the words of `<:+:`;
    * `accepts_mono` — more tokens and patterns accept less;
    * `inIgnoredFolder_below` — a directory is excluded with all that is below it;
    * `exclusion_by_segments` — all of this together, by segments.
-/
import TestScaffold.Discovery
import TestScaffold.Proofs.Path.Ancestors

namespace TestScaffold

open Text

/-! ## §1. One token -/

/-- Whether a path has a segment, between slashes, that contains the token as it is read. -/
def SegmentContains (token : String) (path : ByteString) : Prop :=
  ∃ segment ∈ splitSep slash path.toList, token.toList <:+: (ByteString.ofList segment).text.toList

theorem segmentContains_iff {token : String} (hslash : '/' ∉ token.toList) {path : ByteString} :
    SegmentContains token path ↔ token.toList <:+: path.text.toList := by
  rw [ByteString.infix_text_iff hslash]
  simp only [SegmentContains, ByteString.toList_text]

namespace FilterSettings

/-- A path is excluded by its folder if its directory contains one of the tokens. -/
theorem inIgnoredFolder_iff {f : FilterSettings} {path : ByteString} :
    f.inIgnoredFolder path = true
      ↔ ∃ token ∈ f.foldersToIgnore, token.toList <:+: (Path.directory path).text.toList := by
  unfold inIgnoredFolder
  simp only [List.any_eq_true, occursIn_iff]
  exact Iff.rfl

/-- It is excluded by a pattern if it contains that pattern itself. -/
theorem matchesIgnoredPattern_iff {f : FilterSettings} {path : ByteString} :
    f.matchesIgnoredPattern path = true
      ↔ ∃ pattern ∈ f.patternsToIgnore, pattern.toList <:+: path.text.toList := by
  unfold matchesIgnoredPattern
  simp only [List.any_eq_true, occursIn_iff]

/-! ## §2. More tokens, and deeper paths -/

theorem accepts_iff {f : FilterSettings} {path : ByteString} :
    f.accepts path = true ↔ f.inIgnoredFolder path = false ∧ isBusinessModule path = true
      ∧ f.matchesIgnoredPattern path = false := by
  simp [accepts, and_assoc]

/-- **More tokens and patterns accept less.** -/
theorem accepts_mono {f g : FilterSettings} (hfolders : f.foldersToIgnore ⊆ g.foldersToIgnore)
    (hpatterns : f.patternsToIgnore ⊆ g.patternsToIgnore) {path : ByteString}
    (h : g.accepts path = true) : f.accepts path = true := by
  obtain ⟨hfolder, hbusiness, hpattern⟩ := accepts_iff.mp h
  refine accepts_iff.mpr ⟨?_, hbusiness, ?_⟩
  · rw [Bool.eq_false_iff] at hfolder ⊢
    intro hignored
    obtain ⟨token, hmem, htoken⟩ := inIgnoredFolder_iff.mp hignored
    exact hfolder (inIgnoredFolder_iff.mpr ⟨token, hfolders hmem, htoken⟩)
  · rw [Bool.eq_false_iff] at hpattern ⊢
    intro hmatches
    obtain ⟨pattern, hmem, hpart⟩ := matchesIgnoredPattern_iff.mp hmatches
    exact hpattern (matchesIgnoredPattern_iff.mpr ⟨pattern, hpatterns hmem, hpart⟩)

/-- **A directory is excluded with all that is below it**: its text goes on in theirs. -/
theorem inIgnoredFolder_below {f : FilterSettings} {d path rest name : ByteString}
    (hpath : Path.DirectlyIn d path) (hname : Path.fileName? rest = some name)
    (h : f.inIgnoredFolder path = true) : f.inIgnoredFolder (d ++ "/" ++ rest) = true := by
  obtain ⟨token, hmem, htoken⟩ := inIgnoredFolder_iff.mp h
  refine inIgnoredFolder_iff.mpr ⟨token, hmem, ?_⟩
  exact htoken.trans (hpath.directory_starts hname).isInfix

/-! ## §3. Exclusion by segments -/

/-- **What exclusion means.**  A folder token without a slash excludes a path exactly if a segment of
    the path's directory contains it, and a pattern without a slash exactly if a segment of the whole
    path does; a path is excluded if one of the tokens, or one of the patterns, excludes it.  So adding
    tokens and patterns can only turn acceptance into refusal, and tokens that exclude a file directly
    in a directory exclude all files below that directory, however deep. -/
theorem exclusion_by_segments :
    (∀ (token : String) (path : ByteString), '/' ∉ token.toList →
        (inIgnoredFolder { foldersToIgnore := [token] } path = true
          ↔ SegmentContains token (Path.directory path))
        ∧ (matchesIgnoredPattern { patternsToIgnore := [token] } path = true
          ↔ SegmentContains token path))
      ∧ (∀ (f : FilterSettings) (path : ByteString),
        (f.inIgnoredFolder path = true ↔ ∃ token ∈ f.foldersToIgnore,
            inIgnoredFolder { foldersToIgnore := [token] } path = true)
        ∧ (f.matchesIgnoredPattern path = true ↔ ∃ pattern ∈ f.patternsToIgnore,
            matchesIgnoredPattern { patternsToIgnore := [pattern] } path = true))
      ∧ (∀ f g : FilterSettings, f.foldersToIgnore ⊆ g.foldersToIgnore →
          f.patternsToIgnore ⊆ g.patternsToIgnore →
          ∀ path, g.accepts path = true → f.accepts path = true)
      ∧ ∀ (f : FilterSettings) (d path rest name : ByteString), Path.DirectlyIn d path →
          Path.fileName? rest = some name → f.inIgnoredFolder path = true →
          f.inIgnoredFolder (d ++ "/" ++ rest) = true ∧ f.accepts (d ++ "/" ++ rest) = false := by
  refine ⟨?_, ?_, ?_, ?_⟩
  · intro token path hslash
    constructor
    · rw [inIgnoredFolder_iff, segmentContains_iff hslash]
      simp
    · rw [matchesIgnoredPattern_iff, segmentContains_iff hslash]
      simp
  · intro f path
    simp only [inIgnoredFolder_iff, matchesIgnoredPattern_iff, List.mem_singleton, exists_eq_left,
      and_self]
  · intro f g hfolders hpatterns path h
    exact accepts_mono hfolders hpatterns h
  · intro f d path rest name hpath hname h
    have hbelow := inIgnoredFolder_below hpath hname h
    refine ⟨hbelow, ?_⟩
    rw [accepts, hbelow]
    rfl

/-- A token that is part of a longer folder name, a directory spelled with a dot and two slashes, and a
    path that goes up out of that directory again. -/
theorem exclusion_by_segments_contests :
    '/' ∉ "tests".toList
      ∧ SegmentContains "tests" (Path.directory "./contests//scoring.py")
      ∧ ¬ SegmentContains "scoring" (Path.directory "./contests//scoring.py")
      ∧ SegmentContains "scoring" "./contests//scoring.py"
      ∧ (∃ token ∈ ["docs", "tests"],
          inIgnoredFolder { foldersToIgnore := [token] } "./contests//scoring.py" = true)
      ∧ accepts {} "src/a.py" = true
      ∧ Path.DirectlyIn "./contests" "./contests//scoring.py"
      ∧ inIgnoredFolder {} "./contests/../all/b.py" = true
      ∧ accepts {} "./contests/../all/b.py" = false := by
  obtain ⟨hsegments, htokens, hmono, hbelow⟩ := exclusion_by_segments
  have hslash : '/' ∉ "tests".toList := by decide
  have hscoring : '/' ∉ "scoring".toList := by decide
  have hdirectly : Path.DirectlyIn "./contests" "./contests//scoring.py" := Or.inr (by decide)
  refine ⟨hslash, ?_, ?_, ?_, ?_, ?_, hdirectly, ?_⟩
  · exact (hsegments _ _ hslash).1.mp (by decide)
  · exact mt (hsegments _ _ hscoring).1.mpr (by decide)
  · exact (hsegments _ _ hscoring).2.mp (by decide)
  · exact (htokens { foldersToIgnore := ["docs", "tests"] } _).1.mp (by decide)
  · exact hmono {} { foldersToIgnore := ["docs", "tests"] } (by simp) (by simp) _ (by decide)
  · exact hbelow {} "./contests" _ "../all/b.py" "b.py" hdirectly (by decide) (by decide)

end FilterSettings

end TestScaffold
