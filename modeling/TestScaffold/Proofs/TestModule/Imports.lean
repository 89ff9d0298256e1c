/-
  TestScaffold.Proofs.TestModule.Imports — the imports of a test module.

  Of the lines of a test module only its imports begin with an import at the left margin.
  A class and a test that stand there begin with words of their own, and everything in them
  is indented, whatever statements and docstrings say:

    * `IndentedLine.isImport`, `importLines` — lines that begin so, and those of a text;
    * `filter_layout` — in a layout they are the imports;
    * `importLines_render` — so they are in a test module;
    * `imports_listed_once` — with settings in normal form each package is imported once, and
      so is the framework.
-/
import TestScaffold.Proofs.TestModule.Layout
import TestScaffold.Proofs.Settings.NormalForm
import Mathlib.Data.List.Nodup

namespace TestScaffold

/-! ## §1. Lines that begin with an import -/

/-- The word that an import begins with, and the space behind it. -/
def importWord : String := "import "

namespace IndentedLine

/-- Whether a line begins with an import at the left margin. -/
def isImport (width : Nat) (l : IndentedLine) : Bool :=
  importWord.toList.isPrefixOf (l.chars width)

variable {width : Nat}

theorem isImport_margin (text : String) :
    isImport width ⟨0, text⟩ = importWord.toList.isPrefixOf text.toList := by
  rw [isImport, chars, Nat.zero_mul, List.replicate_zero, List.nil_append]

/-- An indented line begins with a space. -/
theorem isImport_indented (hwidth : 0 < width) {l : IndentedLine} (hdepth : 0 < l.depth) :
    l.isImport width = false := by
  have hspaces : 0 < l.depth * width := Nat.mul_pos hdepth hwidth
  obtain ⟨n, hn⟩ : ∃ n, l.depth * width = n + 1 := ⟨l.depth * width - 1, by omega⟩
  rw [isImport, chars, hn, List.replicate_succ]
  rfl

end IndentedLine

/-- The lines of a text that begin with an import at the left margin. -/
def importLines (text : String) : List String :=
  ((Text.splitSep '\n' text.toList).filter importWord.toList.isPrefixOf).map String.ofList

namespace SourceModule

/-! ## §2. The layout of a test module -/

section Layout

variable {r : RenderSettings}

theorem isImport_import (width : Nat) (package : String) :
    (⟨0, importWord ++ package⟩ : IndentedLine).isImport width = true := by
  rw [IndentedLine.isImport_margin, List.isPrefixOf_iff_prefix, String.toList_append]
  exact List.prefix_append _ _

theorem isImport_blank (width : Nat) : IndentedLine.blank.isImport width = false :=
  IndentedLine.isImport_margin ""

theorem isImport_classTitle (width : Nat) :
    (⟨0, classTitle r⟩ : IndentedLine).isImport width = false := by
  rw [IndentedLine.isImport_margin, classTitle]
  cases r.framework <;> simp [importWord] <;> rfl

/-- A test at the left margin begins with its signature. -/
theorem isImport_testLayout (hwidth : 0 < r.indentSize) (f : Function) :
    ∀ l ∈ testLayout r f, l.isImport r.indentSize = false := by
  intro l hl
  rcases List.mem_cons.mp hl with rfl | hl
  · by_cases hclass : r.wrapInClass = true
    · exact IndentedLine.isImport_indented hwidth (by simp [testDepth, hclass])
    · rw [testDepth, if_neg hclass, IndentedLine.isImport_margin, signature]
      simp [importWord]
      rfl
  · obtain ⟨line, -, rfl⟩ := List.mem_map.mp hl
    exact IndentedLine.isImport_indented hwidth (Nat.succ_pos _)

theorem isImport_hookLayout (hwidth : 0 < r.indentSize) (name : String) :
    ∀ l ∈ hookLayout name, l.isImport r.indentSize = false := by
  intro l hl
  refine IndentedLine.isImport_indented hwidth ?_
  simp only [hookLayout, List.mem_cons, List.not_mem_nil, or_false] at hl
  rcases hl with rfl | rfl
  · exact Nat.succ_pos 0
  · exact Nat.succ_pos 1

/-- Behind the imports there are no others. -/
theorem filter_headLayout (hwidth : 0 < r.indentSize) :
    (headLayout r).filter (·.isImport r.indentSize) = (imported r).map (⟨0, importWord ++ ·⟩) := by
  have himports : ((imported r).map (fun p => (⟨0, importWord ++ p⟩ : IndentedLine))).filter
      (·.isImport r.indentSize) = (imported r).map (⟨0, importWord ++ ·⟩) := by
    refine List.filter_eq_self.mpr fun l hl => ?_
    obtain ⟨package, -, rfl⟩ := List.mem_map.mp hl
    exact isImport_import r.indentSize package
  have hclass : (if r.wrapInClass then [⟨0, classTitle r⟩, .blank] else []).filter
      (IndentedLine.isImport r.indentSize) = [] := by
    split
    · simp [isImport_classTitle, isImport_blank]
    · rfl
  have hsetUp : (if r.emitsSetUp then hookLayout "setUp" ++ [.blank] else []).filter
      (IndentedLine.isImport r.indentSize) = [] := by
    split
    · rw [List.filter_append, List.filter_eq_nil_iff.mpr]
      · simp [isImport_blank]
      · intro l hl
        simp [isImport_hookLayout hwidth "setUp" l hl]
    · rfl
  rw [headLayout, List.filter_append, List.filter_append, List.filter_append, hclass, hsetUp,
    List.append_nil, List.append_nil, List.filter_cons_of_neg (by simp [isImport_blank]),
    List.filter_nil, List.append_nil]
  exact himports

/-- **The lines of a layout that begin with an import are its imports.** -/
theorem filter_layout (hwidth : 0 < r.indentSize) (m : SourceModule) :
    (m.layout r).filter (·.isImport r.indentSize) = (imported r).map (⟨0, importWord ++ ·⟩) := by
  have htests : ([IndentedLine.blank].intercalate (m.functions.map (testLayout r))).filter
      (·.isImport r.indentSize) = [] := by
    refine List.filter_eq_nil_iff.mpr fun l hl => ?_
    rw [Bool.not_eq_true]
    rcases Text.mem_of_mem_intercalate hl with hblank | ⟨block, hblock, hl⟩
    · rw [List.mem_singleton.mp hblank, isImport_blank]
    · obtain ⟨f, -, rfl⟩ := List.mem_map.mp hblock
      exact isImport_testLayout hwidth f l hl
  have hfoot : (footLayout r).filter (·.isImport r.indentSize) = [] := by
    refine List.filter_eq_nil_iff.mpr fun l hl => ?_
    rw [Bool.not_eq_true]
    unfold footLayout at hl
    split at hl
    · rcases List.mem_cons.mp hl with rfl | hl
      · exact isImport_blank r.indentSize
      · exact isImport_hookLayout hwidth "tearDown" l hl
    · exact absurd hl List.not_mem_nil
  rw [layout, List.filter_append, List.filter_append, htests, hfoot, List.append_nil,
    List.append_nil, filter_headLayout hwidth]

/-- **So they are in the text**, if it is made of single lines. -/
theorem importLines_render {m : SourceModule} (h : m.SingleLines r) (hwidth : 0 < r.indentSize) :
    importLines (m.render r) = (imported r).map (importWord ++ ·) := by
  have hlines : ((m.layout r).map (·.chars r.indentSize)).filter importWord.toList.isPrefixOf
      = ((m.layout r).filter (·.isImport r.indentSize)).map (·.chars r.indentSize) :=
    List.filter_map
  rw [importLines, toList_render, split_written (newline_not_mem_layout h), List.filter_append,
    hlines, filter_layout hwidth, List.map_append, List.map_map, List.map_map]
  have hlast : ([[]] : List (List Char)).filter importWord.toList.isPrefixOf = [] := rfl
  rw [hlast, List.map_nil, List.append_nil]
  refine List.map_congr_left fun package _ => ?_
  simp [IndentedLine.chars]

end Layout

/-! ## §3. Settings in normal form -/

/-- Trimming leaves no more characters than there are. -/
theorem newline_not_mem_cleanList {items : List String} (h : ∀ s ∈ items, '\n' ∉ s.toList) :
    ∀ s ∈ Text.cleanList items, '\n' ∉ s.toList := by
  intro s hs hmem
  obtain ⟨typed, htyped, rfl⟩ :=
    List.mem_map.mp (List.mem_filter.mp (Text.mem_of_mem_dedupeFrom hs)).1
  apply h typed htyped
  rw [Text.trim, String.toList_ofList, Text.trimChars, Text.trimEndChars, List.mem_reverse] at hmem
  exact List.dropWhile_subset _ (List.mem_reverse.mp (List.dropWhile_subset _ hmem))

/-- Single lines stay single lines in normal form. -/
theorem SingleLines.normalized {m : SourceModule} {s : Settings} (h : m.SingleLines s.render) :
    m.SingleLines s.normalized.1.render := by
  rw [Settings.normalized_fst]
  exact
    { className := h.className
      functionPrefix := h.functionPrefix
      packages := newline_not_mem_cleanList h.packages
      names := h.names
      docstrings := h.docstrings }

/-- **Imports are complete, and none is made twice.**  In normal form the packages are the trimmed
    entries that are not blank, in the order of their first occurrences.  The lines of a test module
    that begin with an import at the left margin are one for each package, in that order, and one
    for the framework if it is not among them.  No two of them are equal, and exactly one imports
    the framework. -/
theorem imports_listed_once (s : Settings) {m : SourceModule} (h : m.SingleLines s.render) :
    let r := s.normalized.1.render
    let framework := r.framework.moduleName
    let imports := importLines (m.render r)
    Text.FirstOccurrences (Text.solidEntries s.render.importPackages) r.importPackages
      ∧ imports = (r.importPackages
          ++ if framework ∈ r.importPackages then [] else [framework]).map ("import " ++ ·)
      ∧ imports.Nodup
      ∧ imports.count ("import " ++ framework) = 1 := by
  intro r framework imports
  have hform := Settings.eq_normalized_iff.mp (show s.normalized.1 = s.normalized.1 from rfl)
  have hwidth : 0 < r.indentSize := s.normalized_usable.indent
  have hlines : imports = (imported r).map (importWord ++ ·) :=
    importLines_render h.normalized hwidth
  have himported : imported r
      = r.importPackages ++ if framework ∈ r.importPackages then [] else [framework] := by
    simp only [imported, RenderSettings.importsFramework, List.contains_iff_mem]
    rfl
  rw [himported] at hlines
  have hnodup : imports.Nodup := by
    rw [hlines]
    refine List.Nodup.map (fun p q hpq => (String.append_right_inj importWord).mp hpq) ?_
    · split
      · simpa using hform.packages.nodup
      · rename_i hframework
        exact hform.packages.nodup.append (List.nodup_singleton _)
          (List.disjoint_singleton.mpr hframework)
  have hmem : importWord ++ framework ∈ imports := by
    rw [hlines]
    refine List.mem_map_of_mem ?_
    split
    · rename_i hframework
      simpa using hframework
    · simp
  exact ⟨hform.packages, hlines, hnodup, List.count_eq_one_of_mem hnodup hmem⟩

/-- Tests without a class whose statement and docstring are imports, and packages that repeat, are
    padded, are blank or only look like the framework. -/
theorem imports_listed_once_padded :
    let r : RenderSettings :=
      { importPackages := [" os", "", "os ", "unittest_extras"], wrapInClass := false,
        docstring := .source, outcome := .statement "import os\nimport unittest" }
    let m : SourceModule :=
      { name := "a", fileName := "a.py", baseDir := ""
        functions := [{ name := "import", docstring := "import os" }, { name := "g" }] }
    let imports := importLines (m.render (Settings.normalized { render := r }).1.render)
    m.SingleLines r
      ∧ imports = ["import os", "import unittest_extras", "import unittest"]
      ∧ imports.Nodup ∧ imports.count "import unittest" = 1 := by
  intro r m imports
  have hsingle : m.SingleLines r :=
    { className := by decide
      functionPrefix := by decide
      packages := by decide
      names := by decide
      docstrings := fun _ => by decide }
  obtain ⟨-, himports, hnodup, hcount⟩ := imports_listed_once { render := r } hsingle
  refine ⟨hsingle, himports.trans ?_, hnodup, hcount⟩
  decide +kernel

end SourceModule

end TestScaffold
