/-
  TestScaffold.Proofs.CommandLine.Layers — the layers that the settings of a run are made of.

  Built-in settings, the settings file, the options and the answers lie on top of each
  other.  On the way the settings are brought into normal form up to three times: when
  the file is loaded, when the options are on top of it, and when the answers are.  Only
  the last time shows.  A list may be cleaned before more is added to it, because it is
  cleaned again, and a zero indentation may be replaced before something is put on top
  of it, because whatever is put on top replaces the replacement as well.

    * `Settings.normalized_fst` — the normal form, field by field;
    * `Arguments.apply_normalized`, `Answers.apply_normalized` — a layer may be put on top
      of the normal form;
    * `layered` — all layers, brought into normal form once;
    * `runArguments_layers` — a run works with these settings.
-/
import TestScaffold.CommandLine.Run
import TestScaffold.Proofs.Catalogue.Walk
import TestScaffold.Proofs.Dialogue.Answers

namespace TestScaffold

open CommandLine

/-! ## §1. Normal form -/

/-- An indentation in normal form. -/
def positiveIndent (n : Nat) : Nat :=
  if n = 0 then defaultIndent else n

theorem Settings.normalized_fst (s : Settings) :
    s.normalized.1 =
      { filter :=
          { foldersToIgnore := Text.cleanList s.filter.foldersToIgnore
            patternsToIgnore := Text.cleanList s.filter.patternsToIgnore }
        render :=
          { s.render with
            importPackages := Text.cleanList s.render.importPackages
            indentSize := positiveIndent s.render.indentSize } } := by
  rw [normalized, positiveIndent]
  split <;> rfl

/-- What is put on top of an indentation is put on top of its normal form. -/
theorem positiveIndent_getD (top? : Option Nat) (n : Nat) :
    positiveIndent (top?.getD (positiveIndent n)) = positiveIndent (top?.getD n) := by
  cases top? with
  | some m => rfl
  | none =>
      by_cases hn : n = 0
      · rw [hn]
        rfl
      · have hsame : positiveIndent n = n := if_neg hn
        rw [Option.getD_none, Option.getD_none, hsame, hsame]

/-- **The options may be put on top of the normal form.** -/
theorem CommandLine.Arguments.apply_normalized (a : Arguments) (s : Settings) :
    (a.apply s.normalized.1).normalized.1 = (a.apply s).normalized.1 := by
  simp only [Settings.normalized_fst, apply, applyFilter, applyRender, Text.cleanList_append,
    positiveIndent_getD]

/-- **Answers may be put on top of the normal form.** -/
theorem Answers.apply_normalized (a : Answers) (s : Settings) :
    (a.apply s.normalized.1).normalized.1 = (a.apply s).normalized.1 := by
  simp only [Settings.normalized_fst, apply, FilterAnswers.apply, RenderAnswers.apply,
    Text.cleanList_append, positiveIndent_getD]

/-- The normal form asks the same questions. -/
theorem answersOn_normalized (s : Settings) (input : ByteArray) :
    answersOn s.normalized.1 input = answersOn s input := by
  rw [Settings.normalized_fst]
  rfl

/-! ## §2. The layers of a run -/

/-- The settings of a file as they are written in it, or the built-in ones if none is given. -/
def SettingsFile.written (fs : FileSystem) : Option ByteString → Except Failure Settings
  | some path => readFile fs path
  | none => .ok {}

theorem SettingsFile.loadOrDefault_eq (fs : FileSystem) (path? : Option ByteString) :
    loadOrDefault fs path? = (written fs path?).map Settings.normalized := by
  cases path? with
  | some path => rfl
  | none => rfl

namespace CommandLine

/-- The answers on top of the options on top of the file, brought into normal form once. -/
def layered (file : Settings) (a : Arguments) (answers : Answers) : Settings :=
  (answers.apply (a.apply file)).normalized.1

theorem layered_nothing (file : Settings) (a : Arguments) :
    layered file a {} = (a.apply file).normalized.1 := by
  rw [layered, Answers.apply_nothing]

/-- Loading the file brings it into normal form, and nothing of that is left. -/
theorem settings_eq {fs : FileSystem} {a : Arguments} {file : Settings}
    (h : SettingsFile.written fs a.config? = .ok file) :
    ∃ notices, a.settings fs = .ok (layered file a {}, notices) := by
  have hload : SettingsFile.loadOrDefault fs a.config? = .ok file.normalized := by
    rw [SettingsFile.loadOrDefault_eq, h]
    rfl
  -- the options went on top of the file's normal form
  rw [Arguments.settings, hload, layered_nothing, ← Arguments.apply_normalized]
  exact ⟨_, rfl⟩

/-- The dialogue comes on top of the normal form of the options, and nothing of that is left. -/
theorem runDialogue_layered (file : Settings) (a : Arguments) (input : ByteArray) :
    (runDialogue (layered file a {}) input).1
      = (answersOn (a.apply file) input).map fun r => (r.1, layered file a r.2) := by
  rw [runDialogue_eq, layered_nothing, answersOn_normalized]
  congr 1
  funext r
  rw [Answers.apply_normalized, layered]

/-- **A run works with its layers, brought into normal form once at the end.**  The settings that
    the dialogue starts from, those that it ends with, and those that the batch gets are `layered`,
    made from the settings file as it is written, the options and the answers; every list is the
    cleaned list of all their entries, and every other setting is what the uppermost layer says
    about it. -/
theorem runArguments_layers {fs : FileSystem} {a : Arguments} {file : Settings} (input : ByteArray)
    (hvalid : a.validate fs = .ok ()) (hfile : SettingsFile.written fs a.config? = .ok file) :
    (∃ notices, a.settings fs = .ok (layered file a {}, notices))
      ∧ (runDialogue (layered file a {}) input).1
          = (answersOn (a.apply file) input).map (fun r => (r.1, layered file a r.2))
      ∧ runArguments fs a input =
          (if a.interactive then
            let transcript := (runDialogue (layered file a {}) input).2.transcript
            match answersOn (a.apply file) input with
            | .ok (paths, answers) =>
              generateAll fs a.quiet transcript (layered file a answers) (paths.map .ofText)
            | .error failure => (fs, .stopped transcript (.answers failure))
          else generateAll fs a.quiet "" (layered file a {}) a.paths)
      ∧ ∀ answers : Answers, layered file a answers =
          { filter :=
              { foldersToIgnore := Text.cleanList (file.filter.foldersToIgnore ++ a.ignoreFolders
                  ++ answers.filter.foldersToIgnore)
                patternsToIgnore := Text.cleanList (file.filter.patternsToIgnore ++ a.ignorePatterns
                  ++ answers.filter.patternsToIgnore) }
            render :=
              { outputDir := answers.render.outputDir?.getD
                  (if a.besideSource then "." else a.outputDir?.getD file.render.outputDir)
                framework := answers.render.framework?.getD (a.framework?.getD file.render.framework)
                importPackages := Text.cleanList (file.render.importPackages ++ a.imports
                  ++ answers.render.importPackages)
                indentSize := positiveIndent
                  (answers.render.indent?.getD (a.indent?.getD file.render.indentSize))
                outcome := answers.render.outcome?.getD
                  ((a.assertStatement?.map Outcome.statement).getD
                    (a.outcome?.getD file.render.outcome))
                modulePrefix := answers.render.modulePrefix?.getD
                  (a.modulePrefix?.getD file.render.modulePrefix)
                functionPrefix := answers.render.functionPrefix?.getD
                  (a.functionPrefix?.getD file.render.functionPrefix)
                docstring := answers.render.docstring?.getD (a.docstring?.getD file.render.docstring)
                wrapInClass := answers.render.wrapInClass?.getD
                  (file.render.wrapInClass && !a.noClass)
                className := answers.render.className?.getD (a.className?.getD file.render.className)
                setUp := answers.render.setUp?.getD (file.render.setUp && !a.noSetUp)
                tearDown := answers.render.tearDown?.getD (file.render.tearDown && !a.noTearDown) } } := by
  obtain ⟨notices, hsettings⟩ := settings_eq hfile
  have hdialogue := runDialogue_layered file a input
  refine ⟨⟨notices, hsettings⟩, hdialogue, ?_, fun answers => ?_⟩
  · rw [runArguments, hvalid, hsettings]
    dsimp only
    split
    · -- what the dialogue comes to is known, and its transcript is its own
      generalize runDialogue (layered file a {}) input = talked at hdialogue
      generalize answersOn (a.apply file) input = reading at hdialogue
      obtain ⟨outcome, session⟩ := talked
      cases reading with
      | error failure =>
          rw [show outcome = .error failure from hdialogue]
      | ok r =>
          rw [show outcome = .ok (r.1, layered file a r.2) from hdialogue]
    · rfl
  · have houtcome : (a.applyRender file.render).outcome
        = (a.assertStatement?.map Outcome.statement).getD (a.outcome?.getD file.render.outcome) := by
      rw [Arguments.applyRender]
      cases a.assertStatement? <;> rfl
    rw [layered, Settings.normalized_fst, ← houtcome]
    rfl

/-- A module, and a settings file that is not in normal form. -/
def desk : FileSystem :=
  { top := [("a.py", .file "def f():\n  pass\n".toUTF8),
      ("s.yaml", .file
        "filter:\n  folders_to_ignore: [build, ' build']\nrender:\n  indent_size: 0\n".toUTF8)] }

/-- What the settings file says. -/
def deskFile : Settings :=
  { filter := { foldersToIgnore := ["build", " build"] }, render := { indentSize := 0 } }

/-- A dialogue on top of the file and of two options. -/
def deskOptions : Arguments :=
  { config? := some (.ofText "s.yaml"), ignoreFolders := ["dist"], outputDir? := some "out", interactive := true }

theorem runArguments_layers_desk :
    deskOptions.validate desk = .ok () ∧ SettingsFile.written desk deskOptions.config? = .ok deskFile
      ∧ ∃ transcript, runArguments desk deskOptions "a.py\n dist ;env\n".toUTF8
          = generateAll desk false transcript
              { filter := { foldersToIgnore := ["build", "dist", "env"] }
                render := { outputDir := "out", indentSize := 2 } }
              ["a.py"] := by
  have hvalid : deskOptions.validate desk = .ok () := eq_ok_of_toOption (by decide +kernel)
  have hfile : SettingsFile.written desk deskOptions.config? = .ok deskFile :=
    eq_ok_of_toOption (by decide +kernel)
  obtain ⟨-, -, hrun, -⟩ := runArguments_layers "a.py\n dist ;env\n".toUTF8 hvalid hfile
  have hanswers : answersOn (deskOptions.apply deskFile) "a.py\n dist ;env\n".toUTF8
      = .ok (["a.py"], { filter := { foldersToIgnore := ["dist", "env"] }
                         render := { wrapInClass? := some true } }) :=
    eq_ok_of_toOption (by decide +kernel)
  have hlayered : layered deskFile deskOptions
      { filter := { foldersToIgnore := ["dist", "env"] }, render := { wrapInClass? := some true } }
      = { filter := { foldersToIgnore := ["build", "dist", "env"] }
          render := { outputDir := "out", indentSize := 2 } } := by decide +kernel
  rw [hanswers, if_pos (show deskOptions.interactive = true from rfl)] at hrun
  dsimp only at hrun
  rw [hlayered] at hrun
  exact ⟨hvalid, hfile, _, hrun⟩

end CommandLine

end TestScaffold
