/-
  TestScaffold.Proofs.Dialogue.Parts — what a dialogue is put together from.

  A dialogue opens with the question for paths.  Everything after it is single answers
  and the remarks on them, one after the other, and which question comes next hangs on
  the answers before it.  What holds of an answer, of a remark and of the question for
  paths, and of two parts in a row if it holds of both, holds of every dialogue.

    * `Spoken` — parts of a dialogue, by the way they are put together;
    * `dialogue_spoken` — a dialogue is one, whatever it is asked on top of.
-/
import TestScaffold.Dialogue

namespace TestScaffold

/-- **Parts of a dialogue**, by the way they are put together. -/
inductive Spoken : ∀ {α : Type}, Talk α → Prop where
  /-- Nothing is said. -/
  | pure {α : Type} (a : α) : Spoken (Pure.pure a)
  /-- What is said next hangs on what came before. -/
  | bind {α β : Type} {x : Talk α} {f : α → Talk β} (hx : Spoken x) (hf : ∀ a, Spoken (f a)) :
      Spoken (x >>= f)
  /-- A question that may be left unanswered. -/
  | answer (question : String) : Spoken (answer question)
  /-- Remarks. -/
  | keepNotices {α : Type} (u : Answer.Understood α) : Spoken (keepNotices u)
  /-- The question that has to be answered. -/
  | askSourcePaths : Spoken askSourcePaths

theorem askText_spoken (question current : String) : Spoken (askText question current) :=
  (Spoken.answer question).bind fun _ => .pure _

theorem askMore_spoken (question : String) (current : List String) : Spoken (askMore question current) :=
  (Spoken.answer question).bind fun _ => .pure _

theorem askYesNo_spoken (text : String) (current : Bool) : Spoken (askYesNo text current) :=
  (Spoken.answer _).bind fun _ => .keepNotices _

theorem askIndent_spoken (current : Nat) : Spoken (askIndent current) :=
  (Spoken.answer _).bind fun _ => .keepNotices _

theorem askChoice_spoken {α : Type} (question : String) (understand : String → Answer.Understood α)
    (current : α) : Spoken (askChoice question understand current) := by
  refine (Spoken.answer question).bind fun a => ?_
  split
  · exact .pure current
  · exact .keepNotices (understand a)

theorem askOutputDir_spoken (current : String) : Spoken (askOutputDir current) := by
  refine (Spoken.answer _).bind fun a => (Spoken.keepNotices _).bind fun placement => ?_
  -- only a new folder has a name
  cases placement with
  | newFolder => exact askText_spoken (Question.outputDir current) current
  | besideSource => exact .pure _

theorem askFilter_spoken (f : FilterSettings) : Spoken (askFilter f) :=
  (askMore_spoken _ _).bind fun _ => (askMore_spoken _ _).bind fun _ => .pure _

/-- The framework and the answers decide which questions about the class there are. -/
theorem askClass_spoken (r : RenderSettings) : Spoken (askClass r) := by
  cases hooks : r.framework == .unittest with
  | true =>
      simp only [askClass, hooks, if_true, pure_bind]
      refine (askText_spoken _ r.className).bind fun className => ?_
      refine (askYesNo_spoken _ r.setUp).bind fun setUp => ?_
      exact (askYesNo_spoken _ r.tearDown).bind fun tearDown => .pure _
  | false =>
      simp only [askClass, hooks, Bool.false_eq_true, if_false]
      refine (askYesNo_spoken _ r.wrapInClass).bind fun wrapInClass => ?_
      -- the name is asked for only if the answer was yes
      cases wrapInClass with
      | false => exact .pure _
      | true => exact (askText_spoken _ r.className).bind fun className => .pure _

theorem askRender_spoken (r : RenderSettings) : Spoken (askRender r) := by
  rw [askRender]
  refine (askOutputDir_spoken r.outputDir).bind fun outputDir => ?_
  refine (askChoice_spoken _ Answer.framework r.framework).bind fun framework => ?_
  refine (askMore_spoken _ r.importPackages).bind fun importPackages => ?_
  refine (askIndent_spoken r.indentSize).bind fun indentSize => ?_
  refine (askChoice_spoken _ Answer.outcome r.outcome).bind fun outcome => ?_
  refine (askText_spoken _ r.modulePrefix).bind fun modulePrefix => ?_
  refine (askText_spoken _ r.functionPrefix).bind fun functionPrefix => ?_
  refine (askChoice_spoken _ Answer.docstring r.docstring).bind fun docstring => ?_
  exact askClass_spoken _

/-- **A dialogue is put together from its parts.** -/
theorem dialogue_spoken (base : Settings) : Spoken (dialogue base) := by
  rw [dialogue]
  refine Spoken.askSourcePaths.bind fun paths => ?_
  refine (askFilter_spoken base.filter).bind fun filter => ?_
  refine (askRender_spoken base.render).bind fun render => ?_
  exact (Spoken.keepNotices _).bind fun settings => .pure _

end TestScaffold
