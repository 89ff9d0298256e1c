/-
  TestScaffold.Proofs.TestModule.Contents — what a test module tells of its source.

  Under given settings all tests have the same text but for the name of the function and,
  where docstrings are copied, the docstring.  Each of these ends at the end of its line,
  whatever the statement and the prefix look like, so the text of a test module determines
  the contents of its tests, one by one, and nothing else of the source has a part in it.

    * `SourceModule.content` — the part of a function that its test shows;
    * `renderTest_congr`, `content_of_renderTest` — a test shows that part and no other;
    * `render_eq_iff` — so does a test module of its functions, in order.
-/
import TestScaffold.Proofs.TestModule.Layout

namespace TestScaffold.SourceModule

/-! ## §1. One test -/

/-- What the test of a function shows of it. -/
def content (r : RenderSettings) (f : Function) : String × Option String :=
  (f.name, if r.docstring = .source then some f.docstring else none)

/-- Texts that end with their line. -/
structure OnOneLine (r : RenderSettings) (f : Function) : Prop where
  /-- The name. -/
  name : '\n' ∉ f.name.toList
  /-- The docstring, where it is copied. -/
  docstring : r.docstring = .source → '\n' ∉ f.docstring.toList

instance (r : RenderSettings) (f : Function) : Decidable (OnOneLine r f) :=
  decidable_of_iff ('\n' ∉ f.name.toList ∧ (r.docstring = .source → '\n' ∉ f.docstring.toList))
    ⟨fun ⟨hname, hdoc⟩ => ⟨hname, hdoc⟩, fun h => ⟨h.name, h.docstring⟩⟩

section Test

variable {r : RenderSettings} {f g : Function}

theorem content_eq_iff :
    content r f = content r g
      ↔ f.name = g.name ∧ (r.docstring = .source → f.docstring = g.docstring) := by
  rw [content, content, Prod.mk.injEq]
  refine and_congr_right' ?_
  split
  · rename_i hmode
    simp [hmode]
  · rename_i hmode
    simp [hmode]

theorem renderTest_congr (h : content r f = content r g) : renderTest r f = renderTest r g := by
  obtain ⟨hname, hdoc⟩ := content_eq_iff.mp h
  have hbody : renderDocstring? r f = renderDocstring? r g := by
    unfold renderDocstring?
    cases hmode : r.docstring with
    | source => rw [hdoc hmode]
    | empty => rfl
    | none => rfl
  rw [renderTest, renderTest, hname, hbody]

/-- The body of a test: its docstring is on the first line, if it is copied. -/
theorem docstring_of_testBody {u v : List Char} (hf : OnOneLine r f) (hg : OnOneLine r g)
    (h : written r.indentSize ((testBody r f).map (⟨testDepth r + 1, ·⟩)) ++ u
      = written r.indentSize ((testBody r g).map (⟨testDepth r + 1, ·⟩)) ++ v) :
    (r.docstring = .source → f.docstring = g.docstring) ∧ u = v := by
  unfold testBody at h
  cases hmode : r.docstring with
  | source =>
      simp only [hmode, List.cons_append, List.map_cons, written_cons,
        List.append_assoc] at h
      have hline : ∀ {d : String}, '\n' ∉ d.toList →
          '\n' ∉ IndentedLine.chars r.indentSize ⟨testDepth r + 1, "\"\"\"" ++ d ++ "\"\"\""⟩ :=
        fun hd => IndentedLine.newline_not_mem_chars (by simp [hd]) _
      obtain ⟨hdoc, hrest⟩ := Text.eq_of_append_sep (hline (hf.docstring hmode))
        (hline (hg.docstring hmode)) h
      refine ⟨fun _ => ?_, List.append_cancel_left hrest⟩
      have hquoted := List.append_cancel_left hdoc
      exact String.toList_inj.mp (by simpa using hquoted)
  | empty =>
      rw [hmode] at h
      exact ⟨fun hsource => (nomatch hsource), List.append_cancel_left h⟩
  | none =>
      rw [hmode] at h
      exact ⟨fun hsource => (nomatch hsource), List.append_cancel_left h⟩

/-- **A test shows its content**, whatever follows it. -/
theorem content_of_renderTest {u v : List Char} (hf : OnOneLine r f) (hg : OnOneLine r g)
    (h : (renderTest r f).toList ++ u = (renderTest r g).toList ++ v) :
    content r f = content r g ∧ u = v := by
  -- the same characters stand before both names, line feeds of the prefix among them
  have hopen : ∀ (f : Function) (w : List Char), (renderTest r f).toList ++ w
      = (List.replicate (testDepth r * r.indentSize) ' ' ++ ("def " ++ r.functionPrefix).toList)
        ++ ((f.name.toList ++ (testParameters r ++ ":").toList)
          ++ '\n' :: (written r.indentSize ((testBody r f).map (⟨testDepth r + 1, ·⟩)) ++ w)) := by
    intro f w
    simp [toList_renderTest, testLayout, IndentedLine.chars, signature]
  have hclose : '\n' ∉ (testParameters r ++ ":").toList := by
    unfold testParameters
    cases r.wrapInClass <;> decide
  have hline : ∀ {name : String}, '\n' ∉ name.toList →
      '\n' ∉ name.toList ++ (testParameters r ++ ":").toList :=
    fun hname hmem => (List.mem_append.mp hmem).elim hname hclose
  rw [hopen f u, hopen g v] at h
  obtain ⟨hname, hbody⟩ := Text.eq_of_append_sep (hline hf.name) (hline hg.name)
    (List.append_cancel_left h)
  obtain ⟨hdoc, huv⟩ := docstring_of_testBody hf hg hbody
  exact ⟨content_eq_iff.mpr ⟨String.toList_inj.mp (List.append_cancel_right hname), hdoc⟩, huv⟩

end Test

/-! ## §2. All tests -/

/-- Tests one after another, with a line feed before each. -/
theorem contents_of_tests {r : RenderSettings} {fs gs : List Function}
    (hfs : ∀ f ∈ fs, OnOneLine r f) (hgs : ∀ g ∈ gs, OnOneLine r g)
    (h : fs.flatMap (fun f => '\n' :: (renderTest r f).toList)
      = gs.flatMap (fun g => '\n' :: (renderTest r g).toList)) :
    fs.map (content r) = gs.map (content r) := by
  induction fs generalizing gs with
  | nil =>
      cases gs with
      | nil => rfl
      | cons g gs => exact absurd h (by simp)
  | cons f fs ih =>
      cases gs with
      | nil => exact absurd h (by simp)
      | cons g gs =>
          rw [List.flatMap_cons, List.flatMap_cons] at h
          obtain ⟨hcontent, hrest⟩ := content_of_renderTest (hfs f List.mem_cons_self)
            (hgs g List.mem_cons_self) (List.tail_eq_of_cons_eq h)
          rw [List.map_cons, List.map_cons, hcontent,
            ih (fun f' hf' => hfs f' (List.mem_cons_of_mem f hf'))
              (fun g' hg' => hgs g' (List.mem_cons_of_mem g hg')) hrest]

theorem renderTest_ne_nil (r : RenderSettings) (f : Function) : (renderTest r f).toList ≠ [] := by
  rw [toList_renderTest, testLayout, written_cons]
  simp

/-- There is a text of the tests exactly if there are tests. -/
theorem intercalate_tests_eq_nil_iff {r : RenderSettings} {fs : List Function} :
    (String.intercalate "\n" (fs.map (renderTest r))).toList = [] ↔ fs = [] := by
  constructor
  · intro hnil
    cases fs with
    | nil => rfl
    | cons f fs =>
        have htests := intercalate_tests (r := r) (List.cons_ne_nil f fs)
        rw [hnil, List.flatMap_cons, List.cons_append] at htests
        have htest := List.append_eq_nil_iff.mp (List.tail_eq_of_cons_eq htests).symm
        exact absurd htest.1 (renderTest_ne_nil r f)
  · rintro rfl
    rfl

/-- The tests are made of the contents. -/
theorem map_renderTest (r : RenderSettings) (fs : List Function) :
    fs.map (renderTest r)
      = (fs.map (content r)).map fun c =>
          renderTest r { name := c.1, docstring := c.2.getD "" } := by
  rw [List.map_map]
  refine List.map_congr_left fun f _ => renderTest_congr (content_eq_iff.mpr ⟨rfl, fun hmode => ?_⟩)
  rw [content, if_pos hmode]
  rfl

/-- **A test module tells the contents of its tests, in order, and nothing else of its source**: of
    the names and the copied docstrings none is lost, merged with another or moved, and neither the
    scopes of the functions nor the name and the directory of the module show. -/
theorem render_eq_iff {m n : SourceModule} {r : RenderSettings}
    (hm : ∀ f ∈ m.functions, OnOneLine r f) (hn : ∀ f ∈ n.functions, OnOneLine r f) :
    m.render r = n.render r ↔ m.functions.map (content r) = n.functions.map (content r) := by
  constructor
  · intro h
    -- what stands before and after the tests is the same
    have htests := congrArg String.toList h
    unfold render at htests
    simp only [String.toList_append] at htests
    replace htests := List.append_cancel_left (List.append_cancel_right htests)
    by_cases hmnil : m.functions = []
    · have hnnil : n.functions = [] :=
        intercalate_tests_eq_nil_iff.mp (htests.symm.trans (intercalate_tests_eq_nil_iff.mpr hmnil))
      rw [hmnil, hnnil]
    · have hnnil : n.functions ≠ [] := fun hnnil =>
        hmnil (intercalate_tests_eq_nil_iff.mp (htests.trans (intercalate_tests_eq_nil_iff.mpr hnnil)))
      apply contents_of_tests hm hn
      rw [← intercalate_tests hmnil, ← intercalate_tests hnnil, htests]
  · intro h
    rw [render, render, map_renderTest, map_renderTest, h]

/-- Without indentation the statement looks like the rest of one test and the begin of another, and
    still one test is not two; the classes of the functions do not show. -/
theorem render_eq_iff_lookalike :
    let r : RenderSettings :=
      { wrapInClass := false, indentSize := 0, docstring := .source
        outcome := .statement "return\n\ndef test_b():\n\"\"\"B\"\"\"" }
    let one : SourceModule :=
      { name := "m", fileName := "m.py", baseDir := "", functions := [⟨.module, "a", "A"⟩] }
    let two : SourceModule :=
      { one with functions := [⟨.module, "a", "A"⟩, ⟨.module, "b", "B"⟩] }
    let methods : SourceModule :=
      { name := "n", fileName := "n.py", baseDir := "lib"
        functions := [⟨.ofClass "C", "a", "A"⟩, ⟨.ofClass "D", "b", "B"⟩] }
    one.render r ≠ two.render r ∧ two.render r = methods.render r := by
  intro r one two methods
  have hone : ∀ f ∈ one.functions, OnOneLine r f := by decide
  have htwo : ∀ f ∈ two.functions, OnOneLine r f := by decide
  have hmethods : ∀ f ∈ methods.functions, OnOneLine r f := by decide
  exact ⟨fun h => absurd ((render_eq_iff hone htwo).mp h) (by decide),
    (render_eq_iff htwo hmethods).mpr (by decide)⟩

end TestScaffold.SourceModule
