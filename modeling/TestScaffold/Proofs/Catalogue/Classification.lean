/-
  TestScaffold.Proofs.Catalogue.Classification — which definitions of an outline are found.

  A function is found under the class around it, or under the module if it stands in no
  definition; inside a function nothing is found but what a class in it holds:

    * `Item.functions`, `Items.functions` — the functions of an outline, read off its nesting;
    * `functionsAmong_items` — they are those of its tree;
    * `scan_items`, `scan_program` — and so those of its text.
-/
import TestScaffold.Proofs.Catalogue.Walk
import TestScaffold.Proofs.Python.Outline

namespace TestScaffold

open Python

namespace Python.Outline

/-! ## §1. Functions of an outline -/

namespace Head

/-- The scope of the functions in the block of a header; none inside a function. -/
def within (around : Option Scope) : Head → Option Scope
  | conditional _ => around
  | function _ _ _ _ => none
  | klass _ name _ => some (.ofClass name.text)

/-- The function that a header defines, if it is found in its scope. -/
def function? (around : Option Scope) : Head → Option Function
  | function _ _ name _ =>
    if Text.isDunder name.text then none
    else around.map fun scope => { scope, name := name.text, docstring := placeholderDocstring }
  | conditional _ | klass _ _ _ => none

end Head

mutual

/-- The functions of a statement that are found, in the order of the text. -/
def Item.functions (around : Option Scope) : Item → List Function
  | .simple _ _ => []
  | .compound _ head body => (head.function? around).toList ++ body.functions (head.within around)

/-- The functions of a block that are found. -/
def Items.functions (around : Option Scope) : Items → List Function
  | .one item => item.functions around
  | .more item rest => item.functions around ++ rest.functions around

end

theorem Items.functions_ofList (around : Option Scope) (items : List Item) (h : items ≠ []) :
    (Items.ofList items h).functions around = items.flatMap (·.functions around) := by
  induction items with
  | nil => exact absurd rfl h
  | cons item rest ih =>
      cases rest with
      | nil => simp [Items.ofList, Items.functions]
      | cons next rest =>
          rw [Items.ofList, Items.functions, ih (List.cons_ne_nil _ _)]
          rfl

/-! ## §2. The tree of an outline -/

theorem describe?_head (around : Enclosing) (h : Head) (flagged : Bool) (rest : List Char) :
    describe? around { kind := h.kind, name? := h.name?, flagged, rest }
      = h.function? around.scope? := by
  cases h <;> rfl

theorem scope?_within (around : Enclosing) (h : Head) (flagged : Bool) (rest : List Char) :
    (around.within { kind := h.kind, name? := h.name?, flagged, rest }).scope?
      = h.within around.scope? := by
  cases h <;> rfl

mutual

theorem functionsAmong_item (around : Enclosing) (item : Item) :
    functionsAmong around item.nodes = item.functions around.scope? := by
  cases item with
  | simple blanks line => rfl
  | compound blanks head body =>
      -- the block between the header and its statements encloses nothing
      have hbody := functionsAmong_items
        (around.within (Node.build head.kind head.name? [Node.build .block none body.nodes]).label) body
      rw [Node.build, Node.label, scope?_within] at hbody
      rw [Item.nodes, functionsAmong, functionsAmong, Node.build, functionsAt, describe?_head,
        functionsAmong, functionsAmong, Node.build, functionsAt]
      show (head.function? around.scope?).toList ++ (([] ++ functionsAmong _ body.nodes) ++ []) ++ [] = _
      rw [List.nil_append, List.append_nil, List.append_nil]
      exact congrArg _ hbody

/-- The functions of the tree of a block are those of the block. -/
theorem functionsAmong_items (around : Enclosing) (items : Items) :
    functionsAmong around items.nodes = items.functions around.scope? := by
  cases items with
  | one item => exact functionsAmong_item around item
  | more item rest =>
      rw [Items.nodes, functionsAmong_append, functionsAmong_item around item,
        functionsAmong_items around rest, Items.functions]

end

mutual

theorem clean_item (item : Item) :
    item.nodes.all (fun node => !node.label.flagged) = true := by
  cases item with
  | simple blanks line => rfl
  | compound blanks head body =>
      have hbody := clean_items body
      have hfault : (Label.isFault { kind := head.kind, name? := head.name? }) = false := by
        cases head <;> rfl
      have hnone : (body.nodes.any fun node => node.label.flagged) = false := by
        rw [List.any_eq_false]
        intro node hnode
        simpa using List.all_eq_true.mp hbody node hnode
      show (!(Label.isFault _ || ((false || body.nodes.any _) || false)) && true) = true
      rw [hfault, hnone]
      rfl

/-- The tree of an outline has no fault. -/
theorem clean_items (items : Items) :
    items.nodes.all (fun node => !node.label.flagged) = true := by
  cases items with
  | one item => exact clean_item item
  | more item rest =>
      rw [Items.nodes, List.all_append, clean_item item, clean_items rest]
      rfl

end

/-! ## §3. The text of an outline -/

/-- The functions of a block at the left margin are found in its text. -/
theorem scan_items {width : Nat} (hwidth : 0 < width) (items : Items)
    (hdeep : width * items.depth < columnModulus) (ends : Nat) :
    scan (String.ofList (items.chars width 0 ++ List.replicate ends '\n'))
      = .ok (items.functions (some .module)) := by
  refine (scan_of_parse ?_ (clean_items items)).trans ?_
  · rw [String.toList_ofList]
    exact parse_chars ends hwidth items hdeep
  · exact congrArg _ (functionsAmong_items .module items)

/-- The text of a program: its statements at the left margin, on lines of their own, and the line
    ends after the last of them. -/
def programText (width ends : Nat) (program : List Item) : String :=
  String.ofList (['\n'].intercalate (program.map (·.chars width 0)) ++ List.replicate ends '\n')

/-- **Scanning classifies every definition.**  However definitions and conditionals are nested,
    decorated or not, the text is read without a fault, and the functions that are found are those
    whose nearest definition around is a class or none, in the order of the text.  The only bound is
    on the columns of the lines. -/
theorem scan_program {width : Nat} (hwidth : 0 < width) (program : List Item)
    (hdeep : ∀ item ∈ program, width * item.depth < columnModulus) (ends : Nat) :
    scan (programText width ends program) = .ok (program.flatMap (·.functions (some .module))) := by
  by_cases hempty : program = []
  · -- no statement: nothing but line ends
    subst hempty
    have hparse : parse (programText width ends []).toList
        = Node.build .module none [] (programText width ends []).toList := by
      rw [programText, String.toList_ofList]
      exact parse_blank ends
    exact scan_of_parse hparse rfl
  · obtain ⟨deepest, hmem, hdepth⟩ := Items.depth_ofList program hempty
    have hscan := scan_items hwidth (Items.ofList program hempty)
      (by rw [hdepth]; exact hdeep deepest hmem) ends
    rw [Items.chars_ofList, Items.functions_ofList] at hscan
    exact hscan

/-- A class with a special method and, in a conditional, a decorated coroutine that defines a function
    and a class of its own; after five levels have ended, a function of the module. -/
def nestedProgram : List Item :=
  let called (name : String) (named : isName name = true) (free : isReserved name = false)
      (decorator? : Option Identifier := none) (isAsync : Bool := false) : Head :=
    .function decorator? isAsync ⟨name, named, free⟩ false
  let pass : Items := .one (.simple 0 .pass)
  [ .compound 0 (.klass none ⟨"Stack", rfl, rfl⟩ none)
      (.more (.compound 0 (called "__init__" rfl rfl) pass)
        (.one (.compound 0 (.conditional ⟨"x", rfl, rfl⟩)
          (.one (.compound 0 (called "push" rfl rfl (some ⟨"cached", rfl, rfl⟩) true)
            (.more (.compound 0 (called "helper" rfl rfl) pass)
              (.one (.compound 0 (.klass none ⟨"Entry", rfl, rfl⟩ none)
                (.one (.compound 0 (called "show" rfl rfl) pass))))))))))
  , .compound 0 (called "main" rfl rfl) pass ]

theorem scan_program_nested :
    programText 2 1 nestedProgram
        = "class Stack:\n  def __init__():\n    pass\n  if x:\n    @cached\n    async def push():\n"
          ++ "      def helper():\n        pass\n      class Entry:\n        def show():\n"
          ++ "          pass\ndef main():\n  pass\n"
      ∧ scan (programText 2 1 nestedProgram)
        = .ok [{ scope := .ofClass "Stack", name := "push", docstring := "function docstring" },
            { scope := .ofClass "Entry", name := "show", docstring := "function docstring" },
            { scope := .module, name := "main", docstring := "function docstring" }] := by
  refine ⟨by decide +kernel, (scan_program (by decide) nestedProgram (by decide +kernel) 1).trans ?_⟩
  rfl

end Python.Outline

end TestScaffold
