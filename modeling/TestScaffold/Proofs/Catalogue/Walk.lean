/-
  TestScaffold.Proofs.Catalogue.Walk — the catalogue of a tree, by recursion over the tree.

  The catalogue is collected by a cursor that goes to the next node in document order.  That
  is the same as going down the tree with what encloses each node:

    * `catalogue_eq` — the walk meets the functions at the root, then those below it;
    * `docstring_of_mem_scan` — every function that is found has the same docstring;
    * `scan_of_parse` — the functions of a source whose tree has no fault.
-/
import TestScaffold.Catalogue

namespace TestScaffold

open Python

/-! ## §1. The walk -/

mutual

/-- The functions at a node and below it, in document order. -/
def functionsAt (around : Enclosing) : Node → List Function
  | .mk label children =>
    (describe? around label).toList ++ functionsAmong (around.within label) children

/-- The functions at several nodes and below them. -/
def functionsAmong (around : Enclosing) : List Node → List Function
  | [] => []
  | node :: nodes => functionsAt around node ++ functionsAmong around nodes

end

theorem functionsAmong_append (around : Enclosing) (first later : List Node) :
    functionsAmong around (first ++ later)
      = functionsAmong around first ++ functionsAmong around later := by
  induction first with
  | nil => rfl
  | cons node nodes ih => simp [functionsAmong, ih]

/-- The functions that are still to be met. -/
def catalogueAfter : Option Cursor → List Function
  | some c => catalogueFrom c
  | none => []

theorem catalogueFrom_eq (c : Cursor) :
    catalogueFrom c = (describe? (.ofPath c.path) c.node.label).toList
      ++ catalogueAfter (c.next? true) := by
  rw [catalogueFrom]
  split
  · rename_i d hnext
    rw [hnext]
    rfl
  · rename_i hnext
    rw [hnext]
    simp [catalogueAfter]

theorem ofPath_cons (parent : Label) (right : List Node) (path : List Crumb) :
    Enclosing.ofPath (⟨parent, right⟩ :: path) = (Enclosing.ofPath path).within parent := by
  rw [Enclosing.ofPath]
  rfl

/-- The next node is the first child, or the next one on the way up. -/
theorem next?_eq_climb (label : Label) (children : List Node) (path : List Crumb) :
    Cursor.next? ⟨.mk label children, path⟩ true = Cursor.climb (⟨label, children⟩ :: path) := by
  cases children <;> rfl

mutual

/-- From a node the walk meets what is at and below the node, then what is on the way up. -/
theorem catalogueFrom_node (node : Node) (path : List Crumb) :
    catalogueFrom ⟨node, path⟩
      = functionsAt (.ofPath path) node ++ catalogueAfter (Cursor.climb path) := by
  obtain ⟨label, children⟩ := node
  rw [catalogueFrom_eq, next?_eq_climb, catalogueAfter_siblings children label path, functionsAt,
    List.append_assoc]
  rfl

theorem catalogueAfter_siblings (nodes : List Node) (parent : Label) (path : List Crumb) :
    catalogueAfter (Cursor.climb (⟨parent, nodes⟩ :: path))
      = functionsAmong ((Enclosing.ofPath path).within parent) nodes
        ++ catalogueAfter (Cursor.climb path) := by
  cases nodes with
  | nil => rfl
  | cons node rest =>
      show catalogueFrom ⟨node, ⟨parent, rest⟩ :: path⟩ = _
      rw [catalogueFrom_node node, catalogueAfter_siblings rest parent path, ofPath_cons,
        functionsAmong, List.append_assoc]

end

/-- **The catalogue of a tree** is collected going down the tree. -/
theorem catalogue_eq (t : Node) : catalogue t = functionsAt .module t := by
  unfold catalogue Cursor.root
  rw [catalogueFrom_node]
  simp [Cursor.climb, catalogueAfter, Enclosing.ofPath]

/-! ## §2. What is found -/

theorem docstring_of_describe? {around : Enclosing} {label : Label} {f : Function}
    (h : describe? around label = some f) : f.docstring = placeholderDocstring := by
  unfold describe? at h
  split at h
  · split at h
    · cases h
    · obtain ⟨scope, -, rfl⟩ := Option.map_eq_some_iff.mp h
      rfl
  · cases h

mutual

theorem docstring_of_mem_functionsAt (around : Enclosing) (node : Node) {f : Function}
    (h : f ∈ functionsAt around node) : f.docstring = placeholderDocstring := by
  obtain ⟨label, children⟩ := node
  rw [functionsAt] at h
  rcases List.mem_append.mp h with h | h
  · exact docstring_of_describe? (Option.mem_toList.mp h)
  · exact docstring_of_mem_functionsAmong _ children h

theorem docstring_of_mem_functionsAmong (around : Enclosing) (nodes : List Node) {f : Function}
    (h : f ∈ functionsAmong around nodes) : f.docstring = placeholderDocstring := by
  cases nodes with
  | nil => exact absurd h List.not_mem_nil
  | cons node rest =>
      rw [functionsAmong] at h
      rcases List.mem_append.mp h with h | h
      · exact docstring_of_mem_functionsAt around node h
      · exact docstring_of_mem_functionsAmong around rest h

end

/-- Every function that is found in a source has the same docstring. -/
theorem docstring_of_mem_scan {source : String} {functions : List Function}
    (h : scan source = .ok functions) {f : Function} (hf : f ∈ functions) :
    f.docstring = placeholderDocstring := by
  unfold scan at h
  simp only at h
  split at h
  · cases h
  · cases h
    rw [catalogue_eq] at hf
    exact docstring_of_mem_functionsAt .module _ hf

/-- A result can be told from its value, also where failures cannot be compared. -/
theorem eq_ok_of_toOption {ε α : Type} {x : Except ε α} {a : α} (h : x.toOption = some a) :
    x = .ok a := by
  cases x with
  | error e => cases h
  | ok b =>
      cases h
      rfl

/-- A source whose tree has no fault has the functions of that tree. -/
theorem scan_of_parse {source : String} {nodes : List Node}
    (h : parse source.toList = Node.build .module none nodes source.toList)
    (hclean : nodes.all (fun node => !node.label.flagged) = true) :
    scan source = .ok (functionsAmong .module nodes) := by
  have hflag : (Node.build .module none nodes source.toList).label.flagged = false := by
    show (false || nodes.any fun node => node.label.flagged) = false
    rw [Bool.false_or, List.any_eq_false]
    intro node hnode
    simpa using List.all_eq_true.mp hclean node hnode
  have hcatalogue : catalogue (Node.build .module none nodes source.toList)
      = functionsAmong .module nodes := by
    rw [catalogue_eq]
    rfl
  unfold scan
  simp only [h, firstFault, hflag, hcatalogue, Bool.false_eq_true, if_false]

end TestScaffold
