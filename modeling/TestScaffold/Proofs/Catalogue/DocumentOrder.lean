/-
  TestScaffold.Proofs.Catalogue.DocumentOrder — which nodes the walk meets, and in which order.

  The cursor has no list of what is still to be done: it goes down, else to a sibling of the
  nearest node that has one.  What it meets is said here by addresses, the child numbers on the
  way from the root:

    * `Node.occurrences` — the nodes of a tree with their addresses and the labels above them;
    * `Cursor.visited_root` — the walk meets exactly these, in this order;
    * `Node.pairwise_occurrences`, `Node.mem_occurrences` — the addresses ascend, and none is
      left out;
    * `catalogue_document_order` — so the catalogue has one entry for each definition that
      deserves a test, judged by the nearest definition above it.
-/
import TestScaffold.Proofs.Catalogue.Walk

namespace TestScaffold

namespace Python

/-! ## §1. Nodes by address -/

namespace Node

/-- The node that is reached by going down to the children with these numbers. -/
def at? : Node → List Nat → Option Node
  | t, [] => some t
  | mk _ children, i :: address =>
    match children[i]? with
    | some child => child.at? address
    | none => none

theorem at?_cons {label : Label} {children : List Node} {i : Nat} {address : List Nat} {n : Node} :
    (mk label children).at? (i :: address) = some n
      ↔ ∃ child, children[i]? = some child ∧ child.at? address = some n := by
  rw [at?]
  cases children[i]? <;> simp

/-- A node at its place in a tree. -/
structure Occurrence where
  /-- The child numbers on the way from the root. -/
  address : List Nat
  /-- The labels of the nodes above it, nearest first. -/
  above : List Label
  /-- The node. -/
  node : Node

/-- The same place seen from the parent, whose child number `i` the root has become. -/
def Occurrence.under (i : Nat) (o : Occurrence) : Occurrence :=
  { o with address := i :: o.address }

mutual

/-- The nodes of a tree in document order: a node before its children, one child after the other. -/
def occurrences (above : List Label) : Node → List Occurrence
  | mk label children => ⟨[], above, mk label children⟩ :: occurrencesFrom (label :: above) 0 children

/-- The nodes of several trees in a row, the first of which is child number `i`. -/
def occurrencesFrom (above : List Label) (i : Nat) : List Node → List Occurrence
  | [] => []
  | child :: rest =>
    (child.occurrences above).map (Occurrence.under i) ++ occurrencesFrom above (i + 1) rest

end

mutual

/-- **Every node occurs**, and nothing else does. -/
theorem mem_occurrences (above : List Label) (t : Node) (address : List Nat) (n : Node) :
    (∃ o ∈ t.occurrences above, o.address = address ∧ o.node = n) ↔ t.at? address = some n := by
  obtain ⟨label, children⟩ := t
  have hbelow := mem_occurrencesFrom (label :: above) children 0 address n
  simp only [occurrences, List.mem_cons, exists_eq_or_imp, hbelow, Nat.zero_add]
  cases address with
  | nil => simp [at?]
  | cons i address =>
      rw [at?_cons]
      constructor
      · rintro (⟨hempty, -⟩ | ⟨j, child, below, haddress, hchild, hat⟩)
        · cases hempty
        · cases haddress
          exact ⟨child, hchild, hat⟩
      · rintro ⟨child, hchild, hat⟩
        exact Or.inr ⟨i, child, address, rfl, hchild, hat⟩

theorem mem_occurrencesFrom (above : List Label) (children : List Node) (i : Nat)
    (address : List Nat) (n : Node) :
    (∃ o ∈ occurrencesFrom above i children, o.address = address ∧ o.node = n)
      ↔ ∃ j child below, address = (i + j) :: below ∧ children[j]? = some child
          ∧ child.at? below = some n := by
  cases children with
  | nil => simp [occurrencesFrom]
  | cons child rest =>
      have hrest := mem_occurrencesFrom above rest (i + 1) address n
      simp only [occurrencesFrom, List.mem_append, or_and_right, exists_or, hrest, List.mem_map]
      constructor
      · rintro (⟨-, ⟨o, ho, rfl⟩, haddress, hnode⟩ | ⟨j, later, below, haddress, hlater, hat⟩)
        · exact ⟨0, child, o.address, haddress.symm, rfl,
            (mem_occurrences above child o.address n).mp ⟨o, ho, rfl, hnode⟩⟩
        · refine ⟨j + 1, later, below, ?_, hlater, hat⟩
          rw [haddress, Nat.add_assoc, Nat.add_comm 1 j]
      · rintro ⟨j, later, below, haddress, hlater, hat⟩
        cases j with
        | zero =>
            cases hlater
            obtain ⟨o, ho, hbelow, hnode⟩ := (mem_occurrences above child below n).mpr hat
            exact Or.inl ⟨o.under i, ⟨o, ho, rfl⟩, by rw [haddress, ← hbelow]; rfl, hnode⟩
        | succ j =>
            refine Or.inr ⟨j, later, below, ?_, hlater, hat⟩
            rw [haddress, Nat.add_assoc, Nat.add_comm 1 j]

end

theorem le_of_mem_occurrencesFrom {above : List Label} {children : List Node} {i : Nat}
    {o : Occurrence} (h : o ∈ occurrencesFrom above i children) :
    ∃ j below, o.address = j :: below ∧ i ≤ j := by
  obtain ⟨j, -, below, haddress, -⟩ :=
    (mem_occurrencesFrom above children i o.address o.node).mp ⟨o, h, rfl, rfl⟩
  exact ⟨i + j, below, haddress, Nat.le_add_right i j⟩

mutual

/-- **The addresses ascend**: no node comes before one that stands before it in the tree, and none
    comes twice. -/
theorem pairwise_occurrences (above : List Label) (t : Node) :
    (t.occurrences above).Pairwise fun o o' => o.address < o'.address := by
  obtain ⟨label, children⟩ := t
  rw [occurrences, List.pairwise_cons]
  refine ⟨?_, pairwise_occurrencesFrom (label :: above) children 0⟩
  intro o ho
  obtain ⟨j, below, haddress, -⟩ := le_of_mem_occurrencesFrom ho
  rw [haddress]
  exact List.nil_lt_cons j below

theorem pairwise_occurrencesFrom (above : List Label) (children : List Node) (i : Nat) :
    (occurrencesFrom above i children).Pairwise fun o o' => o.address < o'.address := by
  cases children with
  | nil => exact List.Pairwise.nil
  | cons child rest =>
      rw [occurrencesFrom, List.pairwise_append, List.pairwise_map]
      refine ⟨?_, pairwise_occurrencesFrom above rest (i + 1), ?_⟩
      · refine (pairwise_occurrences above child).imp ?_
        intro o o' hlt
        exact List.cons_lt_cons_iff.mpr (Or.inr ⟨rfl, hlt⟩)
      · -- the first number of an address tells the child
        intro o ho o' ho'
        obtain ⟨first, -, rfl⟩ := List.mem_map.mp ho
        obtain ⟨j, below, haddress, hle⟩ := le_of_mem_occurrencesFrom ho'
        rw [haddress]
        exact List.cons_lt_cons_iff.mpr (Or.inl hle)

end

end Node

/-! ## §2. The walk -/

namespace Cursor

/-- The nodes that a walk meets from a cursor on, each with the way up from it. -/
def visited (c : Cursor) : List Cursor :=
  match _step : c.next? true with
  | some d => c :: visited d
  | none => [c]
termination_by c.pending
decreasing_by exact pending_next?_lt _step

/-- The labels above a cursor, nearest first. -/
def above (c : Cursor) : List Label :=
  c.path.map Crumb.parent

/-- What is still to be met. -/
def visitedAfter : Option Cursor → List Cursor
  | some c => visited c
  | none => []

theorem visited_eq (c : Cursor) : c.visited = c :: visitedAfter (c.next? true) := by
  rw [visited]
  split
  · rename_i d hnext
    rw [hnext]
    rfl
  · rename_i hnext
    rw [hnext]
    rfl

mutual

/-- From a node the walk meets what is at and below the node, then what is on the way up. -/
theorem visited_node (node : Node) (path : List Crumb) :
    ∃ below, visited ⟨node, path⟩ = below ++ visitedAfter (climb path)
      ∧ below.map (fun c => (c.above, c.node))
        = (node.occurrences (path.map Crumb.parent)).map fun o => (o.above, o.node) := by
  obtain ⟨label, children⟩ := node
  obtain ⟨among, hamong, hmap⟩ := visited_siblings children 0 label path
  refine ⟨⟨.mk label children, path⟩ :: among, ?_, ?_⟩
  · rw [visited_eq, next?_eq_climb, hamong]
    rfl
  · rw [Node.occurrences, List.map_cons, List.map_cons, hmap]
    rfl

theorem visited_siblings (nodes : List Node) (i : Nat) (parent : Label) (path : List Crumb) :
    ∃ among, visitedAfter (climb (⟨parent, nodes⟩ :: path)) = among ++ visitedAfter (climb path)
      ∧ among.map (fun c => (c.above, c.node))
        = (Node.occurrencesFrom (parent :: path.map Crumb.parent) i nodes).map
            fun o => (o.above, o.node) := by
  cases nodes with
  | nil => exact ⟨[], rfl, rfl⟩
  | cons node rest =>
      obtain ⟨below, hbelow, hnode⟩ := visited_node node (⟨parent, rest⟩ :: path)
      obtain ⟨among, hamong, hrest⟩ := visited_siblings rest (i + 1) parent path
      refine ⟨below ++ among, ?_, ?_⟩
      · show visited ⟨node, ⟨parent, rest⟩ :: path⟩ = _
        rw [hbelow, hamong, List.append_assoc]
      · rw [List.map_append, hnode, hrest, Node.occurrencesFrom, List.map_append, List.map_map]
        rfl

end

/-- **The walk over a tree** meets its nodes in document order, each with the labels above it. -/
theorem visited_root (t : Node) :
    (visited (root t)).map (fun c => (c.above, c.node))
      = (t.occurrences []).map fun o => (o.above, o.node) := by
  obtain ⟨below, hbelow, hmap⟩ := visited_node t []
  -- nothing is on the way up from the root
  have hall : visited (root t) = below := by simpa [root, climb, visitedAfter] using hbelow
  rw [hall]
  exact hmap

end Cursor

/-- Definitions of functions and of classes. -/
def Label.isDefinition (l : Label) : Bool :=
  match l.kind with
  | .functionDefinition | .classDefinition => true
  | _ => false

end Python

open Python

/-! ## §3. What is kept of a node -/

/-- The scope of a definition below these labels, by the nearest definition among them: there is none,
    or it is a class. -/
def scopeBelow? (above : List Label) : Option Scope :=
  match above.find? Label.isDefinition with
  | none => some .module
  | some nearest =>
    if nearest.kind = .classDefinition then nearest.name?.map Scope.ofClass else none

/-- The catalogue's entry for a node below these labels: for the definition of a function with a name
    that does not stand between double underscores, where it has a scope. -/
def listed? (above : List Label) (l : Label) : Option Function :=
  if l.kind = .functionDefinition then do
    let name ← l.name?
    let scope ← scopeBelow? above
    if Text.isDunder name then none
    else some { scope, name, docstring := placeholderDocstring }
  else none

theorem scope?_ofPath (path : List Crumb) :
    (Enclosing.ofPath path).scope? = scopeBelow? (path.map Crumb.parent) := by
  induction path with
  | nil => rfl
  | cons crumb up ih =>
      obtain ⟨⟨kind, name?, flagged, rest⟩, right⟩ := crumb
      unfold scopeBelow? at ih ⊢
      cases kind with
      | classDefinition => cases name? <;> rfl
      | functionDefinition => rfl
      | module => exact ih
      | block => exact ih
      | statement name => exact ih
      | error => exact ih
      | missing token => exact ih

/-- The search upwards from a node finds what the labels above it say. -/
theorem describe?_ofPath (path : List Crumb) (l : Label) :
    describe? (.ofPath path) l = listed? (path.map Crumb.parent) l := by
  unfold describe? listed?
  obtain ⟨kind, name?, flagged, rest⟩ := l
  cases kind with
  | functionDefinition =>
      cases name? with
      | none => rfl
      | some name =>
          simp only [scope?_ofPath]
          cases scopeBelow? (path.map Crumb.parent) <;> cases hd : Text.isDunder name <;> simp [hd]
  | classDefinition => rfl
  | module => rfl
  | block => rfl
  | statement name => rfl
  | error => rfl
  | missing token => rfl

/-- The catalogue keeps of every cursor that is met what the labels there say. -/
theorem catalogueFrom_eq_visited (c : Cursor) :
    catalogueFrom c = c.visited.filterMap fun d => listed? d.above d.node.label := by
  rw [catalogueFrom_eq, Cursor.visited_eq, describe?_ofPath]
  have hlater : catalogueAfter (c.next? true)
      = (Cursor.visitedAfter (c.next? true)).filterMap fun d => listed? d.above d.node.label := by
    cases hnext : c.next? true with
    | none => rfl
    | some d => exact catalogueFrom_eq_visited d
  rw [hlater]
  show (listed? c.above c.node.label).toList ++ _ = _
  cases hentry : listed? c.above c.node.label <;> simp [hentry]
termination_by c.pending
decreasing_by exact Cursor.pending_next?_lt hnext

/-- **The catalogue follows the document order.**  For every tree the walk of the cursor gives what the
    recursion gives that goes down the tree with the nearest definition around each node.  It meets
    every node of the tree once, in ascending order of their addresses, and keeps one entry for each
    definition of a function that has a scope and no special name. -/
theorem catalogue_document_order (t : Node) :
    catalogue t = functionsAt .module t
      ∧ catalogue t = (t.occurrences []).filterMap (fun o => listed? o.above o.node.label)
      ∧ (Cursor.visited (.root t)).map (fun c => (c.above, c.node))
          = (t.occurrences []).map (fun o => (o.above, o.node))
      ∧ (t.occurrences []).Pairwise (fun o o' => o.address < o'.address)
      ∧ ∀ address node, (∃ o ∈ t.occurrences [], o.address = address ∧ o.node = node)
          ↔ t.at? address = some node := by
  refine ⟨catalogue_eq t, ?_, Cursor.visited_root t, Node.pairwise_occurrences [] t,
    Node.mem_occurrences [] t⟩
  -- the entries depend on nothing but the labels above and the node
  have hentries := congrArg (List.filterMap fun p => listed? p.1 p.2.label) (Cursor.visited_root t)
  rw [List.filterMap_map, List.filterMap_map] at hentries
  exact (catalogueFrom_eq_visited (.root t)).trans hentries

end TestScaffold
