/-
  TestScaffold.Python.Tree — syntax trees and walks over them.

    * `Node` — kind, name and children; `ERROR` and `MISSING` nodes mark faults;
    * `Cursor` — a node seen from inside its tree, with the way back up;
    * `Cursor.next?` — the next node in document order, skipping subtrees on request.

  The walk needs no stack of its own: it goes to the first child, else to the
  next sibling of the nearest node that has one.
-/

namespace TestScaffold.Python

/-! ## §1. Nodes -/

/-- What a node stands for. -/
inductive Kind where
  /-- A whole source. -/
  | module
  /-- The statements under a header. -/
  | block
  /-- A function definition. -/
  | functionDefinition
  /-- A class definition. -/
  | classDefinition
  /-- Any other statement, by its name in the grammar. -/
  | statement (name : String)
  /-- Text that the grammar does not derive. -/
  | error
  /-- A token that the grammar needs and the text lacks. -/
  | missing (token : String)
  deriving DecidableEq, Repr, Inhabited

/-- What is known of a node itself. -/
structure Label where
  /-- Its kind. -/
  kind : Kind
  /-- The name of a definition. -/
  name? : Option String := none
  /-- Whether the node, or a node below it, is a fault. -/
  flagged : Bool := false
  /-- The source from the node on. -/
  rest : List Char := []
  deriving Repr, Inhabited

/-- Whether the label marks a fault. -/
def Label.isFault (l : Label) : Bool :=
  match l.kind with
  | .error | .missing _ => true
  | _ => false

/-- A syntax tree. -/
inductive Node where
  /-- A node with its children in source order. -/
  | mk (label : Label) (children : List Node)
  deriving Inhabited

namespace Node

/-- The label of the root. -/
def label : Node → Label
  | mk l _ => l

/-- The children of the root. -/
def children : Node → List Node
  | mk _ cs => cs

/-- A node whose flag says whether it or a child is a fault. -/
def build (kind : Kind) (name? : Option String) (children : List Node) (rest : List Char := []) :
    Node :=
  let own : Label := { kind, name?, rest }
  mk { own with flagged := own.isFault || children.any fun c => c.label.flagged } children

mutual

/-- The number of nodes of a tree. -/
def size : Node → Nat
  | mk _ cs => 1 + sizeList cs

/-- The number of nodes of several trees. -/
def sizeList : List Node → Nat
  | [] => 0
  | c :: cs => size c + sizeList cs

end

end Node

/-! ## §2. Cursors -/

/-- One step up: the parent's label and the siblings to the right. -/
structure Crumb where
  /-- The label of the parent. -/
  parent : Label
  /-- The siblings still to be visited. -/
  right : List Node

/-- A node inside its tree. -/
structure Cursor where
  /-- The node. -/
  node : Node
  /-- The way up to the root, nearest parent first. -/
  path : List Crumb

namespace Cursor

/-- The root of a tree. -/
def root (t : Node) : Cursor := ⟨t, []⟩

/-- The first child, if there is one. -/
def firstChild? (c : Cursor) : Option Cursor :=
  match c.node.children with
  | [] => none
  | child :: rest => some ⟨child, ⟨c.node.label, rest⟩ :: c.path⟩

/-- The next sibling of the nearest node on the way up that has one. -/
def climb : List Crumb → Option Cursor
  | [] => none
  | ⟨parent, sibling :: rest⟩ :: up => some ⟨sibling, ⟨parent, rest⟩ :: up⟩
  | ⟨_, []⟩ :: up => climb up

/-- The next node in document order; the children are passed over unless `enter` holds. -/
def next? (c : Cursor) (enter : Bool) : Option Cursor :=
  match if enter then c.firstChild? else none with
  | some child => some child
  | none => climb c.path

/-- The nodes still to be visited on the way up. -/
def pathPending : List Crumb → Nat
  | [] => 0
  | ⟨_, right⟩ :: up => Node.sizeList right + pathPending up

/-- The nodes still to be visited, the current one included. -/
def pending (c : Cursor) : Nat :=
  c.node.size + pathPending c.path

theorem pathPending_climb {path : List Crumb} {c : Cursor} (h : climb path = some c) :
    c.pending ≤ pathPending path := by
  induction path with
  | nil => simp [climb] at h
  | cons crumb up ih =>
    obtain ⟨parent, right⟩ := crumb
    cases right with
    | nil =>
      simp only [climb] at h
      simpa [pathPending, Node.sizeList] using ih h
    | cons sibling rest =>
      simp only [climb, Option.some.injEq] at h
      subst h
      simp [pending, pathPending, Node.sizeList, Nat.add_assoc]

theorem size_pos (t : Node) : 0 < t.size := by
  cases t with
  | mk l cs => simp only [Node.size]; omega

/-- Every step leaves fewer nodes to visit. -/
theorem pending_next?_lt {c d : Cursor} {enter : Bool} (h : c.next? enter = some d) :
    d.pending < c.pending := by
  obtain ⟨⟨label, children⟩, path⟩ := c
  have up : climb path = some d → d.pending < pending ⟨.mk label children, path⟩ := by
    intro hup
    have := pathPending_climb hup
    have := size_pos (.mk label children)
    show d.pending < (Node.mk label children).size + pathPending path
    omega
  cases children with
  | nil => cases enter <;> exact up (by simpa [next?, firstChild?, Node.children] using h)
  | cons child rest =>
    cases enter with
    | false => exact up (by simpa [next?] using h)
    | true =>
      simp only [next?, firstChild?, Node.children, if_true, Option.some.injEq] at h
      subst h
      simp only [pending, pathPending, Node.size, Node.sizeList]
      omega

end Cursor

/-! ## §3. The first fault -/

/-- The first fault from a cursor on; only flagged subtrees are entered. -/
def firstFaultFrom (c : Cursor) : Option Node :=
  if c.node.label.isFault then some c.node
  else
    match _step : c.next? c.node.label.flagged with
    | some d => firstFaultFrom d
    | none => none
termination_by c.pending
decreasing_by exact Cursor.pending_next?_lt _step

/-- The first `ERROR` or `MISSING` node in document order. -/
def firstFault (t : Node) : Option Node :=
  if t.label.flagged then firstFaultFrom (Cursor.root t) else none

end TestScaffold.Python
