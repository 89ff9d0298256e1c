/-
  TestScaffold.Proofs.Catalogue.FirstFault — the search for the first fault misses none.

  The search goes through a tree like the walk of the catalogue, but passes over what stands below
  a node that is not flagged.  It keeps no list of the nodes that it has seen, so what it has done is
  said by the walk that is still ahead of it:

    * `Node.FlagsFaults` — the flags tell where the faults are;
    * `Cursor.visited_search` — one round leaves out a part of the walk that has no fault;
    * `Cursor.visited_searchFrom` — so do all rounds, and each of them at least one node;
    * `pruned_search_exact` — so the search ends, with the first fault in document order.

  A tree that is put together node by node flags its faults, and every tree of a source is:

    * `Node.flagsFaults_build`, `flagsFaults_parse`;
    * `scan_eq` — a source is refused for the first fault of its tree, and only for a fault.
-/
import TestScaffold.Proofs.Catalogue.DocumentOrder
import TestScaffold.Proofs.Python.Carried

namespace TestScaffold

namespace Python

/-! ## §1. Flags -/

namespace Node

/-- Whether a node is the root of a tree or stands somewhere below it. -/
def Contains (t n : Node) : Prop :=
  ∃ address, t.at? address = some n

/-- A node is flagged just if it is a fault or a node below it is: what the search takes for granted
    of a tree. -/
def FlagsFaults (t : Node) : Prop :=
  ∀ n, t.Contains n →
    (n.label.flagged = true ↔ ∃ fault, n.Contains fault ∧ fault.label.isFault = true)

theorem contains_self (t : Node) : t.Contains t :=
  ⟨[], rfl⟩

theorem contains_mk {label : Label} {children : List Node} {n : Node} :
    (mk label children).Contains n
      ↔ n = mk label children ∨ ∃ child ∈ children, child.Contains n := by
  constructor
  · rintro ⟨_ | ⟨i, address⟩, hat⟩
    · exact Or.inl (Option.some.inj hat).symm
    · obtain ⟨child, hchild, hbelow⟩ := at?_cons.mp hat
      exact Or.inr ⟨child, List.mem_of_getElem? hchild, address, hbelow⟩
  · rintro (rfl | ⟨child, hchild, address, hbelow⟩)
    · exact contains_self _
    · obtain ⟨i, hi⟩ := List.mem_iff_getElem?.mp hchild
      exact ⟨i :: address, at?_cons.mpr ⟨child, hi, hbelow⟩⟩

/-- What the list of occurrences has is what the tree contains. -/
theorem mem_map_occurrences {t n : Node} (above : List Label) :
    n ∈ (t.occurrences above).map Occurrence.node ↔ t.Contains n := by
  constructor
  · intro h
    obtain ⟨o, ho, hnode⟩ := List.mem_map.mp h
    exact ⟨o.address, (mem_occurrences above t o.address n).mp ⟨o, ho, rfl, hnode⟩⟩
  · rintro ⟨address, hat⟩
    obtain ⟨o, ho, -, hnode⟩ := (mem_occurrences above t address n).mpr hat
    exact List.mem_map.mpr ⟨o, ho, hnode⟩

theorem occurrences_ne_nil (above : List Label) (t : Node) : t.occurrences above ≠ [] := by
  obtain ⟨label, children⟩ := t
  exact List.cons_ne_nil _ _

theorem Contains.trans {t m n : Node} (hm : t.Contains m) (hn : m.Contains n) : t.Contains n := by
  obtain ⟨address, hat⟩ := hm
  induction address generalizing t with
  | nil =>
      cases Option.some.inj hat
      exact hn
  | cons i address ih =>
      obtain ⟨label, children⟩ := t
      obtain ⟨child, hchild, hbelow⟩ := at?_cons.mp hat
      exact contains_mk.mpr (Or.inr ⟨child, List.mem_of_getElem? hchild, ih hbelow⟩)

/-- What holds of the flags of a tree holds of those of every tree in it. -/
theorem FlagsFaults.of_contains {t n : Node} (h : t.FlagsFaults) (hn : t.Contains n) :
    n.FlagsFaults :=
  fun m hm => h m (hn.trans hm)

/-- Nothing that an unflagged node contains is a fault. -/
theorem FlagsFaults.isFault_eq_false {t n : Node} (h : t.FlagsFaults)
    (hflag : t.label.flagged = false) (hn : t.Contains n) : n.label.isFault = false := by
  rw [Bool.eq_false_iff]
  intro hfault
  have hflagged := (h t (contains_self t)).mpr ⟨n, hn, hfault⟩
  rw [hflag] at hflagged
  cases hflagged

/-- **A tree that is built from trees whose flags are right** has right flags. -/
theorem flagsFaults_build {kind : Kind} {name? : Option String} {children : List Node}
    {rest : List Char} (h : ∀ child ∈ children, child.FlagsFaults) :
    (build kind name? children rest).FlagsFaults := by
  intro n hn
  rcases contains_mk.mp hn with rfl | ⟨child, hchild, hbelow⟩
  · -- the root looks at itself and at the flags of its children
    show ((_ || children.any fun c => c.label.flagged) = true) ↔ _
    rw [Bool.or_eq_true, List.any_eq_true]
    constructor
    · rintro (hown | ⟨child, hchild, hflag⟩)
      · exact ⟨_, contains_self _, hown⟩
      · obtain ⟨fault, hfault, hisFault⟩ := (h child hchild child (contains_self child)).mp hflag
        exact ⟨fault, contains_mk.mpr (Or.inr ⟨child, hchild, hfault⟩), hisFault⟩
    · rintro ⟨fault, hfault, hisFault⟩
      rcases contains_mk.mp hfault with rfl | ⟨child, hchild, hbelow⟩
      · exact Or.inl hisFault
      · exact Or.inr ⟨child, hchild,
          (h child hchild child (contains_self child)).mpr ⟨fault, hbelow, hisFault⟩⟩
  · exact h child hchild n hbelow

end Node

/-! ## §2. Rounds of the search -/

namespace Cursor

theorem nodes_of_places {met : List Cursor} {os : List Node.Occurrence}
    (h : met.map (fun c => (c.above, c.node)) = os.map fun o => (o.above, o.node)) :
    met.map Cursor.node = os.map Node.Occurrence.node := by
  have hnodes := congrArg (List.map Prod.snd) h
  rwa [List.map_map, List.map_map] at hnodes

/-- The walk over a tree looks at the nodes in document order. -/
theorem visited_nodes (t : Node) :
    (visited (root t)).map Cursor.node = (t.occurrences []).map Node.Occurrence.node :=
  nodes_of_places (visited_root t)

theorem contains_of_mem_visited {t : Node} {c : Cursor} (h : c ∈ visited (root t)) :
    t.Contains c.node := by
  rw [← Node.mem_map_occurrences [], ← visited_nodes]
  exact List.mem_map_of_mem h

theorem mem_visited_self (c : Cursor) : c ∈ c.visited := by
  rw [visited_eq]
  exact List.mem_cons_self

/-- **One round of the search** leaves out a part of the walk, and what it leaves out has no fault: the
    node itself, and all that an unflagged node contains. -/
theorem visited_search {c : Cursor} (hflags : c.node.FlagsFaults)
    (hfault : c.node.label.isFault = false) :
    ∃ passed, c.visited = passed ++ visitedAfter (c.next? c.node.label.flagged) ∧ passed ≠ []
      ∧ ∀ p ∈ passed, p.node.label.isFault = false := by
  cases hflag : c.node.label.flagged with
  | true => exact ⟨[c], visited_eq c, List.cons_ne_nil c [], by simpa using hfault⟩
  | false =>
      obtain ⟨below, hbelow, hmap⟩ := visited_node c.node c.path
      refine ⟨below, hbelow, ?_, ?_⟩
      · rintro rfl
        exact absurd (List.map_eq_nil_iff.mp hmap.symm) (Node.occurrences_ne_nil _ _)
      · intro p hp
        refine hflags.isFault_eq_false hflag ?_
        rw [← Node.mem_map_occurrences (c.path.map Crumb.parent), ← nodes_of_places hmap]
        exact List.mem_map_of_mem hp

/-- The next place where the search looks; at a fault it stops. -/
def searchNext? (c : Cursor) : Option Cursor :=
  if c.node.label.isFault then none else c.next? c.node.label.flagged

/-- Where the search stands after that many rounds, if it has not ended. -/
def searchFrom (c : Cursor) : (rounds : Nat) → Option Cursor
  | 0 => some c
  | rounds + 1 => c.searchNext?.bind fun d => d.searchFrom rounds

/-- **All rounds of the search**: what is ahead is the rest of the walk, at least one node is left out
    in every round, and nothing that has been left out is a fault. -/
theorem visited_searchFrom {c d : Cursor} {rounds : Nat}
    (hflags : ∀ p ∈ c.visited, p.node.FlagsFaults) (h : c.searchFrom rounds = some d) :
    ∃ before, c.visited = before ++ d.visited ∧ rounds ≤ before.length
      ∧ ∀ b ∈ before, b.node.label.isFault = false := by
  induction rounds generalizing c with
  | zero =>
      cases Option.some.inj h
      exact ⟨[], rfl, Nat.le_refl 0, fun _ hb => absurd hb List.not_mem_nil⟩
  | succ rounds ih =>
      obtain ⟨e, hnext, h⟩ := Option.bind_eq_some_iff.mp h
      unfold searchNext? at hnext
      split at hnext
      · cases hnext
      · rename_i hfault
        obtain ⟨passed, hvisited, hne, hpassed⟩ :=
          visited_search (hflags c c.mem_visited_self) (Bool.eq_false_iff.mpr hfault)
        rw [hnext] at hvisited
        change c.visited = passed ++ e.visited at hvisited
        have hahead : ∀ p ∈ e.visited, p.node.FlagsFaults := by
          intro p hp
          refine hflags p ?_
          rw [hvisited]
          exact List.mem_append_right _ hp
        obtain ⟨before, hbefore, hrounds, hclean⟩ := ih hahead h
        refine ⟨passed ++ before, ?_, ?_, ?_⟩
        · rw [hvisited, hbefore, List.append_assoc]
        · have hone := List.length_pos_iff.mpr hne
          rw [List.length_append]
          omega
        · intro b hb
          exact (List.mem_append.mp hb).elim (hpassed b) (hclean b)

end Cursor

/-! ## §3. What the search finds -/

theorem firstFaultFrom_eq (c : Cursor) :
    firstFaultFrom c
      = if c.node.label.isFault then some c.node
        else (c.next? c.node.label.flagged).bind firstFaultFrom := by
  rw [firstFaultFrom]
  split
  · rfl
  · split
    · rename_i d hnext
      rw [hnext]
      rfl
    · rename_i hnext
      rw [hnext]
      rfl

/-- The search finds what its rounds come to. -/
theorem firstFaultFrom_eq_some_iff {c : Cursor} {n : Node} :
    firstFaultFrom c = some n
      ↔ ∃ rounds d, c.searchFrom rounds = some d ∧ d.node.label.isFault = true ∧ d.node = n := by
  rw [firstFaultFrom_eq]
  by_cases hfault : c.node.label.isFault = true
  · rw [if_pos hfault]
    constructor
    · intro h
      exact ⟨0, c, rfl, hfault, Option.some.inj h⟩
    · rintro ⟨_ | rounds, d, hd, -, rfl⟩
      · cases Option.some.inj hd
        rfl
      · -- there is no round after a fault
        simp [Cursor.searchFrom, Cursor.searchNext?, hfault] at hd
  · have hstep : ∀ rounds, c.searchFrom (rounds + 1)
        = (c.next? c.node.label.flagged).bind fun d => d.searchFrom rounds := by
      intro rounds
      rw [Cursor.searchFrom, Cursor.searchNext?, if_neg hfault]
    rw [if_neg hfault]
    constructor
    · intro h
      obtain ⟨d, hnext, hd⟩ := Option.bind_eq_some_iff.mp h
      obtain ⟨rounds, e, he, hend⟩ := firstFaultFrom_eq_some_iff.mp hd
      exact ⟨rounds + 1, e, by rw [hstep, hnext]; exact he, hend⟩
    · rintro ⟨_ | rounds, e, he, hend⟩
      · cases Option.some.inj he
        exact absurd hend.1 hfault
      · rw [hstep] at he
        obtain ⟨d, hnext, hd⟩ := Option.bind_eq_some_iff.mp he
        rw [hnext]
        exact firstFaultFrom_eq_some_iff.mpr ⟨rounds, e, hd, hend⟩
termination_by c.pending
decreasing_by all_goals exact Cursor.pending_next?_lt hnext

/-- **The search finds the first fault of the walk**, where the flags are right. -/
theorem firstFaultFrom_eq_find {c : Cursor} (hflags : ∀ p ∈ c.visited, p.node.FlagsFaults) :
    firstFaultFrom c = (c.visited.map Cursor.node).find? fun n => n.label.isFault := by
  rw [firstFaultFrom_eq]
  split
  · rename_i hfault
    simp only [Cursor.visited_eq, List.map_cons, List.find?_cons, hfault]
  · rename_i hfault
    obtain ⟨passed, hvisited, -, hpassed⟩ :=
      Cursor.visited_search (hflags c c.mem_visited_self) (Bool.eq_false_iff.mpr hfault)
    have hnone : (passed.map Cursor.node).find? (fun n => n.label.isFault) = none := by
      simpa using hpassed
    rw [hvisited, List.map_append, List.find?_append, hnone, Option.none_or]
    cases hnext : c.next? c.node.label.flagged with
    | none => rfl
    | some d =>
        refine firstFaultFrom_eq_find fun p hp => hflags p ?_
        rw [hvisited, hnext]
        exact List.mem_append_right _ hp
termination_by c.pending
decreasing_by exact Cursor.pending_next?_lt hnext

namespace Node

mutual

theorem length_occurrences (above : List Label) (t : Node) :
    (t.occurrences above).length = t.size := by
  obtain ⟨label, children⟩ := t
  rw [occurrences, List.length_cons, length_occurrencesFrom, size, Nat.add_comm]

theorem length_occurrencesFrom (above : List Label) (i : Nat) (children : List Node) :
    (occurrencesFrom above i children).length = sizeList children := by
  cases children with
  | nil => rfl
  | cons child rest =>
      rw [occurrencesFrom, List.length_append, List.length_map, length_occurrences,
        length_occurrencesFrom, sizeList]

end

/-- Where the search in a tree stands after that many rounds, if it has not ended. -/
def searchAt (t : Node) (rounds : Nat) : Option Cursor :=
  if t.label.flagged then (Cursor.root t).searchFrom rounds else none

/-- The first fault of a tree in document order, looked for in every subtree. -/
def fullSearch (t : Node) : Option Node :=
  ((t.occurrences []).map Occurrence.node).find? fun n => n.label.isFault

theorem FlagsFaults.of_mem_visited {t : Node} (h : t.FlagsFaults) {c : Cursor}
    (hc : c ∈ Cursor.visited (.root t)) : c.node.FlagsFaults :=
  h.of_contains (Cursor.contains_of_mem_visited hc)

/-- **Wherever the search stands**, the rest of the walk is ahead, and no fault is behind. -/
theorem visited_searchAt {t : Node} (h : t.FlagsFaults) {rounds : Nat} {c : Cursor}
    (hc : t.searchAt rounds = some c) :
    ∃ before, Cursor.visited (.root t) = before ++ c.visited ∧ rounds ≤ before.length
      ∧ ∀ b ∈ before, b.node.label.isFault = false := by
  unfold searchAt at hc
  split at hc
  · exact Cursor.visited_searchFrom (fun _ hp => h.of_mem_visited hp) hc
  · cases hc

/-- **A search of as many rounds as the tree has nodes** has ended: each round leaves out a node. -/
theorem searchAt_size {t : Node} (h : t.FlagsFaults) : t.searchAt t.size = none := by
  cases hend : t.searchAt t.size with
  | none => rfl
  | some c =>
      obtain ⟨before, hvisited, hrounds, -⟩ := visited_searchAt h hend
      -- no node is left for the cursor
      have hlength := congrArg List.length (Cursor.visited_nodes t)
      rw [List.length_map, List.length_map, length_occurrences, hvisited, List.length_append,
        Cursor.visited_eq, List.length_cons] at hlength
      omega

/-- **The search that passes over unflagged subtrees** finds what the search of the whole tree finds. -/
theorem firstFault_eq_fullSearch {t : Node} (h : t.FlagsFaults) : firstFault t = t.fullSearch := by
  unfold firstFault fullSearch
  split
  · rw [← Cursor.visited_nodes]
    exact firstFaultFrom_eq_find fun _ hp => h.of_mem_visited hp
  · rename_i hflag
    refine (List.find?_eq_none.mpr ?_).symm
    intro n hn
    rw [h.isFault_eq_false (Bool.eq_false_iff.mpr hflag) ((mem_map_occurrences []).mp hn)]
    exact Bool.false_ne_true

theorem firstFault_eq_none_iff {t : Node} (h : t.FlagsFaults) :
    firstFault t = none ↔ ∀ n, t.Contains n → n.label.isFault = false := by
  rw [firstFault_eq_fullSearch h, fullSearch, List.find?_eq_none]
  simp only [mem_map_occurrences, Bool.not_eq_true]

end Node

/-! ## §4. Sources -/

/-- **The tree of a source flags its faults.** -/
theorem flagsFaults_parse (source : List Char) : (parse source).FlagsFaults :=
  parse_carries
    { name := fun _ => True, tree := Node.FlagsFaults, build := fun _ => Node.flagsFaults_build }
    fun _ _ _ _ _ => trivial

end Python

open Python

/-- **A source is refused for the first fault of its tree**, and only for a fault. -/
theorem scan_eq (source : String) :
    scan source
      = match (parse source.toList).fullSearch with
        | some fault => .error (syntaxFault source.toList fault.label)
        | none => .ok (catalogue (parse source.toList)) := by
  rw [← Node.firstFault_eq_fullSearch (flagsFaults_parse source.toList)]
  rfl

/-- A source is read just if its tree has no fault. -/
theorem scan_ok_iff {source : String} :
    (∃ functions, scan source = .ok functions)
      ↔ ∀ n, (parse source.toList).Contains n → n.label.isFault = false := by
  have hflags := flagsFaults_parse source.toList
  rw [← Node.firstFault_eq_none_iff hflags, Node.firstFault_eq_fullSearch hflags, scan_eq]
  cases (parse source.toList).fullSearch <;> simp

/-- **The pruned search is exact.**  In a tree whose flags tell where the faults are, the search that
    enters flagged subtrees only has ended after as many rounds as the tree has nodes.  Wherever it
    stands before, the walk over the whole tree goes on from there, has left a node behind for every
    round, and no fault; what the search comes to is its result, and it is the node that a search of
    the whole tree in document order finds.  A source, whose tree always has such flags, is read just
    if the tree has no fault. -/
theorem pruned_search_exact :
    (∀ t : Node, t.FlagsFaults →
        t.searchAt t.size = none
          ∧ (∀ rounds c, t.searchAt rounds = some c →
            ∃ before, Cursor.visited (.root t) = before ++ c.visited ∧ rounds ≤ before.length
              ∧ ∀ b ∈ before, b.node.label.isFault = false)
          ∧ (∀ n, firstFault t = some n ↔ ∃ rounds c, t.searchAt rounds = some c
            ∧ c.node.label.isFault = true ∧ c.node = n)
          ∧ firstFault t = t.fullSearch
          ∧ (firstFault t = none ↔ ∀ n, t.Contains n → n.label.isFault = false))
      ∧ ∀ source, (parse source.toList).FlagsFaults
          ∧ ((∃ functions, scan source = .ok functions)
            ↔ ∀ n, (parse source.toList).Contains n → n.label.isFault = false) := by
  refine ⟨?_, fun source => ⟨flagsFaults_parse source.toList, scan_ok_iff⟩⟩
  intro t h
  refine ⟨Node.searchAt_size h, fun rounds c hc => Node.visited_searchAt h hc, ?_,
    Node.firstFault_eq_fullSearch h, Node.firstFault_eq_none_iff h⟩
  intro n
  unfold firstFault Node.searchAt
  split
  · exact firstFaultFrom_eq_some_iff
  · simp

/-- A statement without a fault, a function whose block lacks a parenthesis, and a fault after it. -/
def torn : Node :=
  .build .module none
    [.build (.statement "if_statement") none [.build .block none []],
      .build .functionDefinition (some "f") [.build .block none [.build (.missing ")") none []]],
      .build .error none []]

theorem torn_flagsFaults : torn.FlagsFaults := by
  have hbare : ∀ kind, ∀ child ∈ [Node.build kind none []], child.FlagsFaults := by
    intro kind child hchild
    rw [List.mem_singleton.mp hchild]
    exact Node.flagsFaults_build fun _ hnone => absurd hnone List.not_mem_nil
  have hblock : ∀ child ∈ [Node.build .block none [.build (.missing ")") none []]],
      child.FlagsFaults := by
    intro child hchild
    rw [List.mem_singleton.mp hchild]
    exact Node.flagsFaults_build (hbare _)
  refine Node.flagsFaults_build (List.forall_mem_cons.mpr ⟨?_, List.forall_mem_cons.mpr ⟨?_, ?_⟩⟩)
  · exact Node.flagsFaults_build (hbare _)
  · exact Node.flagsFaults_build hblock
  · exact hbare _

/-- The search leaves out the block of the first statement and stops before the last fault. -/
theorem pruned_search_exact_torn :
    torn.FlagsFaults
      ∧ torn.searchAt torn.size = none
      ∧ firstFault torn = some (.build (.missing ")") none [])
      ∧ ∃ c, torn.searchAt 4 = some c ∧ c.node = .build (.missing ")") none []
        ∧ ∃ before, Cursor.visited (.root torn) = before ++ c.visited ∧ 4 ≤ before.length
          ∧ ∀ b ∈ before, b.node.label.isFault = false := by
  obtain ⟨hend, hahead, -, hfull, -⟩ := pruned_search_exact.1 torn torn_flagsFaults
  refine ⟨torn_flagsFaults, hend, ?_, _, rfl, rfl, hahead 4 _ rfl⟩
  rw [hfull]
  rfl

end TestScaffold
