/-
  TestScaffold.Proofs.Python.Names — the names in a syntax tree are names that were read.

  A name comes into the tree from a word that is no keyword, so what holds of such words of a
  source holds of all names in its tree.

    * `Node.Named` — every name in there has a property;
    * `named_of_mem_tokensFrom` — a word that is read as a name has the form of one;
    * `parse_named` — the names in a tree are identifiers.
-/
import TestScaffold.Proofs.Python.Carried
import TestScaffold.Proofs.Python.Words

namespace TestScaffold.Python

/-! ## §1. Names in trees -/

mutual

/-- Every name in the tree has the property. -/
def Node.Named (P : String → Prop) : Node → Prop
  | .mk label children => (∀ name ∈ label.name?, P name) ∧ NodesNamed P children

/-- Every name in the trees has the property. -/
def NodesNamed (P : String → Prop) : List Node → Prop
  | [] => True
  | node :: nodes => node.Named P ∧ NodesNamed P nodes

end

theorem nodesNamed_of_forall {P : String → Prop} {nodes : List Node}
    (h : ∀ node ∈ nodes, node.Named P) : NodesNamed P nodes := by
  induction nodes with
  | nil => trivial
  | cons node nodes ih =>
      exact ⟨h node List.mem_cons_self, ih fun n hn => h n (List.mem_cons_of_mem node hn)⟩

/-- A property of names is carried from the words of a source to the names in its tree. -/
def Carried.ofNames (P : String → Prop) : Carried where
  name := P
  tree := Node.Named P
  build := fun hname hchildren => ⟨hname, nodesNamed_of_forall hchildren⟩

/-! ## §2. The words of a source -/

/-- A name that a token brings has the form of a name. -/
def Symbol.spellsName (s : Symbol) : Prop :=
  ∀ w, s = .name w → isName w = true

theorem word_spellsName {cs rest : List Char} {s : Symbol} (h : word cs = (s, rest)) :
    s.spellsName := by
  obtain rfl : (word cs).1 = s := congrArg Prod.fst h
  unfold word
  split
  · nofun
  · rename_i c cs
    split
    · rename_i hc
      rintro w ⟨⟩
      simp [isName, hc, isIdentifierContinue_of_start hc]
    · split
      · nofun
      · split <;> nofun

theorem fieldWord_spellsName {depth lambdas : Nat} {read : FieldText} {cs rest : List Char}
    {s : Symbol} {next? : Option Mode} (h : fieldWord depth lambdas read cs = (s, rest, next?)) :
    s.spellsName := by
  obtain rfl : (fieldWord depth lambdas read cs).1 = s := congrArg Prod.fst h
  unfold fieldWord
  dsimp only
  split
  · nofun
  · split
    · nofun
    · split
      · split
        · nofun
        · exact word_spellsName (Prod.eta _).symm
      · exact word_spellsName (Prod.eta _).symm

/-- A word that is read as a name has the form of one. -/
theorem named_of_mem_tokensFrom (fuel : Nat) (modes : List Mode) (muted : Bool) (cs : List Char) :
    ∀ tok ∈ tokensFrom fuel modes muted cs, tok.symbol.spellsName := by
  fun_induction tokensFrom fuel modes muted cs
  -- outside of literal text, in a replacement field and elsewhere: a word, and the tokens after it
  case case11 hword _ _ ih =>
    refine List.forall_mem_cons.mpr ⟨?_, ?_⟩
    · exact fieldWord_spellsName hword
    · split
      · simp
      · exact ih
  case case12 hword _ ih =>
    refine List.forall_mem_cons.mpr ⟨?_, ?_⟩
    · exact word_spellsName hword
    · split
      · simp
      · exact ih
  case case1 => simp
  -- a part of a string literal, or the end of what can be read
  case case4 | case7 | case10 => simpa using nofun
  all_goals exact List.forall_mem_cons.mpr ⟨nofun, ‹_›⟩

/-! ## §3. Trees -/

/-- The names in a tree are identifiers. -/
theorem parse_named (source : List Char) : (parse source).Named (isIdentifier · = true) := by
  refine parse_carries (.ofNames (isIdentifier · = true)) ?_
  intro tok htok w hw hfree
  have hspells : isName w = true := named_of_mem_tokensFrom _ _ _ _ tok htok w hw
  show isIdentifier w = true
  simp [isIdentifier, hspells, hfree]

end TestScaffold.Python
