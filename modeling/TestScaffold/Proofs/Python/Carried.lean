/-
  TestScaffold.Proofs.Python.Carried — what holds of the parts of a source holds of its tree.

  Of all frames only a few carry something of the source: those of a definition being read carry
  its name, and those that hold statements read before carry their trees.  A name comes into
  them from a word that is no keyword, and a tree is built from names and trees that they carry.
  So a property of the words that are names, and one of trees that building keeps, are carried
  through the whole reading:

    * `Carried` — such a pair of properties;
    * `Frame.Carries`, `Move.Carries` — all names and trees in there have them;
    * `Frame.step_carries`, `Frame.resume_carries` — one step keeps them;
    * `readTokens_carries` — so does the reading of all tokens;
    * `parse_carries` — and so the tree of a source has the property of trees.
-/
import TestScaffold.Python.Parse

namespace TestScaffold.Python

/-! ## §1. Names and trees in stacks -/

/-- A property of names, and one of trees that a tree has if it is built from parts that have them. -/
structure Carried where
  /-- The property of names. -/
  name : String → Prop
  /-- The property of trees. -/
  tree : Node → Prop
  /-- Building keeps it. -/
  build : ∀ {kind : Kind} {name? : Option String} {children : List Node} {rest : List Char},
    (∀ n ∈ name?, name n) → (∀ child ∈ children, tree child) →
      tree (Node.build kind name? children rest)

/-- Every one of the trees has the property. -/
def TreesCarry (I : Carried) (nodes : List Node) : Prop :=
  ∀ node ∈ nodes, I.tree node

/-- Every name and every tree that the frame carries has the property. -/
def Frame.Carries (I : Carried) : Frame → Prop
  | .defSignature name _ | .defResult name | .classSignature name _ => I.name name
  | .tail _ _ name? read => (∀ name ∈ name?, I.name name) ∧ TreesCarry I read
  | .block read | .matchBlock read | .program read | .accepted read => TreesCarry I read
  | _ => True

/-- Everything that the move puts in place or hands on does. -/
def Move.Carries (I : Carried) : Move → Prop
  | .shift frames => ∀ f ∈ frames, f.Carries I
  | .finish r | .pop r => TreesCarry I r.nodes

/-- Every move does. -/
def MovesCarry (I : Carried) (moves : List Move) : Prop :=
  ∀ move ∈ moves, move.Carries I

/-- A name that the symbol brings has the property, unless it is a keyword. -/
def Symbol.Carries (I : Carried) (s : Symbol) : Prop :=
  ∀ w, s = .name w → isReserved w = false → I.name w

section

variable {I : Carried}

@[simp] theorem treesCarry_nil : TreesCarry I [] := by
  simp [TreesCarry]

@[simp] theorem treesCarry_cons {node : Node} {nodes : List Node} :
    TreesCarry I (node :: nodes) ↔ I.tree node ∧ TreesCarry I nodes := by
  simp [TreesCarry]

@[simp] theorem treesCarry_append {nodes nodes' : List Node} :
    TreesCarry I (nodes ++ nodes') ↔ TreesCarry I nodes ∧ TreesCarry I nodes' := by
  simp [TreesCarry, or_imp, forall_and]

@[simp] theorem treesCarry_reverse {nodes : List Node} :
    TreesCarry I nodes.reverse ↔ TreesCarry I nodes := by
  simp [TreesCarry]

@[simp] theorem movesCarry_nil : MovesCarry I [] := by
  simp [MovesCarry]

@[simp] theorem movesCarry_cons {move : Move} {moves : List Move} :
    MovesCarry I (move :: moves) ↔ move.Carries I ∧ MovesCarry I moves := by
  simp [MovesCarry]

@[simp] theorem movesCarry_append {moves moves' : List Move} :
    MovesCarry I (moves ++ moves') ↔ MovesCarry I moves ∧ MovesCarry I moves' := by
  simp [MovesCarry, or_imp, forall_and]

@[simp] theorem movesCarry_ite {c : Prop} [Decidable c] {moves moves' : List Move} :
    MovesCarry I (if c then moves else moves')
      ↔ (c → MovesCarry I moves) ∧ (¬c → MovesCarry I moves') := by
  split <;> simp [*]

/-- Moves stay so above frames that are so. -/
theorem movesCarry_above {below : List Frame} {moves : List Move} (h : MovesCarry I moves)
    (hbelow : ∀ f ∈ below, f.Carries I) : MovesCarry I (moves.map (Move.above below)) := by
  intro move hmove
  obtain ⟨inner, hinner, rfl⟩ := List.mem_map.mp hmove
  have hcarries := h inner hinner
  cases inner with
  | shift frames =>
      intro f hf
      exact (List.mem_append.mp hf).elim (hcarries f) (hbelow f)
  | finish r => exact hcarries
  | pop r => exact hcarries

/-! ## §2. Expressions -/

@[simp] theorem stay_carries (e : Expr) : MovesCarry I e.stay := by
  simp [Expr.stay, Move.Carries, Frame.Carries]

@[simp] theorem Expr.result_carries (e : Expr) : TreesCarry I e.result.nodes := by
  unfold Expr.result
  split <;> simp

theorem operandStep_carries (e : Expr) (level : Level) (s : Symbol) :
    MovesCarry I (e.operandStep level s) := by
  unfold Expr.operandStep
  split <;> simp [Move.Carries, Frame.Carries]
  all_goals split <;> simp

theorem operatorStep_carries (e : Expr) (level : Level) (shape : Shape) (s : Symbol) :
    MovesCarry I (e.operatorStep level shape s) := by
  unfold Expr.operatorStep
  dsimp only
  split <;> simp [Move.Carries, Frame.Carries]
  intros
  split <;> simp [Move.Carries, Frame.Carries]

theorem Expr.step_carries (e : Expr) (s : Symbol) : MovesCarry I (e.step s) := by
  unfold Expr.step
  split
  · exact operandStep_carries e _ s
  · exact operatorStep_carries e _ _ s
  · simp
  · split <;> simp
  · split
    · exact operatorStep_carries _ _ _ s
    · exact operandStep_carries _ _ s
  · simp
  · simp [operandStep_carries]

theorem startExpr_carries {use : Use} {below : List Frame} (h : ∀ f ∈ below, f.Carries I) (s : Symbol) :
    MovesCarry I (startExpr use below s) :=
  movesCarry_above (Expr.step_carries _ s) h

theorem startList_carries {l : Listing} {below : List Frame} (h : ∀ f ∈ below, f.Carries I) (s : Symbol) :
    MovesCarry I (startList l below s) :=
  startExpr_carries (by simpa [Frame.Carries] using h) s

theorem Listing.step_carries (l : Listing) (s : Symbol) : MovesCarry I (l.step s) := by
  have hstart : MovesCarry I (startExpr l.use [.listing { l with place := .item }] s) :=
    startExpr_carries (by simp [Frame.Carries]) s
  unfold Listing.step
  split
  · simp
  · simp
  · simp [Move.Carries, Frame.Carries, Listing.result]
  · split
    · simp [Move.Carries, Listing.result]
    · exact hstart

theorem startClauses_carries (closer : String) (s : Symbol) : MovesCarry I (startClauses closer s) := by
  unfold startClauses
  split <;> simp [Move.Carries, Frame.Carries]

theorem clauseStep_carries (closer : String) (s : Symbol) : MovesCarry I (clauseStep closer s) := by
  unfold clauseStep
  split <;> simp [Move.Carries, Frame.Carries, startClauses_carries]

theorem Display.startItem_carries (d : Display) (s : Symbol) : MovesCarry I (d.startItem s) := by
  unfold Display.startItem
  split
  · simp [Move.Carries, Frame.Carries]
  · simp [Move.Carries, Frame.Carries]
  · exact startExpr_carries (by simp [Frame.Carries]) s

theorem Display.step_carries (d : Display) (s : Symbol) : MovesCarry I (d.step s) := by
  unfold Display.step
  split <;> simp [Move.Carries, Frame.Carries, Display.result, Display.startItem_carries, startClauses_carries]

theorem braceStep_carries (p : BracePlace) (s : Symbol) : MovesCarry I (braceStep p s) := by
  unfold braceStep
  have hstart : ∀ q, MovesCarry I (startExpr .value [.braces q] s) :=
    fun q => startExpr_carries (by simp [Frame.Carries]) s
  dsimp only
  split
  all_goals first | split | skip
  all_goals simp [Move.Carries, Frame.Carries, hstart, startClauses_carries]

theorem Arguments.step_carries (a : Arguments) (s : Symbol) : MovesCarry I (a.step s) := by
  have hstart : MovesCarry I
      (startExpr .value [.arguments { a with place := .item, plain := true }] s) :=
    startExpr_carries (by simp [Frame.Carries]) s
  unfold Arguments.step
  dsimp only
  split
  · simp
  · split <;> simp [Move.Carries, Frame.Carries, hstart]
  · split <;> simp [Move.Carries, Frame.Carries, hstart]
  · split <;> simp [Move.Carries, Frame.Carries, startClauses_carries]

theorem Subscript.step_carries (b : Subscript) (s : Symbol) : MovesCarry I (b.step s) := by
  have hstart : MovesCarry I (startExpr .value [.subscript { b with place := .item }] s) :=
    startExpr_carries (by simp [Frame.Carries]) s
  unfold Subscript.step
  dsimp only
  split
  · simp
  · split <;> simp [Move.Carries, Frame.Carries]
  · split
    · split <;> simp [Move.Carries, Frame.Carries]
    · exact hstart
  · split <;> simp [Move.Carries, Frame.Carries, hstart]
  · split <;> simp [Move.Carries, Frame.Carries, hstart]

theorem parameterStep_carries (isLambda : Bool) (p : ParameterPlace) (s : Symbol) :
    MovesCarry I (parameterStep isLambda p s) := by
  have hstarred : MovesCarry I ((({ phase := .operand (.starred 1), use := .target } : Expr).step s).map
      (Move.above [.parameters isLambda .inSplat])) :=
    movesCarry_above (Expr.step_carries _ s) (by simp [Frame.Carries])
  unfold parameterStep
  dsimp only
  split
  all_goals first | split | skip
  all_goals first | exact hstarred | simp [Move.Carries, Frame.Carries]

theorem typeParameterStep_carries (p : Place) (s : Symbol) : MovesCarry I (typeParameterStep p s) := by
  have hstart : MovesCarry I (startExpr .typeHint [.typeParameters .item] s) :=
    startExpr_carries (by simp [Frame.Carries]) s
  unfold typeParameterStep
  dsimp only
  split <;> simp [Move.Carries, Frame.Carries, hstart]

theorem yieldStep_carries (s : Symbol) : MovesCarry I (yieldStep s) := by
  unfold yieldStep
  split
  · simp [Move.Carries, Frame.Carries]
  · split
    · simp [Move.Carries]
    · exact startList_carries (by simp) s

theorem formatStep_carries (s : Symbol) : MovesCarry I (formatStep s) := by
  unfold formatStep
  split <;> simp [Move.Carries, Frame.Carries]

theorem fieldStartStep_carries (s : Symbol) : MovesCarry I (fieldStartStep s) := by
  have hstart : MovesCarry I (startList {} [.fieldTail true true true] s) :=
    startList_carries (by simp [Frame.Carries]) s
  unfold fieldStartStep
  simp [Move.Carries, Frame.Carries, hstart]

theorem fieldTailStep_carries (debug convert spec : Bool) (s : Symbol) :
    MovesCarry I (fieldTailStep debug convert spec s) := by
  unfold fieldTailStep
  split <;> simp [Move.Carries, Frame.Carries]

theorem fieldSpecStep_carries (s : Symbol) : MovesCarry I (fieldSpecStep s) := by
  unfold fieldSpecStep
  split <;> simp [Move.Carries, Frame.Carries]

/-! ## §3. Patterns, imports and simple statements -/

theorem patternStep_carries (simple : Bool) (p : PatternPhase) (s : Symbol) :
    MovesCarry I (patternStep simple p s) := by
  have hclosed : ∀ alternatives : Bool,
      MovesCarry I (patternStep simple (.closed alternatives) s) := by
    intro alternatives
    unfold patternStep
    dsimp only
    split <;> simp [Move.Carries, Frame.Carries]
  unfold patternStep
  dsimp only
  split
  · split <;> simp [Move.Carries, Frame.Carries]
  · split <;> simp [Move.Carries, Frame.Carries]
    exact hclosed true
  · split <;> simp [Move.Carries, Frame.Carries]
    exact hclosed true
  · simp [Move.Carries, Frame.Carries]
  · simp [Move.Carries, Frame.Carries]
    exact fun _ _ => hclosed true
  · simp [Move.Carries, Frame.Carries]
  · exact hclosed _

theorem startPattern_carries {simple : Bool} {below : List Frame} (h : ∀ f ∈ below, f.Carries I)
    (s : Symbol) : MovesCarry I (startPattern simple below s) :=
  movesCarry_above (patternStep_carries simple _ s) h

theorem patternGroupStep_carries (closer : String) (p : Place) (s : Symbol) :
    MovesCarry I (patternGroupStep closer p s) := by
  have hstart : MovesCarry I (startPattern false [.patternGroup closer .after] s) :=
    startPattern_carries (by simp [Frame.Carries]) s
  unfold patternGroupStep
  split <;> simp [Move.Carries, Frame.Carries, hstart]

theorem mappingStep_carries (p : MappingPlace) (s : Symbol) : MovesCarry I (mappingStep p s) := by
  have hstart : MovesCarry I (startPattern true [.mapping .key] s) :=
    startPattern_carries (by simp [Frame.Carries]) s
  unfold mappingStep
  split
  · split <;> simp [Move.Carries, Frame.Carries, hstart]
  · split <;> simp [Move.Carries, Frame.Carries, hstart]
  · simp [Move.Carries, Frame.Carries]
  · split <;> simp [Move.Carries, Frame.Carries]

theorem caseHeadStep_carries (p : Place) (s : Symbol) : MovesCarry I (caseHeadStep p s) := by
  have hstart : MovesCarry I (startPattern false [.caseHead .after] s) :=
    startPattern_carries (by simp [Frame.Carries]) s
  unfold caseHeadStep
  split
  · simp [Move.Carries]
  · simp [Move.Carries, Frame.Carries]
  · split <;> simp [Move.Carries, Frame.Carries, hstart]

theorem importStep_carries (bracketed : Bool) (p : ImportPlace) (s : Symbol) :
    MovesCarry I (importStep bracketed p s) := by
  unfold importStep
  dsimp only
  split
  all_goals split
  all_goals simp [Move.Carries, Frame.Carries]

theorem fromStep_carries (s : Symbol) : MovesCarry I (fromStep s) := by
  unfold fromStep
  split <;> simp [Move.Carries, Frame.Carries]

theorem fromDotsStep_carries (s : Symbol) : MovesCarry I (fromDotsStep s) := by
  unfold fromDotsStep
  split <;> simp [Move.Carries, Frame.Carries]

theorem fromDottedStep_carries (s : Symbol) : MovesCarry I (fromDottedStep s) := by
  unfold fromDottedStep
  split <;> simp [Move.Carries, Frame.Carries]

theorem fromNamesStep_carries (star : Bool) (s : Symbol) : MovesCarry I (fromNamesStep star s) := by
  unfold fromNamesStep
  split <;> simp [Move.Carries, Frame.Carries, importStep_carries]

theorem assignStep_carries (shape : Shape) (s : Symbol) : MovesCarry I (assignStep shape s) := by
  unfold assignStep
  split
  · simp [Move.Carries]
  · split <;> simp [Move.Carries, Frame.Carries]

theorem rightSideStep_carries (s : Symbol) : MovesCarry I (rightSideStep s) := by
  have hstart : MovesCarry I (startList {} [.assign .other] s) :=
    startList_carries (by simp [Frame.Carries]) s
  unfold rightSideStep
  simp [Move.Carries, Frame.Carries, hstart]

theorem raiseStep_carries (first : Bool) (s : Symbol) : MovesCarry I (raiseStep first s) := by
  unfold raiseStep
  split
  · simp [Move.Carries, Frame.Carries]
  · split
    · split
      · simp [Move.Carries]
      · exact startList_carries (by simp [Frame.Carries]) s
    · simp [Move.Carries]

theorem execStep_carries (s : Symbol) : MovesCarry I (execStep s) := by
  unfold execStep
  split <;> simp [Move.Carries, Frame.Carries]

theorem namedStatement_carries : ∀ f ∈ namedStatement, f.Carries I := by
  simp [namedStatement, nameRead, Frame.Carries]

theorem simpleStatement_carries {below : List Frame} (h : ∀ f ∈ below, f.Carries I) (s : Symbol) :
    MovesCarry I (simpleStatement below s) := by
  have hreads : ∀ {frames : List Frame}, (∀ f ∈ frames, f.Carries I) →
      (Move.shift (frames ++ below)).Carries I :=
    fun hframes f hf => (List.mem_append.mp hf).elim (hframes f) (h f)
  unfold simpleStatement
  dsimp only
  split
  all_goals try simp only [movesCarry_append, movesCarry_cons, movesCarry_nil, and_true]
  all_goals
    first
    | exact hreads (by simp [Frame.Carries])
    | exact ⟨hreads namedStatement_carries, hreads (by simp [Frame.Carries])⟩
    | exact startList_carries (by simpa [Frame.Carries] using h) _

/-! ## §4. Compound statements -/

/-- A block stays so under its header. -/
theorem body_carries {t : Tail} {kind : Kind} {name? : Option String} {read : List Node}
    (hname : ∀ name ∈ name?, I.name name) (hread : TreesCarry I read) :
    ∀ f ∈ body t kind name? read, f.Carries I := by
  simp [body, Frame.Carries]
  exact ⟨hname, hread⟩

theorem statementBody_carries (t : Tail) (kind : Kind) :
    ∀ f ∈ body t kind none [], f.Carries I :=
  body_carries (by simp) treesCarry_nil

theorem forLoop_carries : ∀ f ∈ forLoop, f.Carries I := by
  simp [forLoop, Frame.Carries, or_imp, forall_and]
  exact statementBody_carries _ _

theorem withBlock_carries : ∀ f ∈ withBlock, f.Carries I := by
  simp [withBlock, Frame.Carries, or_imp, forall_and]
  exact statementBody_carries _ _

theorem decoration_carries : ∀ f ∈ decoration, f.Carries I := by
  simp [decoration, Frame.Carries]

theorem statementStep_carries {below : List Frame} (h : ∀ f ∈ below, f.Carries I) (s : Symbol) :
    MovesCarry I (statementStep below s) := by
  have hreads : ∀ {frames : List Frame}, (∀ f ∈ frames, f.Carries I) →
      MovesCarry I [.shift (frames ++ below)] := by
    intro frames hframes
    simp only [movesCarry_cons, movesCarry_nil, and_true]
    exact fun f hf => (List.mem_append.mp hf).elim (hframes f) (h f)
  have hcolon : ∀ {head : List Frame} (t : Tail) (kind : Kind), (∀ f ∈ head, f.Carries I) →
      MovesCarry I [.shift (head ++ body t kind none [] ++ below)] :=
    fun t kind hhead => hreads fun f hf =>
      (List.mem_append.mp hf).elim (hhead f) (statementBody_carries t kind f)
  have hsoft : ∀ f : Frame, f.Carries I →
      MovesCarry I ([.shift (namedStatement ++ [.simpleTail] ++ below)] ++ [.shift ([f] ++ below)]) := by
    intro f hf
    refine movesCarry_append.mpr ⟨hreads fun g hg => ?_, hreads (by simpa using hf)⟩
    exact (List.mem_append.mp hg).elim (namedStatement_carries g)
      (fun hg => by simp [List.mem_singleton.mp hg, Frame.Carries])
  unfold statementStep
  dsimp only
  split
  · exact hcolon _ _ (by simp [Frame.Carries])
  · exact hcolon _ _ (by simp [Frame.Carries])
  · exact hreads forLoop_carries
  · exact @hcolon [.symbol (.op ":")] _ _ (by simp [Frame.Carries])
  · exact hreads withBlock_carries
  · exact @hreads [.defName] (by simp [Frame.Carries])
  · exact @hreads [.className] (by simp [Frame.Carries])
  · exact hreads decoration_carries
  · exact hsoft .asyncStart (by simp [Frame.Carries])
  · exact hsoft .matchStart (by simp [Frame.Carries])
  · exact simpleStatement_carries (by simpa [Frame.Carries] using h) s

theorem asyncStep_carries (s : Symbol) : MovesCarry I (asyncStep s) := by
  unfold asyncStep
  split <;> simp [Move.Carries, Frame.Carries]
  · exact forLoop_carries
  · exact withBlock_carries

theorem decoratedStep_carries (s : Symbol) : MovesCarry I (decoratedStep s) := by
  unfold decoratedStep
  split <;> simp [Move.Carries, Frame.Carries]
  exact decoration_carries

theorem defSignatureStep_carries {name : String} (hname : I.name name) (typed : Bool) (s : Symbol) :
    MovesCarry I (defSignatureStep name typed s) := by
  unfold defSignatureStep
  split <;> simp [Move.Carries, Frame.Carries, hname]

theorem defResultStep_carries {name : String} (hname : I.name name) (s : Symbol) :
    MovesCarry I (defResultStep name s) := by
  have hrest : ∀ f ∈ body .none .functionDefinition (some name) [], f.Carries I :=
    body_carries (by simpa using hname) treesCarry_nil
  unfold defResultStep
  split
  · simp [Move.Carries, Frame.Carries, or_imp, forall_and]
    exact hrest
  · simpa [Move.Carries] using hrest
  · simp

theorem classSignatureStep_carries {name : String} (hname : I.name name) (typed : Bool) (s : Symbol) :
    MovesCarry I (classSignatureStep name typed s) := by
  have hrest : ∀ f ∈ body .none .classDefinition (some name) [], f.Carries I :=
    body_carries (by simpa using hname) treesCarry_nil
  unfold classSignatureStep
  split
  · simp [Move.Carries, Frame.Carries, hname]
  · simp [Move.Carries, Frame.Carries, or_imp, forall_and]
    exact hrest
  · simpa [Move.Carries] using hrest
  · simp

theorem handlerStep_carries (starred : Bool) (s : Symbol) : MovesCarry I (handlerStep starred s) := by
  unfold handlerStep
  split
  · simp [Move.Carries]
  · simp [Move.Carries, Frame.Carries]
  · exact startList_carries (by simp [Frame.Carries]) s

/-- A statement that ends, or goes on with a further clause, keeps the name and the blocks it has. -/
theorem tailStep_carries (t : Tail) (kind : Kind) {name? : Option String} {read : List Node}
    (hname : ∀ name ∈ name?, I.name name) (hread : TreesCarry I read) (s : Symbol) :
    MovesCarry I (tailStep t kind name? read s) := by
  have hclause : ∀ (next : Tail) {header : List Frame}, (∀ f ∈ header, f.Carries I) →
      MovesCarry I [.shift (header ++ body next kind name? read)] := by
    intro next header hheader
    simp only [movesCarry_cons, movesCarry_nil, and_true]
    exact fun f hf => (List.mem_append.mp hf).elim (hheader f) (body_carries hname hread f)
  unfold tailStep
  dsimp only
  split
  case h_8 =>
    simp only [movesCarry_cons, movesCarry_nil, and_true, Move.Carries, treesCarry_cons, treesCarry_nil]
    exact I.build hname (treesCarry_reverse.mpr hread)
  all_goals exact hclause _ (by simp [Frame.Carries])

theorem suiteStep_carries (s : Symbol) : MovesCarry I (suiteStep s) := by
  unfold suiteStep
  split
  · simp [Move.Carries]
  · simp [Move.Carries, Frame.Carries]
  · exact simpleStatement_carries (by simp [Frame.Carries]) s

theorem matchBlockStep_carries {read : List Node} (hread : TreesCarry I read) (s : Symbol) :
    MovesCarry I (matchBlockStep read s) := by
  unfold matchBlockStep
  split
  · simpa [Move.Carries] using hread
  · simp [Move.Carries, Frame.Carries, or_imp, forall_and, hread]
    exact statementBody_carries _ _
  · simp

/-! ## §5. Steps and readings -/

/-- Moves that are tried first stay so, and so does a pop in their place. -/
theorem orPop_carries : ∀ {moves : List Move}, MovesCarry I moves →
    MovesCarry I (match moves with
      | [] => [.pop {}]
      | moves => moves)
  | [], _ => by simp [Move.Carries]
  | _ :: _, h => h

/-- **One step**: on a symbol whose name has the property, what the frame carries goes on to its moves. -/
theorem Frame.step_carries {f : Frame} (hf : f.Carries I) {s : Symbol} (hs : s.Carries I) :
    MovesCarry I (f.step s) := by
  have hlist : ∀ l below, (∀ f ∈ below, f.Carries I) → MovesCarry I (startList l below s) :=
    fun _ _ h => startList_carries h s
  cases f with
  -- where a name is read
  | defName | className =>
      simp only [Frame.step]
      split
      · rename_i w
        split
        · simp
        · rename_i hfree
          simpa [Move.Carries, Frame.Carries] using hs w rfl (by simpa using hfree)
      · simp
  -- where names and trees are kept
  | defSignature name typed => exact defSignatureStep_carries hf typed s
  | defResult name => exact defResultStep_carries hf s
  | classSignature name typed => exact classSignatureStep_carries hf typed s
  | tail t kind name? read => exact tailStep_carries t kind hf.1 hf.2 s
  | block read =>
      have hread : TreesCarry I read := hf
      simp only [Frame.step]
      split
      · simpa [Move.Carries] using hread
      · exact statementStep_carries (by simpa [Frame.Carries] using hread) s
  | matchBlock read => exact matchBlockStep_carries hf s
  | program read =>
      have hread : TreesCarry I read := hf
      simp only [Frame.step]
      split
      · simpa [Move.Carries, Frame.Carries] using hread
      · exact statementStep_carries (by simpa [Frame.Carries] using hread) s
  | accepted nodes => simp [Frame.step]
  -- everywhere else
  | expr e => exact e.step_carries s
  | listing l => exact l.step_carries s
  | display d => exact d.step_carries s
  | braces p => exact braceStep_carries p s
  | arguments a => exact a.step_carries s
  | subscript b => exact b.step_carries s
  | clauses closer => exact clauseStep_carries closer s
  | parameters isLambda p => exact parameterStep_carries isLambda p s
  | typeParameters p => exact typeParameterStep_carries p s
  | yielded => exact yieldStep_carries s
  | formatString => exact formatStep_carries s
  | fieldStart => exact fieldStartStep_carries s
  | fieldTail debug convert spec => exact fieldTailStep_carries debug convert spec s
  | fieldSpec => exact fieldSpecStep_carries s
  | pattern simple p => exact patternStep_carries simple p s
  | patternGroup closer p => exact patternGroupStep_carries closer p s
  | mapping p => exact mappingStep_carries p s
  | caseHead p => exact caseHeadStep_carries p s
  | imports bracketed p => exact importStep_carries bracketed p s
  | fromStart => exact fromStep_carries s
  | fromDots => exact fromDotsStep_carries s
  | fromDotted => exact fromDottedStep_carries s
  | fromNames star => exact fromNamesStep_carries star s
  | assign shape => exact assignStep_carries shape s
  | rightSide => exact rightSideStep_carries s
  | raised first => exact raiseStep_carries first s
  | execStart => exact execStep_carries s
  | asyncStart => exact asyncStep_carries s
  | suite => exact suiteStep_carries s
  | decorated => exact decoratedStep_carries s
  | handlerStart starred => exact handlerStep_carries starred s
  | optionalExprs => exact orPop_carries (hlist {} [] (by simp))
  | typeStart =>
      have hstart : MovesCarry I
          (startExpr .typeHint [.symbol (.op "="), .expr { use := .typeHint }] s) :=
        startExpr_carries (by simp [Frame.Carries]) s
      simp [Frame.step, Move.Carries, Frame.Carries, hstart]
  | matchStart =>
      have hstart : MovesCarry I (startList {}
          [.symbol (.op ":"), .matchSuite, .tail .none (.statement "match_statement") none []] s) :=
        startList_carries (by simp [Frame.Carries]) s
      simp [Frame.step, Move.Carries, Frame.Carries, hstart]
  | simpleNext =>
      have hstart : MovesCarry I (simpleStatement [.simpleTail] s) :=
        simpleStatement_carries (by simp [Frame.Carries]) s
      simp [Frame.step, Move.Carries, hstart]
  | printStart =>
      simp only [Frame.step]
      split
      · simp [Move.Carries, Frame.Carries]
      · simp [Move.Carries, Frame.Carries]
      · exact hlist {} [] (by simp)
  | identifier => simp only [Frame.step]; split <;> simp [Move.Carries]
  | simpleTail | matchSuite =>
      simp only [Frame.step]; split <;> simp [Move.Carries, Frame.Carries]
  | symbol | blocked | names | annotated | execTail =>
      simp [Frame.step, Move.Carries, Frame.Carries]

/-- A frame takes over what is found above it. -/
theorem Frame.resume_carries {f : Frame} (hf : f.Carries I) {r : Result} (hr : TreesCarry I r.nodes) :
    (f.resume r).Carries I := by
  cases f with
  | block read | matchBlock read | program read =>
      have hread : TreesCarry I read := hf
      simpa [Frame.resume, Frame.Carries] using ⟨hr, hread⟩
  | tail t kind name? read =>
      exact ⟨hf.1, treesCarry_cons.mpr ⟨I.build (by simp) hr, hf.2⟩⟩
  | typeParameters p => cases p <;> trivial
  | _ => exact hf

/-- What a stack carries. -/
def FramesCarry (I : Carried) (frames : List Frame) : Prop :=
  ∀ f ∈ frames, f.Carries I

/-- What a reading carries. -/
def Thread.Carries (I : Carried) (t : Thread) : Prop :=
  FramesCarry I t.frames

/-- The stacks after a symbol keep what the stack carries, by induction on the stack: a frame that
    is done leaves its result to the frame below. -/
theorem dispatch_carries {s : Symbol} (hs : s.Carries I) {frames : List Frame}
    (hframes : FramesCarry I frames) {r? : Option Result} (hr : ∀ r ∈ r?, TreesCarry I r.nodes) :
    ∀ next ∈ dispatch frames r? s, FramesCarry I next := by
  induction frames generalizing r? with
  | nil => simp [dispatch]
  | cons f fs ih =>
      have hbelow : FramesCarry I fs := fun g hg => hframes g (List.mem_cons_of_mem _ hg)
      have hf : f.Carries I := hframes f List.mem_cons_self
      intro next hnext
      unfold dispatch at hnext
      obtain ⟨move, hmove, hnext⟩ := List.mem_flatMap.mp hnext
      have hcarries : move.Carries I := by
        split at hmove
        · exact Frame.step_carries (Frame.resume_carries hf (hr _ rfl)) hs move hmove
        · exact Frame.step_carries hf hs move hmove
      cases move with
      | shift frames =>
          rw [List.mem_singleton.mp hnext]
          exact fun g hg => (List.mem_append.mp hg).elim (hcarries g) (hbelow g)
      | finish r =>
          cases fs with
          | nil => exact absurd hnext List.not_mem_nil
          | cons g gs =>
              rw [List.mem_singleton.mp hnext]
              intro h hh
              rcases List.mem_cons.mp hh with rfl | hh
              · exact Frame.resume_carries (hbelow _ List.mem_cons_self) hcarries
              · exact hbelow h (List.mem_cons_of_mem _ hh)
      | pop r => exact ih hbelow (fun r' hr' => Option.mem_some.mp hr' ▸ hcarries) next hnext

theorem take_carries {t : Thread} (ht : t.Carries I) {s : Symbol} (hs : s.Carries I) :
    ∀ u ∈ t.take s, u.Carries I := by
  intro u hu
  obtain ⟨frames, hframes, rfl⟩ := List.mem_map.mp hu
  exact dispatch_carries hs ht (by simp) frames hframes

/-- Layout has no names. -/
theorem layout_carries {a : Allowed} {columns columns' : List Nat} {tok : Token} {gap : List Char}
    {s : Symbol} (h : layout a columns tok gap = some (s, columns')) : s.Carries I := by
  have hs : s = .indent ∨ s = .dedent ∨ s = .newline := by
    unfold layout at h
    grind
  intro w hw
  rcases hs with rfl | rfl | rfl <;> cases hw

theorem settle_carries (tok : Token) (fuel : Nat) (gap : List Char) {t : Thread} (ht : t.Carries I) :
    ∀ u ∈ Thread.settle tok fuel gap t, u.Carries I := by
  induction fuel generalizing gap t with
  | zero => simp [Thread.settle]
  | succ fuel ih =>
      intro u hu
      rw [Thread.settle] at hu
      split at hu
      · rwa [List.mem_singleton.mp hu]
      · split at hu
        · rename_i s columns hlayout
          obtain ⟨v, hv, hu⟩ := List.mem_flatMap.mp hu
          exact ih (t := { v with columns }) gap (take_carries ht (layout_carries hlayout) v hv) u hu
        · split at hu
          · exact ih _ ht u hu
          · rwa [List.mem_singleton.mp hu]

/-- The parts of an operator are operators. -/
theorem operatorParts_carries {s : Symbol} {parts : List Symbol} (h : Thread.operatorParts? s = some parts) :
    ∀ part ∈ parts, part.Carries I := by
  unfold Thread.operatorParts? at h
  intro part hpart w hw
  split at h <;> cases h <;> simp [hw] at hpart

theorem takeAll_carries {parts : List Symbol} (hparts : ∀ part ∈ parts, part.Carries I)
    {threads : List Thread} (hthreads : ∀ t ∈ threads, t.Carries I) :
    ∀ u ∈ parts.foldl (fun ts part => ts.flatMap (·.take part)) threads, u.Carries I := by
  induction parts generalizing threads with
  | nil => exact hthreads
  | cons part parts ih =>
      refine ih (fun p hp => hparts p (List.mem_cons_of_mem _ hp)) fun u hu => ?_
      obtain ⟨t, ht, hu⟩ := List.mem_flatMap.mp hu
      exact take_carries (hthreads t ht) (hparts part List.mem_cons_self) u hu

theorem takeWord_carries {t : Thread} (ht : t.Carries I) {s : Symbol} (hs : s.Carries I) :
    ∀ u ∈ t.takeWord s, u.Carries I := by
  unfold Thread.takeWord
  split
  · split
    · rename_i parts hparts
      exact takeAll_carries (operatorParts_carries hparts) (by simpa using ht)
    · simp
  · exact take_carries ht hs

theorem feed_carries {t : Thread} (ht : t.Carries I) {tok : Token} (hs : tok.symbol.Carries I) :
    ∀ u ∈ t.feed tok, u.Carries I := by
  intro u hu
  obtain ⟨v, hv, hu⟩ := List.mem_flatMap.mp hu
  exact takeWord_carries (settle_carries tok _ _ ht v hv) hs u hu

/-- **All tokens**: if the words read have the property of names, the statements that were read have that
    of trees. -/
theorem readTokens_carries {threads : List Thread} (hthreads : ∀ t ∈ threads, t.Carries I)
    {toks : List Token} (htoks : ∀ tok ∈ toks, tok.symbol.Carries I) {nodes : List Node}
    (h : readTokens threads toks = .complete nodes) : TreesCarry I nodes := by
  induction toks generalizing threads with
  | nil =>
      unfold readTokens at h
      split at h
      · rename_i read hread
        cases h
        obtain ⟨t, ht, hframes⟩ := List.exists_of_findSome?_eq_some hread
        split at hframes
        · rename_i stack hstack
          cases hframes
          exact hthreads t ht (.accepted _) (hstack ▸ List.mem_cons_self)
        · cases hframes
      · cases h
  | cons tok toks ih =>
      unfold readTokens at h
      split at h
      · cases h
      · refine ih (fun u hu => ?_) (fun t ht => htoks t (List.mem_cons_of_mem _ ht)) h
        obtain ⟨t, ht, hu⟩ := List.mem_flatMap.mp hu
        exact feed_carries (hthreads t ht) (htoks tok List.mem_cons_self) u hu

end

/-! ## §6. Trees -/

/-- **The tree of a source** has a property of trees that building keeps, if its words have the
    property of names. -/
theorem parse_carries (I : Carried) {source : List Char}
    (h : ∀ tok ∈ tokens source, tok.symbol.Carries I) : I.tree (parse source) := by
  have hfault : ∀ {kind : Kind} {rest : List Char}, I.tree (Node.build kind none [] rest) :=
    I.build (by simp) (by simp)
  unfold parse
  split
  · rename_i nodes hread
    refine I.build (by simp) (readTokens_carries ?_ h hread)
    simp [Thread.Carries, FramesCarry, Thread.initial, Frame.Carries]
  · split
    · exact I.build (by simp) (by simpa using hfault)
    · exact hfault
  · exact hfault

end TestScaffold.Python
