/-
  TestScaffold.Yaml.Event — a YAML document as a flat list of events.

    * `Event` — a scalar, the begin or end of a list or of members, or an alias;
    * `Parser` — a reading of tokens that keeps the events made before a fault;
    * `Document.first` — the first document of a text.

  The functions for nodes follow the grammar.  They are given more fuel than a text of
  its length can use.
-/
import TestScaffold.Yaml.Token

namespace TestScaffold.Yaml

/-! ## §1. Events -/

/-- One step through a document. -/
inductive Event where
  /-- What began at an earlier event, once more. -/
  | alias (target : Nat)
  /-- A scalar. -/
  | scalar (style : Style) (text : String)
  /-- A list begins. -/
  | sequenceStart
  /-- A list ends. -/
  | sequenceEnd
  /-- Members begin. -/
  | mappingStart
  /-- Members end. -/
  | mappingEnd
  deriving DecidableEq, Repr, Inhabited

/-- An event with its tag. -/
structure TaggedEvent where
  /-- The event. -/
  event : Event
  /-- The tag of what begins with it. -/
  tag? : Option String := none
  deriving DecidableEq, Repr, Inhabited

/-- What a reading has come to. -/
structure Reading where
  /-- The tokens. -/
  scanner : Scanner
  /-- The events so far. -/
  events : Array TaggedEvent := #[]
  /-- The anchors so far, newest first, with the events they name. -/
  anchors : List (String × Nat) := []
  /-- The tag handles and what they stand for. -/
  handles : List (String × String) := []

/-- A reading that can meet a malformed text; what it has come to is kept. -/
abbrev Parser := ExceptT Unit (StateM Reading)

namespace Parser

/-- The text is malformed. -/
def malformed : Parser α := throw ()

/-- The token that comes next. -/
def peek : Parser Token := do
  match (← get).scanner.peek with
  | some (t, scanner) =>
    modify fun r => { r with scanner }
    return t
  | none => malformed

/-- Takes the token that comes next. -/
def drop : Parser Unit :=
  modify fun r => { r with scanner := r.scanner.drop }

/-- Adds an event; an anchor names it. -/
def emit (e : Event) (tag? : Option String := none) (anchor? : Option String := none) :
    Parser Unit :=
  modify fun r =>
    { r with
      events := r.events.push ⟨e, tag?⟩
      anchors := match anchor? with
        | some name => (name, r.events.size) :: r.anchors
        | none => r.anchors }

/-- Adds an empty plain scalar. -/
def emitEmpty : Parser Unit := emit (.scalar .plain "")

/-! ## §2. Properties -/

/-- The tags that two handles stand for without a directive. -/
def defaultHandles : List (String × String) :=
  [("!", "!"), ("!!", "tag:yaml.org,2002:")]

/-- The tag of a handle and a suffix. -/
def resolveTag (handle suffix : String) : Parser String := do
  if handle.isEmpty then return suffix
  else
    match ((← get).handles ++ defaultHandles).lookup handle with
    | some meaning => return meaning ++ suffix
    | none => malformed

/-- An anchor and a tag, in either order. -/
def properties : Parser (Option String × Option (String × String)) := do
  match ← peek with
  | .anchor name =>
    drop
    match ← peek with
    | .tag handle suffix => drop; return (some name, some (handle, suffix))
    | _ => return (some name, none)
  | .tag handle suffix =>
    drop
    match ← peek with
    | .anchor name => drop; return (some name, some (handle, suffix))
    | _ => return (none, some (handle, suffix))
  | _ => return (none, none)

/-! ## §3. Nodes -/

/-- Where a node stands, for the tokens it may begin with. -/
inductive Context where
  /-- Inside brackets. -/
  | flow
  /-- In a block. -/
  | block
  /-- A key or value of a block, which may be a list without indentation of its own. -/
  | member
  deriving DecidableEq

mutual

/-- A node with its properties. -/
def node (context : Context) : (fuel : Nat) → Parser Unit
  | 0 => malformed
  | fuel + 1 => do
    match ← peek with
    | .alias name =>
      drop
      match (← get).anchors.lookup name with
      | some target => emit (.alias target)
      | none => malformed
    | _ =>
      let (anchor?, pair?) ← properties
      let tag? ← match pair? with
        | some (handle, suffix) => some <$> resolveTag handle suffix
        | none => pure none
      match ← peek with
      | .entry =>
        if context = .member then
          emit .sequenceStart tag? anchor?
          looseEntries fuel
        else empty anchor? tag?
      | .scalar style text =>
        drop
        emit (.scalar style text) tag? anchor?
      | .openBracket =>
        emit .sequenceStart tag? anchor?
        drop
        flowEntries true fuel
      | .openBrace =>
        emit .mappingStart tag? anchor?
        drop
        flowMembers true fuel
      | .blockSequence =>
        if context = .flow then empty anchor? tag?
        else
          emit .sequenceStart tag? anchor?
          drop
          blockEntries fuel
      | .blockMapping =>
        if context = .flow then empty anchor? tag?
        else
          emit .mappingStart tag? anchor?
          drop
          blockMembers fuel
      | _ => empty anchor? tag?
where
  /-- Properties alone are an empty scalar; nothing at all is a fault. -/
  empty (anchor? tag? : Option String) : Parser Unit :=
    if anchor?.isSome || tag?.isSome then emit (.scalar .plain "") tag? anchor? else malformed

/-- A node, or an empty scalar before one of the tokens that end it. -/
def nodeUnless (stops : Token → Bool) (context : Context) : (fuel : Nat) → Parser Unit
  | 0 => malformed
  | fuel + 1 => do
    if stops (← peek) then emitEmpty else node context fuel

/-- The entries of an indented list. -/
def blockEntries : (fuel : Nat) → Parser Unit
  | 0 => malformed
  | fuel + 1 => do
    match ← peek with
    | .entry =>
      drop
      nodeUnless (fun t => t == .entry || t == .blockEnd) .block fuel
      blockEntries fuel
    | .blockEnd => drop; emit .sequenceEnd
    | _ => malformed

/-- The entries of a list that is not indented. -/
def looseEntries : (fuel : Nat) → Parser Unit
  | 0 => malformed
  | fuel + 1 => do
    match ← peek with
    | .entry =>
      drop
      nodeUnless (fun t => t == .entry || t == .key || t == .value || t == .blockEnd) .block fuel
      looseEntries fuel
    | _ => emit .sequenceEnd

/-- The members of an indented block. -/
def blockMembers : (fuel : Nat) → Parser Unit
  | 0 => malformed
  | fuel + 1 => do
    let stops := fun (t : Token) => t == .key || t == .value || t == .blockEnd
    match ← peek with
    | .key =>
      drop
      nodeUnless stops .member fuel
      if (← peek) == .value then
        drop
        nodeUnless stops .member fuel
      else emitEmpty
      blockMembers fuel
    | .blockEnd => drop; emit .mappingEnd
    | _ => malformed

/-- The entries of a bracketed list. -/
def flowEntries (first : Bool) : (fuel : Nat) → Parser Unit
  | 0 => malformed
  | fuel + 1 => do
    match ← peek with
    | .closeBracket => drop; emit .sequenceEnd
    | t =>
      if !first && t != .comma then malformed
      else
        if !first then drop
        match ← peek with
        | .closeBracket => drop; emit .sequenceEnd
        | .key =>
          drop
          emit .mappingStart
          nodeUnless (fun t => t == .value || t == .comma || t == .closeBracket) .flow fuel
          if (← peek) == .value then
            drop
            nodeUnless (fun t => t == .comma || t == .closeBracket) .flow fuel
          else emitEmpty
          emit .mappingEnd
          flowEntries false fuel
        | _ =>
          node .flow fuel
          flowEntries false fuel

/-- The members in braces. -/
def flowMembers (first : Bool) : (fuel : Nat) → Parser Unit
  | 0 => malformed
  | fuel + 1 => do
    match ← peek with
    | .closeBrace => drop; emit .mappingEnd
    | t =>
      if !first && t != .comma then malformed
      else
        if !first then drop
        match ← peek with
        | .closeBrace => drop; emit .mappingEnd
        | .key =>
          drop
          nodeUnless (fun t => t == .value || t == .comma || t == .closeBrace) .flow fuel
          if (← peek) == .value then
            drop
            nodeUnless (fun t => t == .comma || t == .closeBrace) .flow fuel
          else emitEmpty
          flowMembers false fuel
        | _ =>
          node .flow fuel
          emitEmpty
          flowMembers false fuel

end

/-! ## §4. Documents -/

/-- Whether a version is one that is read. -/
def knowsVersion (major minor : Nat) : Bool :=
  major == 1 && (minor == 1 || minor == 2)

/-- The directives before a document, each at most once. -/
def directives : (fuel : Nat) → (versioned : Bool) → Parser Unit
  | 0, _ => malformed
  | fuel + 1, versioned => do
    match ← peek with
    | .version major minor =>
      if versioned || !knowsVersion major minor then malformed
      else
        drop
        directives fuel true
    | .tagHandle handle meaning =>
      if ((← get).handles.lookup handle).isSome then malformed
      else
        modify fun r => { r with handles := r.handles ++ [(handle, meaning)] }
        drop
        directives fuel versioned
    | _ => return ()

/-- Whether a token can only stand outside of a document's content. -/
def isOutside : Token → Bool
  | .version _ _ | .tagHandle _ _ | .documentStart | .documentEnd | .streamEnd => true
  | _ => false

/-- The content of the first document, up to its end. -/
def document (fuel : Nat) : Parser Unit := do
  match ← peek with
  | .streamEnd => return ()
  | .version _ _ | .tagHandle _ _ | .documentStart =>
    directives fuel false
    match ← peek with
    | .documentStart =>
      drop
      if isOutside (← peek) then emitEmpty else node .block fuel
      closing
    | _ => malformed
  | _ =>
    node .block fuel
    closing
where
  /-- The mark after a document. -/
  closing : Parser Unit := do
    if (← peek) == .documentEnd then drop

/-- Whether nothing but marks of an end follows. -/
def atEnd : (fuel : Nat) → Parser Bool
  | 0 => return false
  | fuel + 1 => do
    match ← peek with
    | .documentEnd => drop; atEnd fuel
    | .streamEnd => return true
    | _ => return false

end Parser

/-! ## §5. The first document -/

/-- The first document of a text. -/
structure Document where
  /-- Its events, up to a fault. -/
  events : Array TaggedEvent
  /-- Whether all of the text was read and no other document follows. -/
  isWhole : Bool

/-- More rounds than a text of that length can take. -/
def roundsFor (length : Nat) : Nat := 16 * (length + 4)

/-- The first document of a text. -/
def Document.first (text : String) : Document :=
  let chars := text.toList
  if chars.all fun c => isAllowed c || c == Char.ofNat 0xFEFF then
    let fuel := roundsFor chars.length
    let (result, r) := (Parser.document fuel).run { scanner := Scanner.ofText text }
    match result with
    | .ok () =>
      let (atEnd, _) := (Parser.atEnd fuel).run r
      { events := r.events
        isWhole := match atEnd with
          | .ok b => b
          | .error () => false }
    | .error () => { events := r.events, isWhole := false }
  else { events := #[], isWhole := false }

end TestScaffold.Yaml
