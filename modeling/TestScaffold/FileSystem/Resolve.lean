/-
  TestScaffold.FileSystem.Resolve — from paths to entries.

    * `Route` — a path as the file system reads it, step by step;
    * `FileSystem.resolve` — the entry that a path leads to, links followed, or the
      free name in an existing directory;
    * `isFile`, `isDirectory` — what follows from it;
    * `FileSystem.canonical?` — the one spelling of an existing path, found name after name.

  At most forty links are followed on one way.
-/
import TestScaffold.FileSystem.Basic
import TestScaffold.Failure
import TestScaffold.Path

namespace TestScaffold

/-! ## §1. Routes -/

/-- One step on the way through directories. -/
inductive Step where
  /-- Stay, which needs a directory. -/
  | here
  /-- To the directory above; the root is above itself. -/
  | up
  /-- To the entry of that name. -/
  | down (name : ByteString)
  deriving DecidableEq, Repr, Inhabited

/-- A way through directories. -/
structure Route where
  /-- Whether it starts at the root. -/
  fromRoot : Bool
  /-- The steps. -/
  steps : List Step
  deriving DecidableEq, Repr, Inhabited

namespace Route

/-- The step of a non-empty segment. -/
def stepOf (segment : List UInt8) : Step :=
  if segment == [dot] then .here
  else if segment == [dot, dot] then .up
  else .down (.ofList segment)

/-- The way that a path spells; a slash at its end asks for a directory. -/
def ofPath (path : ByteString) : Route :=
  let bs := path.toList
  let steps := ((Text.splitSep slash bs).filter fun s => !s.isEmpty).map stepOf
  { fromRoot := bs.head? == some slash
    steps := if bs.getLast? == some slash then steps ++ [.here] else steps }

end Route

/-! ## §2. Resolution -/

/-- Where a way ends. -/
inductive Target where
  /-- At an entry that is no link. -/
  | found (loc : Location) (entry : Entry)
  /-- At a free name of a directory. -/
  | vacant (directory : Location) (name : ByteString)
  deriving Inhabited

/-- The longest name in bytes. -/
def maxNameBytes : Nat := 255

/-- The longest path in bytes. -/
def maxPathBytes : Nat := 4095

/-- The most links on one way. -/
def maxLinks : Nat := 40

namespace FileSystem

/-- Goes on from a directory; `onLink` goes on from a link. -/
def walkSteps (fs : FileSystem) (onLink : Location → List Step → Except IoFault Target) :
    Location → List Step → Except IoFault Target
  | loc, [] =>
    match fs.find? loc with
    | some entry => .ok (.found loc entry)
    | none => .error .noEntry
  | loc, .here :: rest => walkSteps fs onLink loc rest
  | loc, .up :: rest => walkSteps fs onLink loc.dropLast rest
  | loc, .down name :: rest =>
    if maxNameBytes < name.size then .error .nameTooLong
    else
      match fs.find? (loc ++ [name]) with
      | none => if rest.isEmpty then .ok (.vacant loc name) else .error .noEntry
      | some (.directory _) => walkSteps fs onLink (loc ++ [name]) rest
      | some (.file content) =>
        if rest.isEmpty then .ok (.found (loc ++ [name]) (.file content))
        else .error .notDirectory
      | some .device =>
        if rest.isEmpty then .ok (.found (loc ++ [name]) .device) else .error .notDirectory
      | some (.link target) =>
        let route := Route.ofPath target
        onLink (if route.fromRoot then [] else loc) (route.steps ++ rest)

/-- Goes on from a directory, following at most `budget` links. -/
def follow (fs : FileSystem) : (budget : Nat) → Location → List Step → Except IoFault Target
  | 0 => fs.walkSteps fun _ _ => .error .linkLoop
  | budget + 1 => fs.walkSteps (follow fs budget)

/-- The directory that a way starts from. -/
def start (fs : FileSystem) (route : Route) : Location :=
  if route.fromRoot then [] else fs.cwd

/-- A path that the system looks at, as a route. -/
def route (path : ByteString) : Except IoFault Route :=
  if path.toList.contains 0 then .error .zeroInName
  else if path.isEmpty then .error .noEntry
  else if maxPathBytes < path.size then .error .nameTooLong
  else .ok (Route.ofPath path)

/-- Where a path leads, links followed. -/
def resolve (fs : FileSystem) (path : ByteString) : Except IoFault Target := do
  let r ← route path
  fs.follow maxLinks (fs.start r) r.steps

/-- The entry that a path leads to, with its location. -/
def entryAt (fs : FileSystem) (path : ByteString) : Except IoFault (Location × Entry) :=
  match fs.resolve path with
  | .ok (.found loc entry) => .ok (loc, entry)
  | .ok (.vacant _ _) => .error .noEntry
  | .error fault => .error fault

/-- Whether a path leads to an entry. -/
def pathExists (fs : FileSystem) (path : ByteString) : Bool :=
  match fs.entryAt path with
  | .ok _ => true
  | .error _ => false

/-- Whether a path leads to a regular file. -/
def isFile (fs : FileSystem) (path : ByteString) : Bool :=
  match fs.entryAt path with
  | .ok (_, .file _) => true
  | _ => false

/-- Whether a path leads to a directory. -/
def isDirectory (fs : FileSystem) (path : ByteString) : Bool :=
  match fs.entryAt path with
  | .ok (_, .directory _) => true
  | _ => false

/-! ## §3. Canonical paths -/

/-- The location of the entry that a path leads to.  The path is gone through one name after the
    other: its length does not matter, and a name with a zero byte is found nowhere. -/
def traced? (fs : FileSystem) (path : ByteString) : Option Location :=
  if path.isEmpty then none
  else
    let r := Route.ofPath path
    match fs.follow maxLinks (fs.start r) r.steps with
    | .ok (.found loc _) => some loc
    | _ => none

/-- Whether a way leaves the directory it has come to, or asks for it: it goes up next, or ends here
    after all. -/
def asksDirectory : List Step → Bool
  | [] => false
  | .here :: rest => rest.isEmpty || asksDirectory rest
  | .up :: _ => true
  | .down _ :: _ => false

/-- The paths that are looked at on the way from a directory: of each name the path that it has at its
    location, with a slash if it is asked to be a directory.  `onLink` goes on from a link. -/
def stopsFrom (fs : FileSystem) (onLink : Location → List Step → List ByteString) :
    Location → List Step → List ByteString
  | _, [] => []
  | loc, .here :: rest => stopsFrom fs onLink loc rest
  | loc, .up :: rest => stopsFrom fs onLink loc.dropLast rest
  | loc, .down name :: rest =>
    let place := Location.path (loc ++ [name])
    match fs.find? (loc ++ [name]) with
    | some (.link target) =>
      let route := Route.ofPath target
      place :: onLink (if route.fromRoot then [] else loc) (route.steps ++ rest)
    | _ =>
      (if asksDirectory rest then place ++ "/" else place) :: stopsFrom fs onLink (loc ++ [name]) rest

/-- The paths that are looked at on the way from a directory, following at most `budget` links. -/
def stops (fs : FileSystem) : (budget : Nat) → Location → List Step → List ByteString
  | 0 => fs.stopsFrom fun _ _ => []
  | budget + 1 => fs.stopsFrom (stops fs budget)

/-- Whether a path can be gone through one name after the other: none of the paths that are looked at
    is too long. -/
def isTraceable (fs : FileSystem) (path : ByteString) : Bool :=
  let r := Route.ofPath path
  (fs.stops maxLinks (fs.start r) r.steps).all fun stop => stop.size ≤ maxPathBytes

/-- The one spelling of an existing path that is absolute and free of links. -/
def canonical? (fs : FileSystem) (path : ByteString) : Option ByteString :=
  if fs.isTraceable path then (fs.traced? path).map Location.path else none

/-- What two spellings of one file share: the canonical path, or for a path that has none its
    lexical normal form. -/
def identity (fs : FileSystem) (path : ByteString) : ByteString :=
  (fs.canonical? path).getD (Path.clean path)

end FileSystem

end TestScaffold
