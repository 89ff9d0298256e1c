/-
  TestScaffold.FileSystem.Basic — a file system as a value.

    * `Entry` — a file, a symbolic link, a device, or a directory with its entries in name order;
    * `FileSystem` — the entries at the root, and the working directory;
    * `FileSystem.find?`, `FileSystem.set`, `FileSystem.erase` — by location;
    * `FileSystem.changes` — what is new or different.

  A name is a string of bytes.  A location is a list of names from the root down and never passes
  through a link.
-/
import TestScaffold.Text.ByteString

namespace TestScaffold

/-! ## §1. Entries -/

/-- One entry of a directory. -/
inductive Entry where
  /-- A regular file. -/
  | file (content : ByteArray)
  /-- A symbolic link. -/
  | link (target : ByteString)
  /-- A device that holds nothing and takes everything; neither a file nor a directory. -/
  | device
  /-- A directory; its entries are in name order, each name once. -/
  | directory (entries : List (ByteString × Entry))
  deriving Inhabited

/-- The entries of a directory. -/
abbrev Entries := List (ByteString × Entry)

/-- The names from the root down to an entry. -/
abbrev Location := List ByteString

/-- The path of a location. -/
def Location.path (loc : Location) : ByteString :=
  .ofList (slash :: List.intercalate [slash] (loc.map ByteString.toList))

namespace Entries

/-- The entry at a location below these entries. -/
def find? : Entries → Location → Option Entry
  | es, [] => some (.directory es)
  | es, n :: ns =>
    match es.lookup n with
    | some (.directory inner) => find? inner ns
    | some e => if ns.isEmpty then some e else none
    | none => none

/-- Adds or replaces the entry of a name, in name order. -/
def setName (name : ByteString) (entry : Entry) : Entries → Entries
  | [] => [(name, entry)]
  | (n, e) :: rest =>
    if name = n then (name, entry) :: rest
    else if name < n then (name, entry) :: (n, e) :: rest
    else (n, e) :: setName name entry rest

/-- Adds or replaces the entry at a location whose directory is there. -/
def set : Entries → Location → Entry → Entries
  | es, [], _ => es
  | es, [n], new => setName n new es
  | es, n :: m :: ns, new =>
    match es.lookup n with
    | some (.directory inner) => setName n (.directory (set inner (m :: ns) new)) es
    | _ => es

/-- Takes away the entry at a location. -/
def erase : Entries → Location → Entries
  | es, [] => es
  | es, [n] => es.filter fun e => e.1 != n
  | es, n :: m :: ns =>
    match es.lookup n with
    | some (.directory inner) => setName n (.directory (erase inner (m :: ns))) es
    | _ => es

end Entries

/-! ## §2. File systems -/

/-- The entries at the root, and the directory that relative paths start from. -/
structure FileSystem where
  /-- The entries at the root. -/
  top : Entries := []
  /-- The working directory. -/
  cwd : Location := []
  deriving Inhabited

namespace FileSystem

/-- The entry at a location. -/
def find? (fs : FileSystem) (loc : Location) : Option Entry :=
  fs.top.find? loc

/-- Adds or replaces the entry at a location whose directory is there. -/
def set (fs : FileSystem) (loc : Location) (entry : Entry) : FileSystem :=
  { fs with top := fs.top.set loc entry }

/-- Takes away the entry at a location. -/
def erase (fs : FileSystem) (loc : Location) : FileSystem :=
  { fs with top := fs.top.erase loc }

end FileSystem

/-! ## §3. Changes -/

mutual

/-- The locations of an entry and of all entries below it; `here` is its own. -/
def Entry.locations (here : Location) : Entry → List Location
  | .directory es => here :: locationsIn here es
  | _ => [here]

/-- The locations of all entries of a directory. -/
def locationsIn (here : Location) : List (ByteString × Entry) → List Location
  | [] => []
  | (n, e) :: rest => e.locations (here ++ [n]) ++ locationsIn here rest

end

/-- Whether two entries differ as entries of their directories. -/
def Entry.differs : Entry → Entry → Bool
  | .file a, .file b => a.data != b.data
  | .link a, .link b => a != b
  | .directory _, .directory _ => false
  | .device, .device => false
  | _, _ => true

namespace FileSystem

/-- The entries below a directory that are new or differ, by their locations below it. -/
def changes (before after : FileSystem) (directory : Location) : List (Location × Entry) :=
  match after.find? directory with
  | some (.directory es) =>
    (locationsIn [] es).filterMap fun loc =>
      match after.find? (directory ++ loc), before.find? (directory ++ loc) with
      | some new, some old => if new.differs old then some (loc, new) else none
      | some new, none => some (loc, new)
      | none, _ => none
  | _ => []

end FileSystem

end TestScaffold
