/-
  TestScaffold.FileSystem.Access — reading, writing and listing.

    * `FileSystem.readText` — the text of a file;
    * `FileSystem.write` — through links, creating the file if its name is free;
    * `FileSystem.createDirectories` — a directory with all that are missing above it;
    * `FileSystem.filesBelow` — the regular files under a directory with a given extension.

  An operation that can fail half-way returns the file system it leaves behind.
-/
import TestScaffold.FileSystem.Resolve

namespace TestScaffold.FileSystem

/-! ## §1. Reading -/

/-- The bytes of the file that a path leads to. -/
def readBytes (fs : FileSystem) (path : ByteString) : Except IoFault ByteArray :=
  match fs.entryAt path with
  | .ok (_, .file content) => .ok content
  | .ok (_, .device) => .ok .empty
  | .ok _ => .error .isDirectory
  | .error fault => .error fault

/-- The text of the file that a path leads to. -/
def readText (fs : FileSystem) (path : ByteString) : Except IoFault String := do
  match String.fromUTF8? (← fs.readBytes path) with
  | some text => .ok text
  | none => .error .notUtf8

/-! ## §2. Writing -/

/-- Writes a file through links; a free name gets a new file. -/
def write (fs : FileSystem) (path : ByteString) (content : ByteArray) : Except IoFault FileSystem :=
  match fs.resolve path with
  | .ok (.found loc (.file _)) => .ok (fs.set loc (.file content))
  | .ok (.found _ .device) => .ok fs
  | .ok (.found _ _) => .error .isDirectory
  | .ok (.vacant directory name) => .ok (fs.set (directory ++ [name]) (.file content))
  | .error fault => .error fault

/-- Makes one directory in a directory that is there. -/
def makeDirectory (fs : FileSystem) (path : ByteString) : Except IoFault FileSystem := do
  let r ← route path
  match r.steps.getLast? with
  | none => .error .alreadyExists
  | some last =>
    match ← fs.follow maxLinks (fs.start r) r.steps.dropLast with
    | .found loc (.directory _) =>
      match last with
      | .down name =>
        if maxNameBytes < name.size then .error .nameTooLong
        else if (fs.find? (loc ++ [name])).isSome then .error .alreadyExists
        else .ok (fs.set (loc ++ [name]) (.directory []))
      | _ => .error .alreadyExists
    | .found _ _ => .error .notDirectory
    | .vacant _ _ => .error .noEntry

/-- Makes the first directory of a list of ancestors, those above it first where they are missing.
    A directory that is there already is no fault. -/
def createFirst (fs : FileSystem) : List ByteString → FileSystem × Except IoFault Unit
  | [] => (fs, .error .noEntry)
  | path :: above =>
    if path.isEmpty then (fs, .ok ())
    else
      match fs.makeDirectory path with
      | .ok made => (made, .ok ())
      | .error .noEntry =>
        match createFirst fs above with
        | (made, .error fault) => (made, .error fault)
        | (made, .ok ()) =>
          match made.makeDirectory path with
          | .ok done => (done, .ok ())
          | .error fault => if made.isDirectory path then (made, .ok ()) else (made, .error fault)
      | .error fault => if fs.isDirectory path then (fs, .ok ()) else (fs, .error fault)

/-- Makes a directory and all that are missing above it. -/
def createDirectories (fs : FileSystem) (path : ByteString) : FileSystem × Except IoFault Unit :=
  fs.createFirst (Path.ancestors path)

/-- The location that a new name, or a name to take away, has: its directory resolved, the name
    itself not followed. -/
def nameAt (fs : FileSystem) (path : ByteString) : Except IoFault Location :=
  match Path.fileName? path with
  | none => .error .isDirectory
  | some name =>
    let directory := (Path.parent? path).getD ""
    if directory.isEmpty then .ok (fs.cwd ++ [name])
    else do
      let (loc, _) ← fs.entryAt directory
      .ok (loc ++ [name])

/-- Makes a link in a directory that is there. -/
def makeLink (fs : FileSystem) (path target : ByteString) : Except IoFault FileSystem := do
  let loc ← fs.nameAt path
  if (fs.find? loc).isSome then .error .alreadyExists else .ok (fs.set loc (.link target))

/-- Takes away a file, a link, or a directory with all that is below it. -/
def remove (fs : FileSystem) (path : ByteString) : Except IoFault FileSystem := do
  let loc ← fs.nameAt path
  if (fs.find? loc).isSome then .ok (fs.erase loc) else .error .noEntry

/-! ## §3. Listing -/

mutual

/-- The regular files with an extension at or below an entry, depth first; `path` is its own.  A
    directory is listed under its path; the first one whose path is too long is reported. -/
def filesAt (extension : String) (path : ByteString) : Entry → Except ByteString (List ByteString)
  | .file _ => .ok (if Path.hasExtension path extension then [path] else [])
  | .link _ | .device => .ok []
  | .directory es =>
    if maxPathBytes < path.size then .error path else filesIn extension path es

/-- The regular files with an extension below the entries of a directory. -/
def filesIn (extension : String) (path : ByteString) :
    List (ByteString × Entry) → Except ByteString (List ByteString)
  | [] => .ok []
  | (name, entry) :: rest => do
    let files ← filesAt extension (Path.join path name) entry
    let more ← filesIn extension path rest
    .ok (files ++ more)

end

/-- The regular files with an extension below the directory that a path leads to, spelled from that
    path on.  Links below it are not followed. -/
def filesBelow (fs : FileSystem) (extension : String) (path : ByteString) :
    Except Failure (List ByteString) :=
  match fs.entryAt path with
  | .ok (_, .directory es) =>
    match filesIn extension path es with
    | .ok files => .ok files
    | .error directory => .error (.scanDirectory path directory .nameTooLong)
  | _ => .ok []

end TestScaffold.FileSystem
