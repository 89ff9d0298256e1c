/-
  TestScaffold.Main — the command.

  What the run can look at is read from the disk first, the run itself works on that
  value, and what it changed is written back.  Words and names are taken as texts there.
  Questions are shown one at a time: the dialogue is run again with every line that was typed.
-/
import TestScaffold.CommandLine.Run

namespace TestScaffold.Main

open TestScaffold.CommandLine

/-! ## §1. From the disk -/

/-- The entry at a path of the disk; of files, only those with the Python extension and those that
    `wanted` names are read. -/
partial def readEntry (wanted : List String) (path : String) : IO Entry := do
  let place := System.mkFilePath [path]
  match (← place.symlinkMetadata).type with
  | .dir =>
    let entries ← (← place.readDir).toList.mapM fun e => do
      return (.ofText e.fileName, ← readEntry wanted (Path.join path e.fileName).text)
    return .directory (entries.foldl (fun es (n, e) => Entries.setName n e es) [])
  | .file =>
    if Path.hasExtension path pythonExtension || wanted.contains path then
      return .file (← IO.FS.readBinFile place)
    else return .file .empty
  | .symlink =>
    try return .link (← IO.FS.realPath place).toString catch _ => return .link path
  | .other => return .device

/-- Adds the entry at a location, with the directories above it. -/
def addEntry (fs : FileSystem) (loc : Location) (entry : Entry) : FileSystem :=
  let above := (List.range loc.length).map fun n => loc.take n
  let fs := above.foldl (fun fs up =>
    if up.isEmpty || (fs.find? up).isSome then fs else fs.set up (.directory [])) fs
  fs.set loc entry

/-- The location of a canonical path. -/
def locationOf (path : String) : Location :=
  ((path.splitOn "/").filter fun s => !s.isEmpty).map .ofText

/-- The directory that a path stands in, and all below it. -/
def addSurroundings (wanted : List String) (fs : FileSystem) (path : String) : IO FileSystem := do
  try
    let real := (← IO.FS.realPath (System.mkFilePath [path])).toString
    let isDirectory ← (System.mkFilePath [real]).isDir
    let directory := if isDirectory then real else ((Path.parent? real).getD "/").text
    return addEntry fs (locationOf directory) (← readEntry wanted directory)
  catch _ => return fs

/-- The part of the disk that a run with these paths can look at. -/
def readDisk (paths : List String) : IO FileSystem := do
  let here := (← IO.currentDir).toString
  let wanted ← paths.mapM fun p => do
    try return (← IO.FS.realPath (System.mkFilePath [p])).toString catch _ => return p
  let start : FileSystem := { cwd := locationOf here }
  let start := addEntry start (locationOf here) (.directory [])
  paths.foldlM (addSurroundings wanted) start

/-! ## §2. To the disk -/

/-- Writes what a run changed. -/
def writeDisk (before after : FileSystem) : IO Unit :=
  for (loc, entry) in before.changes after [] do
    let place := System.mkFilePath [(Location.path loc).text]
    match entry with
    | .directory _ => IO.FS.createDirAll place
    | .file content => IO.FS.writeBinFile place content
    | _ => pure ()

/-! ## §3. The dialogue -/

/-- One line of the input as bytes, with its line feed; empty at the end. -/
partial def readLine (input : IO.FS.Stream) (sofar : ByteArray) : IO ByteArray := do
  let more ← input.read 1
  if more.isEmpty then return sofar
  else if more.data.contains 10 then return sofar ++ more
  else readLine input (sofar ++ more)

/-- Asks one question after the other; what was typed is returned. -/
partial def converse (input : IO.FS.Stream) (base : Settings) (typed : ByteArray) : IO ByteArray := do
  let (_, session) := runDialogue base typed
  match session.questions[(inputLines typed).length]? with
  | none => return typed
  | some question =>
    IO.print question
    (← IO.getStdout).flush
    let line ← readLine input .empty
    if line.isEmpty then return typed else converse input base (typed ++ line)

/-! ## §4. The command -/

/-- The paths that an input names in its first lines. -/
def pathsOf (base : Settings) (typed : ByteArray) : List String :=
  match runDialogue base typed with
  | (.ok (paths, _), _) => paths
  | _ => []

/-- What was typed, and the questions that are on the screen already. -/
def collectInput (fs : FileSystem) (words : List ByteString) : IO (ByteArray × String × List String) := do
  match Arguments.parse words with
  | .ok a =>
    match a.interactive, a.validate fs, a.settings fs with
    | true, .ok (), .ok (base, _) =>
      let typed ← converse (← IO.getStdin) base .empty
      let (_, session) := runDialogue base typed
      let shown := session.questions.take ((inputLines typed).length + 1)
      return (typed, String.join shown, pathsOf base typed)
    | _, _, _ => return (.empty, "", [])
  | .error _ => return (.empty, "", [])

/-- The paths that the words name. -/
def namedPaths (words : List ByteString) : List String :=
  match Arguments.parse words with
  | .ok a => (a.paths ++ a.config?.toList).map ByteString.text
  | .error _ => []

/-- Runs the program. -/
def command (words : List ByteString) : IO UInt32 := do
  let named := namedPaths words
  let (typed, shown, answered) ← collectInput (← readDisk named) words
  let fs ← readDisk (named ++ answered)
  let (after, ending) := run fs words typed
  writeDisk fs after
  IO.print (ending.output.drop shown.length).toString
  match ending.complaint? with
  | some c => IO.eprintln (complaintText c)
  | none => if ending.code = 2 then IO.eprintln usageLine
  return ending.code.toUInt32

end TestScaffold.Main

/-- Runs the program on the words of the command line. -/
def main (words : List String) : IO UInt32 :=
  TestScaffold.Main.command (words.map TestScaffold.ByteString.ofText)
