/-
  TestScaffold.Discovery — from the paths a user names to the modules of a batch.

    * `FilterSettings.accepts` — exclusion by the spelling of a path;
    * `FileSystem.expand` — a file is itself, a directory its Python files, if all directories below
      it can be listed;
    * `FileSystem.collect` — the accepted files of all paths, each file once.

  Exclusion looks at spellings, read as texts; repetition at identities.
-/
import TestScaffold.FileSystem.Access
import TestScaffold.TestModule

namespace TestScaffold

/-! ## §1. Exclusion -/

namespace FilterSettings

/-- Whether the directory of a path, as spelled, contains the name of an ignored folder. -/
def inIgnoredFolder (f : FilterSettings) (path : ByteString) : Bool :=
  let parent := (Path.parent? path).getD ""
  f.foldersToIgnore.any fun token => Text.occursIn token parent.text

/-- Whether a path, as spelled, contains an ignored pattern. -/
def matchesIgnoredPattern (f : FilterSettings) (path : ByteString) : Bool :=
  f.patternsToIgnore.any fun pattern => Text.occursIn pattern path.text

end FilterSettings

/-- Whether a module can hold code worth testing: names such as `__init__` do not. -/
def isBusinessModule (path : ByteString) : Bool :=
  !Text.isDunder (Path.stem path)

/-- Whether a path takes part in a batch. -/
def FilterSettings.accepts (f : FilterSettings) (path : ByteString) : Bool :=
  !f.inIgnoredFolder path && isBusinessModule path && !f.matchesIgnoredPattern path

/-! ## §2. Collection -/

namespace FileSystem

/-- A file is taken as spelled; a directory gives its Python files. -/
def expand (fs : FileSystem) (path : ByteString) : Except Failure (List ByteString) :=
  if fs.isFile path then .ok [path]
  else if fs.isDirectory path then fs.filesBelow pythonExtension path
  else .error (.invalidPath path)

/-- The expansions of all paths in a row; the first path without an expansion fails. -/
def expandAll (fs : FileSystem) : List ByteString → Except Failure (List ByteString)
  | [] => .ok []
  | path :: rest => do
    let files ← fs.expand path
    let more ← fs.expandAll rest
    .ok (files ++ more)

/-- The paths whose identity is not in `seen` and not that of a path before them. -/
def firstSpellings (fs : FileSystem) (seen : List ByteString) : List ByteString → List ByteString
  | [] => []
  | path :: rest =>
    let key := fs.identity path
    if seen.contains key then firstSpellings fs seen rest
    else path :: firstSpellings fs (key :: seen) rest

/-- The modules of a batch, in the order of the paths. -/
def collect (fs : FileSystem) (filter : FilterSettings) (paths : List ByteString) :
    Except Failure (List ByteString) := do
  let files ← fs.expandAll paths
  .ok (fs.firstSpellings [] (files.filter filter.accepts))

end FileSystem

end TestScaffold
