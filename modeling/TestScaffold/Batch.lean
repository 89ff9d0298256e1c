/-
  TestScaffold.Batch — reading modules and writing their test modules.

    * `FileSystem.writeTests` — the test module of one source module;
    * `FileSystem.process` — one source file;
    * `FileSystem.generate` — all files of a batch, with a report.

  A source that cannot be read or parsed is noted in the report and the batch goes
  on; any other failure ends it.  What was written before stays, and so do the
  directories of a test module that cannot be built or written.
-/
import TestScaffold.Discovery
import TestScaffold.Catalogue

namespace TestScaffold

/-- What became of one source file. -/
inductive FileOutcome where
  /-- Its tests were written to that path. -/
  | written (path : ByteString)
  /-- It has no function that deserves a test. -/
  | noFunctions
  deriving DecidableEq, Repr, Inhabited

/-- What became of a batch. -/
structure Report where
  /-- The test modules, in the order of their sources. -/
  written : List ByteString := []
  /-- The sources without functions. -/
  skipped : List ByteString := []
  /-- The sources that could not be read or parsed. -/
  failed : List (ByteString × Failure) := []
  deriving Repr, Inhabited

/-- The number of sources accounted for. -/
def Report.processed (r : Report) : Nat :=
  r.written.length + r.skipped.length + r.failed.length

namespace FileSystem

/-- Writes the test module of a source module, with the directories it needs, unless it would
    replace the source itself. -/
def writeTests (fs : FileSystem) (m : SourceModule) (r : RenderSettings) :
    FileSystem × Except Failure ByteString :=
  let path := m.outputPath r
  let source := m.sourcePath
  if fs.identity path = fs.identity source then (fs, .error (.overwritesSource source))
  else
    let directory := (Path.parent? path).getD ""
    match fs.createDirectories directory with
    | (made, .error fault) => (made, .error (.createDirectory directory fault))
    | (made, .ok ()) =>
      if m.overflows r then (made, .error .textTooLong)
      else
        match made.write path (m.render r).toUTF8 with
        | .ok done => (done, .ok path)
        | .error fault => (made, .error (.write path fault))

/-- The module at a path, with its functions. -/
def scanFile (fs : FileSystem) (path : ByteString) : Except Failure SourceModule :=
  match fs.readText path with
  | .ok text => scanModule path text
  | .error fault => .error (.read path fault)

/-- Reads one source file and writes its tests. -/
def process (fs : FileSystem) (r : RenderSettings) (path : ByteString) :
    FileSystem × Except Failure FileOutcome :=
  match fs.scanFile path with
  | .error failure => (fs, .error failure)
  | .ok m =>
    if m.functions.isEmpty then (fs, .ok .noFunctions)
    else
      match fs.writeTests m r with
      | (done, .ok output) => (done, .ok (.written output))
      | (done, .error failure) => (done, .error failure)

/-- Reads the sources of a batch one after the other. -/
def processAll (fs : FileSystem) (r : RenderSettings) :
    List ByteString → FileSystem × Except Failure Report
  | [] => (fs, .ok {})
  | path :: rest =>
    match fs.process r path with
    | (next, .ok (.written output)) =>
      let (done, report) := processAll next r rest
      (done, report.map fun s => { s with written := output :: s.written })
    | (next, .ok .noFunctions) =>
      let (done, report) := processAll next r rest
      (done, report.map fun s => { s with skipped := path :: s.skipped })
    | (next, .error failure) =>
      if failure.isPerModule then
        let (done, report) := processAll next r rest
        (done, report.map fun s => { s with failed := (path, failure) :: s.failed })
      else (next, .error failure)

/-- Writes the tests of all modules that the paths lead to. -/
def generate (fs : FileSystem) (s : Settings) (paths : List ByteString) :
    FileSystem × Except Failure Report :=
  match fs.collect s.filter paths with
  | .ok sources => fs.processAll s.render sources
  | .error failure => (fs, .error failure)

end FileSystem

end TestScaffold
