/-
  TestScaffold.CommandLine.Run — a whole run.

    * `Arguments.validate` — whether what the arguments name is there;
    * `Arguments.settings` — the settings file with the options on top;
    * `run` — from words and input to the text, the exit code and the files.
-/
import TestScaffold.CommandLine.Help
import TestScaffold.SettingsFile.Load
import TestScaffold.Batch
import TestScaffold.Dialogue
import TestScaffold.Verbosity

namespace TestScaffold.CommandLine

/-- Why a run stopped: what was being done, and what went wrong, outermost first. -/
abbrev Complaint := List String

/-- A failure while something was being done. -/
def whileDoing (what : String) (f : Failure) : Complaint := what :: f.chain

/-! ## §1. Checks -/

/-- Whether a path leads to a file or a directory. -/
def validatePath (fs : FileSystem) (path : ByteString) : Except Complaint Unit :=
  if !fs.pathExists path then .error ["Path does not exist: " ++ path.text]
  else if fs.isFile path || fs.isDirectory path then .ok ()
  else .error ["Path is neither a file nor a directory: " ++ path.text]

namespace Arguments

/-- Whether all that the arguments name is there. -/
def validate (a : Arguments) (fs : FileSystem) : Except Complaint Unit := do
  a.paths.forM (validatePath fs)
  match a.config? with
  | some path =>
    if fs.pathExists path then return () else throw ["Config file does not exist: " ++ path.text]
  | none => return ()

/-! ## §2. Settings -/

/-- The options on top of what is left out. -/
def applyFilter (a : Arguments) (f : FilterSettings) : FilterSettings :=
  { foldersToIgnore := f.foldersToIgnore ++ a.ignoreFolders
    patternsToIgnore := f.patternsToIgnore ++ a.ignorePatterns }

/-- The options on top of what is written. -/
def applyRender (a : Arguments) (r : RenderSettings) : RenderSettings :=
  { outputDir := if a.besideSource then besideSourceDir else a.outputDir?.getD r.outputDir
    framework := a.framework?.getD r.framework
    importPackages := r.importPackages ++ a.imports
    indentSize := a.indent?.getD r.indentSize
    outcome := match a.assertStatement? with
      | some text => .statement text
      | none => a.outcome?.getD r.outcome
    modulePrefix := a.modulePrefix?.getD r.modulePrefix
    functionPrefix := a.functionPrefix?.getD r.functionPrefix
    docstring := a.docstring?.getD r.docstring
    wrapInClass := r.wrapInClass && !a.noClass
    className := a.className?.getD r.className
    setUp := r.setUp && !a.noSetUp
    tearDown := r.tearDown && !a.noTearDown }

/-- The options on top of the settings. -/
def apply (a : Arguments) (s : Settings) : Settings :=
  { filter := a.applyFilter s.filter, render := a.applyRender s.render }

/-- The settings file with the options on top, in normal form. -/
def settings (a : Arguments) (fs : FileSystem) : Except Complaint (Settings × List Notice) :=
  match SettingsFile.loadOrDefault fs a.config? with
  | .ok (s, notices) =>
    let (t, more) := (a.apply s).normalized
    .ok (t, notices ++ more)
  | .error f => .error (whileDoing "Failed to load configuration" f)

end Arguments

/-! ## §3. Runs -/

/-- Why a run stopped. -/
inductive Stop where
  /-- Something that the arguments name is not there. -/
  | arguments (complaint : Complaint)
  /-- The settings could not be loaded. -/
  | settings (complaint : Complaint)
  /-- The dialogue broke off. -/
  | answers (failure : Failure)
  /-- The batch broke off. -/
  | batch (failure : Failure)
  deriving DecidableEq, Repr, Inhabited

/-- What a stop is told as. -/
def Stop.complaint : Stop → Complaint
  | arguments complaint => "Invalid arguments" :: complaint
  | settings complaint => complaint
  | answers failure => whileDoing "Failed to collect answers" failure
  | batch failure => whileDoing "Test generation failed" failure

/-- Whether the run ended on the spot, with nothing told about it. -/
def Stop.isAbort : Stop → Bool
  | batch failure => failure.isAbort
  | _ => false

/-- How a run ended. -/
structure Ending where
  /-- The text for the terminal. -/
  output : String := ""
  /-- Why it stopped, if it did. -/
  stop? : Option Stop := none
  /-- The exit code. -/
  code : Nat := 0
  deriving Repr, Inhabited

/-- What is told of the end of a run that stopped. -/
def Ending.complaint? (e : Ending) : Option Complaint :=
  (e.stop?.filter fun stop => !stop.isAbort).map Stop.complaint

/-- The line that ends a run. -/
def summaryLine (r : Report) : String :=
  toString r.written.length ++ " test modules written, "
    ++ toString r.skipped.length ++ " modules without testable functions, "
    ++ toString r.failed.length ++ " modules failed\n"

/-- An ending by a stop, after some output. -/
def Ending.stopped (output : String) (stop : Stop) : Ending :=
  { output, stop? := some stop, code := if stop.isAbort then 101 else 1 }

/-- The ending of a command line that is no run. -/
def Ending.ofUsage : UsageFault → Ending
  | .help true => { output := longHelp }
  | .help false => { output := shortHelp }
  | _ => { code := 2 }

/-- Writes the tests of the paths and ends with the summary. -/
def generateAll (fs : FileSystem) (quiet : Bool) (output : String) (s : Settings)
    (paths : List ByteString) : FileSystem × Ending :=
  match fs.generate s paths with
  | (done, .ok report) =>
    (done, { output := output ++ (if quiet then "" else summaryLine report) })
  | (done, .error f) => (done, .stopped output (.batch f))

/-- A run with parsed arguments. -/
def runArguments (fs : FileSystem) (a : Arguments) (input : ByteArray) : FileSystem × Ending :=
  match a.validate fs with
  | .error c => (fs, .stopped "" (.arguments c))
  | .ok () =>
    match a.settings fs with
    | .error c => (fs, .stopped "" (.settings c))
    | .ok (s, _) =>
      if a.interactive then
        match runDialogue s input with
        | (.ok (paths, t), session) =>
          generateAll fs a.quiet session.transcript t (paths.map .ofText)
        | (.error f, session) => (fs, .stopped session.transcript (.answers f))
      else generateAll fs a.quiet "" s a.paths

/-- A run. -/
def run (fs : FileSystem) (words : List ByteString) (input : ByteArray) : FileSystem × Ending :=
  match Arguments.parse words with
  | .ok a => runArguments fs a input
  | .error f => (fs, .ofUsage f)

/-! ## §4. Complaints -/

/-- The lines of a cause; the first begins with its number if there are several causes. -/
def causeText (number? : Option Nat) (text : String) : String :=
  let (first, more) := match number? with
    | some n => (padLeft (toString n) ++ ": ", "       ")
    | none => ("    ", "    ")
  first ++ String.intercalate ("\n" ++ more) ((Text.splitSep '\n' text.toList).map String.ofList)
where
  /-- A number at the right end of five columns. -/
  padLeft (s : String) : String := String.ofList (List.replicate (5 - s.length) ' ') ++ s

/-- The causes of a complaint, numbered if there are several. -/
def causeTexts (causes : List String) : List String :=
  match causes with
  | [cause] => [causeText none cause]
  | _ => causes.mapIdx fun i cause => causeText (some i) cause

/-- A complaint as it is written for a user. -/
def complaintText : Complaint → String
  | [] => "Error: "
  | [what] => "Error: " ++ what
  | what :: causes =>
    "Error: " ++ what ++ "\n\nCaused by:\n" ++ String.intercalate "\n" (causeTexts causes)

end TestScaffold.CommandLine
