/-
  TestScaffold.Failure — what can go wrong, and how it is told.

    * `IoFault` — why the file system or the terminal refused;
    * `Failure` — why an operation stopped, with the path it is about;
    * `Failure.message`, `Failure.brief`, `Failure.chain` — the three texts of a failure, its path
      read as a text;
    * `Failure.isPerModule` — whether a batch goes on after it;
    * `Failure.isAbort` — whether the run ends on the spot, without handing the failure on.
-/
import TestScaffold.Text.ByteString

namespace TestScaffold

/-! ## §1. Refusals of the system -/

/-- Why the file system or the terminal refused. -/
inductive IoFault where
  /-- No entry has that name. -/
  | noEntry
  /-- The device failed. -/
  | device
  /-- Access is not granted. -/
  | denied
  /-- The entry is there already. -/
  | alreadyExists
  /-- A file stands where a directory is needed. -/
  | notDirectory
  /-- A directory stands where a file is needed. -/
  | isDirectory
  /-- Nothing more can be stored. -/
  | noSpace
  /-- The reader went away. -/
  | brokenPipe
  /-- A name or a path is longer than the system takes. -/
  | nameTooLong
  /-- Too many links in a row. -/
  | linkLoop
  /-- A name holds a zero character. -/
  | zeroInName
  /-- The bytes are not UTF-8. -/
  | notUtf8
  /-- The terminal takes no more text. -/
  | outputRefused
  deriving DecidableEq, Repr, Inhabited

namespace IoFault

/-- The number that the system gives to a refusal. -/
def number? : IoFault → Option Nat
  | noEntry => some 2
  | device => some 5
  | denied => some 13
  | alreadyExists => some 17
  | notDirectory => some 20
  | isDirectory => some 21
  | noSpace => some 28
  | brokenPipe => some 32
  | nameTooLong => some 36
  | linkLoop => some 40
  | zeroInName | notUtf8 | outputRefused => none

/-- A refusal in words. -/
def description : IoFault → String
  | noEntry => "No such file or directory"
  | device => "Input/output error"
  | denied => "Permission denied"
  | alreadyExists => "File exists"
  | notDirectory => "Not a directory"
  | isDirectory => "Is a directory"
  | noSpace => "No space left on device"
  | brokenPipe => "Broken pipe"
  | nameTooLong => "File name too long"
  | linkLoop => "Too many levels of symbolic links"
  | zeroInName => "file name contained an unexpected NUL byte"
  | notUtf8 => "stream did not contain valid UTF-8"
  | outputRefused => "broken pipe"

/-- The text of a refusal; those of the system carry their number. -/
def message (f : IoFault) : String :=
  match f.number? with
  | some n => f.description ++ " (os error " ++ toString n ++ ")"
  | none => f.description

/-- The refusals that carry a number. -/
def numbered : List IoFault :=
  [noEntry, device, denied, alreadyExists, notDirectory, isDirectory, noSpace, brokenPipe,
   nameTooLong, linkLoop]

/-- The refusal with a number. -/
def ofNumber? (n : Nat) : Option IoFault :=
  numbered.find? fun f => f.number? == some n

end IoFault

/-! ## §2. Failures -/

/-- A place where a source is no Python, and what is wrong there. -/
structure SyntaxFault where
  /-- Its line, from 1. -/
  line : Nat
  /-- Its column in bytes, from 1. -/
  column : Nat
  /-- What is wrong. -/
  description : String
  deriving DecidableEq, Repr, Inhabited

/-- Why an operation stopped. -/
inductive Failure where
  /-- The path is neither a file nor a directory. -/
  | invalidPath (path : ByteString)
  /-- A directory on the way through `path` could not be listed. -/
  | scanDirectory (path directory : ByteString) (cause : IoFault)
  /-- A source could not be read. -/
  | read (path : ByteString) (cause : IoFault)
  /-- A directory could not be made. -/
  | createDirectory (path : ByteString) (cause : IoFault)
  /-- A test module could not be written. -/
  | write (path : ByteString) (cause : IoFault)
  /-- The test module would replace its own source. -/
  | overwritesSource (path : ByteString)
  /-- A test module would be longer than any text can be. -/
  | textTooLong
  /-- The dialogue broke off. -/
  | prompt (cause : IoFault)
  /-- The settings file could not be read. -/
  | settingsRead (path : ByteString) (reason : String)
  /-- The settings file is malformed, or, with a detail, holds data of the wrong form. -/
  | settingsParse (path : ByteString) (detail? : Option String)
  /-- The settings file has another extension. -/
  | unsupportedFormat (extension : String)
  /-- Nothing to read was named. -/
  | missingPaths
  /-- A source is no Python. -/
  | invalidSyntax (path : ByteString) (fault : SyntaxFault)
  /-- A source has no syntax tree. -/
  | noTree (path : ByteString)
  deriving DecidableEq, Repr, Inhabited

namespace Failure

/-- A refusal while a directory was being listed. -/
def operation (directory : ByteString) (cause : IoFault) : String :=
  "IO error for operation on " ++ directory.text ++ ": " ++ cause.message

/-- The full text of a failure. -/
def message : Failure → String
  | invalidPath path => "path is neither file nor directory: " ++ path.text
  | scanDirectory path directory cause =>
    "failed to scan directory '" ++ path.text ++ "': " ++ operation directory cause
  | read path cause => "failed to read file '" ++ path.text ++ "': " ++ cause.message
  | createDirectory path cause =>
    "failed to create directory '" ++ path.text ++ "': " ++ cause.message
  | write path cause => "failed to write file '" ++ path.text ++ "': " ++ cause.message
  | overwritesSource path =>
    "refusing to overwrite source module '" ++ path.text
      ++ "' with its test module (set a module prefix or output directory)"
  | textTooLong => "capacity overflow"
  | prompt cause => "failed to exchange prompt with the terminal: " ++ cause.message
  | settingsRead path reason => "failed to read config file '" ++ path.text ++ "': " ++ reason
  | settingsParse path detail? =>
    "failed to parse config file '" ++ path.text ++ "'"
      ++ (match detail? with
          | some detail => ": " ++ detail
          | none => "")
  | unsupportedFormat extension =>
    "unsupported config format: " ++ extension ++ " (expected json or yaml)"
  | missingPaths => "no source paths provided"
  | invalidSyntax path fault =>
    path.text ++ ":" ++ toString fault.line ++ ":" ++ toString fault.column ++ ": syntax error: "
      ++ fault.description
  | noTree path => path.text ++ ": parser produced no syntax tree"

/-- The text of a failure without the place and the description of a syntax error. -/
def brief : Failure → String
  | invalidSyntax path _ => path.text ++ ": syntax error"
  | f => f.message

/-- What caused a failure, outermost first. -/
def causes : Failure → List String
  | scanDirectory _ directory cause => [operation directory cause, cause.message]
  | read _ cause | createDirectory _ cause | write _ cause | prompt cause => [cause.message]
  | _ => []

/-- The text of a failure and of what caused it. -/
def chain (f : Failure) : List String :=
  f.brief :: f.causes

/-- Failures of one source; a batch notes them and goes on. -/
def isPerModule : Failure → Bool
  | read .. | invalidSyntax .. | noTree .. => true
  | _ => false

/-- Failures that are not handed on: the run ends where they happen. -/
def isAbort : Failure → Bool
  | textTooLong => true
  | _ => false

/-- The source that a failure of parsing belongs to. -/
def parsedPath? : Failure → Option ByteString
  | invalidSyntax path _ | noTree path => some path
  | _ => none

end Failure

end TestScaffold
