/-
  TestScaffold.CommandLine.Arguments — what a command line asks for.

  The words of a command line are bytes.  Paths stay as they are; every other value has to be a text.

    * `Arguments` — the parsed command line;
    * `OptionSpec`, `optionTable` — the options, with what the help says about them;
    * `Arguments.parse` — words to arguments, or why they are refused.

  An option's value is looked at when the next option, flag or path begins, so an
  unknown option is refused before a bad value in front of it.
-/
import TestScaffold.Answer
import TestScaffold.Text.ByteString

namespace TestScaffold.CommandLine

/-! ## §1. Arguments and options -/

/-- A parsed command line. -/
structure Arguments where
  /-- The files and directories. -/
  paths : List ByteString := []
  /-- The settings file. -/
  config? : Option ByteString := none
  /-- More folders to ignore. -/
  ignoreFolders : List String := []
  /-- More patterns to ignore. -/
  ignorePatterns : List String := []
  /-- The directory of the tests. -/
  outputDir? : Option String := none
  /-- Whether the tests go beside their sources. -/
  besideSource : Bool := false
  /-- The framework. -/
  framework? : Option Framework := none
  /-- More packages to import. -/
  imports : List String := []
  /-- The indentation. -/
  indent? : Option Nat := none
  /-- Passing or failing. -/
  outcome? : Option Outcome := none
  /-- The statement of every test. -/
  assertStatement? : Option String := none
  /-- The begin of file names. -/
  modulePrefix? : Option String := none
  /-- The begin of function names. -/
  functionPrefix? : Option String := none
  /-- The docstrings. -/
  docstring? : Option DocstringMode := none
  /-- Whether there is no class. -/
  noClass : Bool := false
  /-- The name of the class. -/
  className? : Option String := none
  /-- Whether there is no hook before each test. -/
  noSetUp : Bool := false
  /-- Whether there is no hook after each test. -/
  noTearDown : Bool := false
  /-- Whether a dialogue comes first. -/
  interactive : Bool := false
  /-- How often more output was asked for. -/
  verbose : Nat := 0
  /-- Whether no output was asked for. -/
  quiet : Bool := false
  deriving DecidableEq, Repr, Inhabited

/-- Options with a value. -/
inductive ValueOption where
  | config
  | ignoreFolder
  | ignorePattern
  | outputDir
  | framework
  | importPackage
  | indent
  | outcome
  | assertStatement
  | modulePrefix
  | functionPrefix
  | docstring
  | className
  deriving DecidableEq, Repr, Inhabited

/-- Options without a value. -/
inductive Switch where
  | besideSource
  | noClass
  | noSetUp
  | noTearDown
  | interactive
  | verbose
  | quiet
  | help
  deriving DecidableEq, Repr, Inhabited

/-- What an option does. -/
inductive Effect where
  /-- Takes a value; the help shows a name for it. -/
  | value (option : ValueOption) (name : String)
  /-- Takes none. -/
  | switch (switch : Switch)
  deriving DecidableEq, Repr

/-- A value that an option takes, with what it means. -/
structure PossibleValue where
  /-- The word. -/
  word : String
  /-- Its meaning, if it needs one. -/
  about : String := ""
  deriving Repr

/-- An option as a user knows it. -/
structure OptionSpec where
  /-- The letter after one dash. -/
  short? : Option Char := none
  /-- The word after two dashes. -/
  long : String
  /-- What it does. -/
  effect : Effect
  /-- What the help says. -/
  about : String
  /-- The values, if there are only some. -/
  possible : List PossibleValue := []
  deriving Repr

/-- The options, in the order of the help. -/
def optionTable : List OptionSpec :=
  [ { short? := some 'c', long := "config", effect := .value .config "FILE"
      about := "Configuration file (JSON or YAML)" },
    { long := "ignore-folder", effect := .value .ignoreFolder "NAME"
      about := "Folder name to ignore, in addition to the defaults. Can be specified multiple times" },
    { long := "ignore-pattern", effect := .value .ignorePattern "PATTERN"
      about := "Module path pattern to ignore. Can be specified multiple times" },
    { short? := some 'o', long := "output-dir", effect := .value .outputDir "DIR"
      about := "Directory name, relative to each module, receiving its tests" },
    { long := "beside-source", effect := .switch .besideSource
      about := "Write each test module beside its source module" },
    { short? := some 'f', long := "framework", effect := .value .framework "FRAMEWORK"
      about := "Test framework", possible := [⟨"unittest", ""⟩, ⟨"pytest", ""⟩] },
    { long := "import", effect := .value .importPackage "PKG"
      about := "Package to import in every test module. Can be specified multiple times" },
    { long := "indent", effect := .value .indent "N"
      about := "Indentation width in spaces" },
    { long := "outcome", effect := .value .outcome "OUTCOME"
      about := "Whether generated tests pass or fail", possible := [⟨"pass", ""⟩, ⟨"fail", ""⟩] },
    { long := "assert-statement", effect := .value .assertStatement "STMT"
      about := "Literal statement used as every test body (overrides --outcome)" },
    { long := "module-prefix", effect := .value .modulePrefix "PREFIX"
      about := "Test module file name prefix" },
    { long := "function-prefix", effect := .value .functionPrefix "PREFIX"
      about := "Test function name prefix" },
    { long := "docstring", effect := .value .docstring "DOCSTRING"
      about := "Docstring emitted in each test function"
      possible := [⟨"source", "Docstring text carried by the catalog"⟩,
        ⟨"empty", "An empty `\"\"\"\"\"\"` docstring"⟩, ⟨"none", ""⟩] },
    { long := "no-class", effect := .switch .noClass
      about := "Emit tests at module scope instead of inside a class" },
    { long := "class-name", effect := .value .className "NAME"
      about := "Name of the wrapping test class" },
    { long := "no-setup", effect := .switch .noSetUp
      about := "Omit the setUp method (unittest)" },
    { long := "no-teardown", effect := .switch .noTearDown
      about := "Omit the tearDown method (unittest)" },
    { short? := some 'i', long := "interactive", effect := .switch .interactive
      about := "Ask for paths and settings on the terminal" },
    { short? := some 'v', long := "verbose", effect := .switch .verbose
      about := "Increase verbosity (-v info, -vv debug, -vvv trace)" },
    { short? := some 'q', long := "quiet", effect := .switch .quiet
      about := "Suppress all output except errors" },
    { short? := some 'h', long := "help", effect := .switch .help
      about := "Print help" } ]

/-- The option of a word after two dashes. -/
def findLong? (word : String) : Option OptionSpec :=
  optionTable.find? fun o => o.long == word

/-- The option of a letter after one dash. -/
def findShort? (letter : Char) : Option OptionSpec :=
  optionTable.find? fun o => o.short? == some letter

/-! ## §2. Single options -/

/-- Why a command line is refused, or what it asks for instead of a run. -/
inductive UsageFault where
  /-- The help was asked for, the long one or the short one. -/
  | help (long : Bool)
  /-- No option is called so. -/
  | unknownArgument
  /-- No path was given. -/
  | missingPaths
  /-- A value is missing, empty, or none of the possible ones. -/
  | invalidValue
  /-- A value is no text. -/
  | notText
  /-- A value is no number in range. -/
  | outOfRange
  /-- Two options exclude each other, or one was given twice. -/
  | conflict
  /-- A value was given to an option without one. -/
  | unneededValue
  deriving DecidableEq, Repr

/-- The result of a step. -/
abbrev Parsed := Except UsageFault

/-- Fills a place that takes one value. -/
def fill (current : Option α) (value : Parsed α) : Parsed (Option α) :=
  if current.isSome then .error .conflict else value.map some

/-- A value that is not empty. -/
def nonEmpty (v : ByteString) : Parsed ByteString :=
  if v.isEmpty then .error .invalidValue else .ok v

/-- A value as a text. -/
def readable (v : ByteString) : Parsed String :=
  if v.isText then .ok v.text else .error .notText

/-- The framework of a word. -/
def frameworkOf : String → Parsed Framework
  | "unittest" => .ok .unittest
  | "pytest" => .ok .pytest
  | _ => .error .invalidValue

/-- The outcome of a word. -/
def outcomeOf : String → Parsed Outcome
  | "pass" => .ok .pass
  | "fail" => .ok .fail
  | _ => .error .invalidValue

/-- The docstring mode of a word. -/
def docstringOf : String → Parsed DocstringMode
  | "source" => .ok .source
  | "empty" => .ok .empty
  | "none" => .ok .none
  | _ => .error .invalidValue

/-- One more than the widest indentation. -/
def indentBound : Nat := Nat.pow 2 16

/-- A positive indentation. -/
def indentOf (v : String) : Parsed Nat :=
  match (Answer.decimal? indentBound v.toList).filter (0 < ·) with
  | some n => .ok n
  | none => .error .outOfRange

namespace Arguments

/-- Takes the value of an option. -/
def setValue (a : Arguments) (o : ValueOption) (v : ByteString) : Parsed Arguments :=
  match o with
  | .config => do return { a with config? := ← fill a.config? (nonEmpty v) }
  | .ignoreFolder => do return { a with ignoreFolders := a.ignoreFolders ++ [← readable v] }
  | .ignorePattern => do return { a with ignorePatterns := a.ignorePatterns ++ [← readable v] }
  | .outputDir => do return { a with outputDir? := ← fill a.outputDir? (readable v) }
  | .framework => do return { a with framework? := ← fill a.framework? (frameworkOf v.text) }
  | .importPackage => do return { a with imports := a.imports ++ [← readable v] }
  | .indent => do return { a with indent? := ← fill a.indent? (readable v >>= indentOf) }
  | .outcome => do return { a with outcome? := ← fill a.outcome? (outcomeOf v.text) }
  | .assertStatement => do
    return { a with assertStatement? := ← fill a.assertStatement? (readable v) }
  | .modulePrefix => do return { a with modulePrefix? := ← fill a.modulePrefix? (readable v) }
  | .functionPrefix => do
    return { a with functionPrefix? := ← fill a.functionPrefix? (readable v) }
  | .docstring => do return { a with docstring? := ← fill a.docstring? (docstringOf v.text) }
  | .className => do return { a with className? := ← fill a.className? (readable v) }

/-- The most requests for more output that are counted. -/
def maxVerbose : Nat := 255

/-- Takes an option without a value; `long` says how it was spelled. -/
def setSwitch (a : Arguments) (s : Switch) (long : Bool) : Parsed Arguments :=
  let once (current : Bool) (next : Arguments) : Parsed Arguments :=
    if current then .error .conflict else .ok next
  match s with
  | .besideSource => once a.besideSource { a with besideSource := true }
  | .noClass => once a.noClass { a with noClass := true }
  | .noSetUp => once a.noSetUp { a with noSetUp := true }
  | .noTearDown => once a.noTearDown { a with noTearDown := true }
  | .interactive => once a.interactive { a with interactive := true }
  | .verbose => .ok { a with verbose := min (a.verbose + 1) maxVerbose }
  | .quiet => once a.quiet { a with quiet := true }
  | .help => .error (.help long)

/-- Takes paths, none of which may be empty. -/
def addPaths (a : Arguments) (paths : List ByteString) : Parsed Arguments :=
  if paths.any ByteString.isEmpty then .error .invalidValue
  else .ok { a with paths := a.paths ++ paths }

end Arguments

/-! ## §3. Words -/

/-- What has been read but not yet looked at. -/
inductive Pending where
  /-- Nothing. -/
  | nothing
  /-- Paths in a row. -/
  | paths (values : List ByteString)
  /-- An option without its value so far. -/
  | option (o : ValueOption)
  /-- An option with its value. -/
  | valued (o : ValueOption) (value : ByteString)

/-- The state between two words. -/
structure Progress where
  /-- What has been taken. -/
  arguments : Arguments := {}
  /-- What is still to be looked at. -/
  pending : Pending := .nothing

namespace Progress

/-- Looks at what has been read. -/
def resolve (p : Progress) : Parsed Progress :=
  match p.pending with
  | .nothing => .ok p
  | .paths values => do return { arguments := ← p.arguments.addPaths values }
  | .option _ => .error .invalidValue
  | .valued o v => do return { arguments := ← p.arguments.setValue o v }

/-- Takes an option with its value. -/
def setValue (p : Progress) (o : ValueOption) (v : ByteString) : Parsed Progress := do
  let p ← p.resolve
  return { p with arguments := ← p.arguments.setValue o v }

/-- Takes an option without a value. -/
def setSwitch (p : Progress) (s : Switch) (long : Bool) : Parsed Progress := do
  let p ← p.resolve
  return { p with arguments := ← p.arguments.setSwitch s long }

/-- Takes an option whose value is still to come. -/
def await (p : Progress) (o : ValueOption) : Parsed Progress := do
  return { ← p.resolve with pending := .option o }

/-- Takes a path. -/
def addPath (p : Progress) (path : ByteString) : Parsed Progress :=
  match p.pending with
  | .paths values => .ok { p with pending := .paths (values ++ [path]) }
  | _ => do return { ← p.resolve with pending := .paths [path] }

/-- The byte before options. -/
def dash : UInt8 := 45

/-- The byte between an option and its value. -/
def equals : UInt8 := 61

/-- Takes a word after two dashes. -/
def takeLong (p : Progress) (body : List UInt8) : Parsed Progress :=
  let name := ByteString.ofList (body.takeWhile (· != equals))
  let attached? := match body.dropWhile (· != equals) with
    | _ :: v => some (ByteString.ofList v)
    | [] => none
  match findLong? name.text with
  | none => .error .unknownArgument
  | some o =>
    match o.effect, attached? with
    | .value v _, some value => p.setValue v value
    | .value v _, none => p.await v
    | .switch _, some _ => .error .unneededValue
    | .switch s, none => p.setSwitch s true

/-- Takes letters after one dash; the bytes after an option with a value are the value. -/
def takeShorts (p : Progress) : List UInt8 → Parsed Progress
  | [] => .ok p
  | b :: rest =>
    match findShort? (Char.ofNat b.toNat) with
    | none => .error .unknownArgument
    | some o =>
      match o.effect with
      | .switch s => do takeShorts (← p.setSwitch s false) rest
      | .value v _ =>
        match rest with
        | [] => p.await v
        | e :: value => p.setValue v (.ofList (if e = equals then value else rest))

/-- Takes all words; after `--` every word is a path. -/
def takeAll (p : Progress) : (onlyPaths : Bool) → List ByteString → Parsed Progress
  | _, [] => p.resolve
  | true, w :: ws => do takeAll (← p.addPath w) true ws
  | false, w :: ws =>
    if w = "--" then takeAll p true ws
    else if w.toList.take 2 = [dash, dash] then do
      takeAll (← p.takeLong (w.toList.drop 2)) false ws
    else if w.toList.head? = some dash ∧ w ≠ "-" then do
      takeAll (← p.takeShorts w.toList.tail) false ws
    else
      match p.pending with
      | .option o => takeAll { p with pending := .valued o w } false ws
      | _ => do takeAll (← p.addPath w) false ws

end Progress

namespace Arguments

/-- What has to hold of all arguments together. -/
def check (a : Arguments) : Parsed Arguments :=
  if a.outputDir?.isSome && a.besideSource then .error .conflict
  else if a.paths.isEmpty && !a.interactive then .error .missingPaths
  else .ok a

/-- The arguments of a command line. -/
def parse (words : List ByteString) : Parsed Arguments := do
  let p ← Progress.takeAll {} false words
  p.arguments.check

end Arguments

end TestScaffold.CommandLine
