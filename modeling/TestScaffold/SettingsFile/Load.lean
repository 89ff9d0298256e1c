/-
  TestScaffold.SettingsFile.Load — settings from a file.

  The extension chooses the format.  A blank file holds no settings of its own.
-/
import TestScaffold.SettingsFile.Json
import TestScaffold.SettingsFile.Yaml
import TestScaffold.FileSystem.Access

namespace TestScaffold.SettingsFile

/-- The formats of settings files. -/
inductive Format where
  /-- JSON. -/
  | json
  /-- YAML. -/
  | yaml
  deriving DecidableEq, Repr, Inhabited

/-- The format of an extension. -/
def Format.ofExtension? : String → Option Format
  | "json" => some .json
  | "yaml" | "yml" => some .yaml
  | _ => none

/-- The settings of a text, as written. -/
def Format.read (f : Format) (text : String) : Except Trouble Settings :=
  if Text.isBlankText text then .ok {}
  else
    match f with
    | .json => Json.readSettings text
    | .yaml => Yaml.readSettings text

/-- The extension of a path; empty if there is none that is a text. -/
def extensionText (path : ByteString) : String :=
  match Path.extension? path with
  | some extension => if extension.isText then extension.text else ""
  | none => ""

/-- The settings of a file, as written. -/
def readFile (fs : FileSystem) (path : ByteString) : Except Failure Settings :=
  match fs.readText path with
  | .error fault => .error (.settingsRead path fault.message)
  | .ok text =>
    match Format.ofExtension? (extensionText path) with
    | none => .error (.unsupportedFormat (extensionText path))
    | some format =>
      match format.read text with
      | .ok s => .ok s
      | .error trouble => .error (.settingsParse path trouble.detail?)

/-- The settings of a file in normal form, with the remarks on it. -/
def load (fs : FileSystem) (path : ByteString) : Except Failure (Settings × List Notice) :=
  (readFile fs path).map Settings.normalized

/-- The settings of a file, or the built-in ones if none is given. -/
def loadOrDefault (fs : FileSystem) : Option ByteString → Except Failure (Settings × List Notice)
  | some path => load fs path
  | none => .ok ({}, [])

end TestScaffold.SettingsFile
