/-
  TestScaffold.CommandLine.Help — the help texts.

  Both are made from the table of options: a summary with one line for every option,
  and the full text with a paragraph for each.
-/
import TestScaffold.CommandLine.Arguments

namespace TestScaffold.CommandLine

/-- How an option is spelled, with the name of its value. -/
def OptionSpec.usage (o : OptionSpec) : String :=
  (match o.short? with
    | some c => "  -" ++ c.toString ++ ", --"
    | none => "      --")
    ++ o.long
    ++ (match o.effect with
        | .value _ name => " <" ++ name ++ ">"
        | .switch .verbose => "..."
        | .switch _ => "")

/-- What the program is for. -/
def purpose : String := "Generate skeleton unittest/pytest modules for Python source"

/-- How it is called. -/
def usageLine : String := "Usage: pystub [OPTIONS] [PATHS]..."

/-- The paths, as an argument. -/
def pathsUsage : String := "  [PATHS]..."

/-- What the paths are. -/
def pathsAbout : String := "Python files or directories to scaffold tests for"

/-- A text with spaces up to a width. -/
def padTo (width : Nat) (s : String) : String :=
  s ++ String.ofList (List.replicate (width - s.length) ' ')

/-- The possible values in one line. -/
def possibleLine (values : List PossibleValue) : String :=
  "[possible values: " ++ String.intercalate ", " (values.map PossibleValue.word) ++ "]"

/-- The help text of an option; the one of the help itself names the other form. -/
def OptionSpec.aboutIn (o : OptionSpec) (long : Bool) : String :=
  match o.effect with
  | .switch .help => o.about ++ (if long then " (see a summary with '-h')" else " (see more with '--help')")
  | _ => o.about

/-- The summary of an option; `width` is that of the widest spelling. -/
def OptionSpec.summary (width : Nat) (o : OptionSpec) : String :=
  padTo width o.usage ++ "  " ++ o.aboutIn false
    ++ (if o.possible.isEmpty then "" else " " ++ possibleLine o.possible) ++ "\n"

/-- The indentation of paragraphs. -/
def paragraphIndent : String := "          "

/-- One possible value with its meaning. -/
def PossibleValue.line (width : Nat) (v : PossibleValue) : String :=
  paragraphIndent ++ "- " ++ (if v.about.isEmpty then v.word else padTo width (v.word ++ ":") ++ " " ++ v.about)
    ++ "\n"

/-- The possible values below a paragraph: a list if one has a meaning of its own. -/
def possibleParagraph (values : List PossibleValue) : String :=
  if values.isEmpty then ""
  else if values.all fun v => v.about.isEmpty then
    paragraphIndent ++ "\n" ++ paragraphIndent ++ possibleLine values ++ "\n"
  else
    let width := (values.map fun v => v.word.length + 1).foldl max 0
    "\n" ++ paragraphIndent ++ "Possible values:\n" ++ String.join (values.map (PossibleValue.line width))

/-- The paragraph of an option. -/
def OptionSpec.paragraph (o : OptionSpec) : String :=
  o.usage ++ "\n" ++ paragraphIndent ++ o.aboutIn true ++ "\n" ++ possibleParagraph o.possible

/-- What both texts begin with. -/
def helpHead : String := purpose ++ "\n\n" ++ usageLine ++ "\n\nArguments:\n"

/-- The summary of the options. -/
def shortHelp : String :=
  let width := (optionTable.map fun o => o.usage.length).foldl max 0
  helpHead ++ pathsUsage ++ "  " ++ pathsAbout ++ "\n\nOptions:\n"
    ++ String.join (optionTable.map (OptionSpec.summary width))

/-- The full text. -/
def longHelp : String :=
  helpHead ++ pathsUsage ++ "\n" ++ paragraphIndent ++ pathsAbout ++ "\n\nOptions:\n"
    ++ String.intercalate "\n" (optionTable.map OptionSpec.paragraph)

end TestScaffold.CommandLine
