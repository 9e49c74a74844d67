import JsonTypings.CodePoint.Space
import JsonTypings.CommandLine.Arguments

/-! What the command says about itself, on a terminal with some number of columns. -/
namespace JsonTypings.CommandLine

def programName : Text := Text.ofString "json2interface"

namespace Switch

/-- What stands for the value of an option. -/
def placeholder : Switch → Text
  | rootName => Text.ofString " ROOT_NAME"
  | output => Text.ofString " OUTPUT"
  | help | version => []

/-- The forms of an option, the short one first. -/
def forms (s : Switch) : List Text :=
  match s.letter? with
  | some c => ['-' :: c :: s.placeholder, s.longName ++ s.placeholder]
  | none => [s.longName ++ s.placeholder]

/-- What an option is for. -/
def purpose : Switch → String
  | help => "show this help message and exit"
  | rootName => "Name of the top level interface (default: RootObject)"
  | output => "Write the interfaces to this file instead of standard output"
  | version => "Show version and exit"

end Switch

namespace Help

def blanks (n : Nat) : Text := List.replicate n (CodePoint.ofChar ' ')

def joined (parts : List Text) : Text := List.intercalate (blanks 1) parts

/-- Fills lines with parts. The line that is begun holds some parts, and `used` columns of it are taken;
`indent` columns of each further line are. A part that fits nowhere has a line of its own. -/
def fill (width indent used : Nat) (line : List Text) : List Text → List Text
  | [] => if line.isEmpty then [] else [joined line]
  | part :: rest =>
    if line.isEmpty then fill width indent (used + part.length) [part] rest
    else if width < used + 1 + part.length then
      joined line :: fill width indent (indent + part.length) [part] rest
    else fill width indent (used + 1 + part.length) (line ++ [part]) rest

/-- The lines of some words. -/
def wrapped (width : Nat) (t : String) : List Text := fill width 0 0 [] (Text.words (Text.ofString t))

/-- The columns for text; the last two are left free. -/
def room (columns : Nat) : Nat := columns - 2

def usageHeading : Text := Text.ofString "usage: "

/-- The forms of the command. Where they are too long for one line, those of the options and that of the
file have lines of their own, behind the name of the command if that leaves a quarter of the line. -/
def usage (columns : Nat) : Text :=
  let width := room columns
  let options : List Text := Switch.all.map fun s =>
    Text.ofString "[" ++ s.forms.headD [] ++ Text.ofString "]"
  let file := [Text.ofString "[file]"]
  let whole := joined (programName :: options ++ file)
  let begun := usageHeading.length + programName.length
  let lines :=
    if usageHeading.length + whole.length ≤ width then [whole]
    else if 4 * begun ≤ 3 * width then
      let further := fill width (begun + 1) (begun + 1) [] file
      match fill width (begun + 1) usageHeading.length [] (programName :: options) ++ further with
      | [] => []
      | first :: rest => first :: rest.map (blanks (begun + 1) ++ ·)
    else
      let indent := usageHeading.length
      programName ::
        (fill width indent indent [] options ++ fill width indent indent [] file).map (blanks indent ++ ·)
  usageHeading ++ List.intercalate (Text.ofString "\n") lines ++ Text.ofString "\n"

/-- The column in which it is told what something is for. -/
def purposeColumn (columns : Nat) : Nat := min 24 (max (room columns - 20) 4)

/-- A line for something, with what it is for behind it or, if it is long, below. -/
def entry (columns : Nat) (title : Text) (purpose : String) : Text :=
  let column := purposeColumn columns
  let lines := wrapped (max (room columns - column) 11) purpose
  let margin := Text.ofString "\n" ++ blanks column
  let gap := if title.length + 4 ≤ column then blanks (column - 2 - title.length) else margin
  blanks 2 ++ title ++ gap ++ List.intercalate margin lines ++ Text.ofString "\n"

end Help

/-- The text that the help option asks for. -/
def helpText (columns : Nat) : Text :=
  Help.usage columns ++ Text.ofString "\n" ++
    List.intercalate (Text.ofString "\n")
      (Help.wrapped (max (Help.room columns) 11) "Generate TypeScript interfaces from a sample JSON document") ++
    Text.ofString "\n\npositional arguments:\n" ++
    Help.entry columns (Text.ofString "file") "JSON file to read (default: standard input)" ++
    Text.ofString "\noptions:\n" ++
    Switch.all.flatMap fun s =>
      Help.entry columns (List.intercalate (Text.ofString ", ") s.forms) s.purpose

/-- The usage, and what is wrong with the arguments. -/
def argumentReport (columns : Nat) (e : ArgumentError) : Text :=
  Help.usage columns ++ programName ++ Text.ofString ": error: " ++ e.message ++ Text.ofString "\n"

/-- The program and its version. -/
def versionLine : Text := programName ++ Text.ofString " version 0.1.0"

end JsonTypings.CommandLine
