import JsonTypings.CommandLine.Help
import JsonTypings.Encoding.TextFile
import JsonTypings.Files.Store
import JsonTypings.Markup.Message

/-! What the command does: it reads a document, and prints its interfaces or writes them to a file. -/
namespace JsonTypings.CommandLine

open Files

/-- What standard input gives. -/
inductive Input where
  | bytes (b : Encoding.Bytes)
  | interrupted

/-- What the command works on. -/
structure Desk where
  store : Store
  input : Input

/-- Shows a message, or refuses it. -/
abbrev Console : Type := Text → Except Markup.MarkupError Text

/-- What the command runs on: a terminal, which has some columns and shows messages, a way to read
arguments, and whether standard input is read with line ends of any kind, as files are. -/
structure Host where
  columns : Nat
  console : Console
  dialect : Dialect
  translatesInput : Bool

/-- A host on whose terminal most messages have room, and which reads all texts alike. -/
def Host.wide : Host := ⟨1000, Markup.render 1000, .older, true⟩

/-- Why no interfaces come out. -/
inductive Problem where
  | file (e : FileError)
  | undecodable (e : Encoding.DecodeError)
  | unreadable (e : Json.ReadError)
  | unencodable (e : Encoding.EncodeError)
  | interrupted

/-- An error that the command does not report but passes on to its caller. -/
inductive Escape where
  | nullByte
  | unencodable (e : Encoding.EncodeError)
  | tooManyDigits (digits : Nat)
  | markup (e : Markup.MarkupError)

def Escape.message : Escape → Text
  | .nullByte => FileError.nullByte.message
  | .unencodable e => e.message
  | .tooManyDigits digits => (Json.ReadError.tooManyDigits digits).message
  | .markup e => e.message

/-- How a run ended, what it showed, and the files it left. -/
structure Outcome where
  ending : Except Escape Nat
  out : Text
  err : Text
  store : Store

/-- A message for the user, with the exit code that goes with it. -/
structure Notice where
  code : Nat
  markup : Text

/-- A message in bold type of some colour. -/
def bold (colour : String) (t : Text) : Text :=
  Text.ofString "[bold " ++ Text.ofString colour ++ Text.ofString "]" ++ t ++
    Text.ofString "[/bold " ++ Text.ofString colour ++ Text.ofString "]"

/-- What the user is told of a problem. A name that is no file name, a text that cannot be encoded,
and an integer of too many digits are not reported. -/
def Problem.notice : Problem → Except Escape Notice
  | .file (.refused f p) =>
    .ok ⟨1, bold "red" (Text.ofString "Error: " ++ (FileError.refused f p).message)⟩
  | .file .nullByte => .error .nullByte
  | .file (.unencodable e) => .error (.unencodable e)
  | .undecodable e => .ok ⟨1, bold "red" (Text.ofString "Error: " ++ e.message)⟩
  | .unreadable (.malformed f p) =>
    .ok ⟨1, bold "red" (Text.ofString "Invalid JSON: " ++ (Json.ReadError.malformed f p).message)⟩
  | .unreadable (.tooManyDigits digits) => .error (.tooManyDigits digits)
  | .unencodable e => .error (.unencodable e)
  | .interrupted => .ok ⟨130, Text.ofString "\n[yellow]Interrupted.[/yellow]"⟩

/-- The text of a document. Line ends stay as they are only in standard input. -/
def Host.decode (host : Host) (file : Text) (bytes : Encoding.Bytes) :
    Except Encoding.DecodeError Text :=
  if file ≠ standardInput || host.translatesInput then Encoding.decodeTextFile bytes
  else Encoding.Utf8.decode bytes

/-- The interfaces of the document that the settings name. -/
def Settings.interfacesOf (settings : Settings) (host : Host) (bytes : Encoding.Bytes) :
    Except Problem Text :=
  match host.decode settings.file bytes with
  | .error e => .error (.undecodable e)
  | .ok t =>
    match Json.read t with
    | .error e => .error (.unreadable e)
    | .ok document => .ok (describe settings.rootName document)

/-- The bytes of the document that the settings name. -/
def Desk.document (desk : Desk) (file : Text) : Except Problem Encoding.Bytes :=
  if file = standardInput then
    match desk.input with
    | .bytes b => .ok b
    | .interrupted => .error .interrupted
  else (desk.store.read (.ofText file)).mapError .file

/-- Shows a message, if there is one, and ends. -/
def Console.conclude (console : Console) (store : Store) (notice : Except Escape Notice) : Outcome :=
  match notice with
  | .error e => ⟨.error e, [], [], store⟩
  | .ok n =>
    match console n.markup with
    | .error e => ⟨.error (.markup e), [], [], store⟩
    | .ok t => ⟨.ok n.code, [], t, store⟩

/-- Writes interfaces and a line feed to a file. The file is there, and empty, before the text is
encoded. -/
def Console.writeInterfaces (console : Console) (store : Store) (output interfaces : Text) : Outcome :=
  let path := Path.ofText output
  match store.write path [] with
  | .error e => console.conclude store (Problem.file e).notice
  | .ok opened =>
    match Encoding.Utf8.encode (interfaces ++ Text.ofString "\n") with
    | .error e => console.conclude opened (Problem.unencodable e).notice
    | .ok bytes =>
      match store.write path bytes with
      | .error e => console.conclude opened (Problem.file e).notice
      | .ok written =>
        console.conclude written
          (.ok ⟨0, bold "green" (Text.ofString "Wrote interfaces to " ++ output)⟩)

/-- Prints interfaces and a line feed. -/
def Console.printInterfaces (console : Console) (store : Store) (interfaces : Text) : Outcome :=
  match Encoding.Utf8.encode interfaces with
  | .error e => console.conclude store (Problem.unencodable e).notice
  | .ok _ => ⟨.ok 0, interfaces ++ Text.ofString "\n", [], store⟩

/-- Runs the command with given settings. An output of no name counts as none. -/
def Settings.run (settings : Settings) (desk : Desk) (host : Host) : Outcome :=
  if settings.version then host.console.conclude desk.store (.ok ⟨0, versionLine⟩)
  else
    match (desk.document settings.file).bind (settings.interfacesOf host) with
    | .error p => host.console.conclude desk.store p.notice
    | .ok interfaces =>
      match settings.output with
      | none | some [] => host.console.printInterfaces desk.store interfaces
      | some (c :: output) => host.console.writeInterfaces desk.store (c :: output) interfaces

/-- The outcome with messages that can be encoded. -/
def Outcome.withPlainMessages (o : Outcome) : Outcome := { o with err := Text.escapeSurrogates o.err }

/-- Runs the command with given arguments. -/
def Host.run (host : Host) (arguments : List Text) (desk : Desk) : Outcome :=
  match Settings.ofArguments host.dialect arguments with
  | .error .help => ⟨.ok 0, helpText host.columns, [], desk.store⟩
  | .error (.error e) =>
    Outcome.withPlainMessages ⟨.ok 2, [], argumentReport host.columns e, desk.store⟩
  | .ok settings => (settings.run desk host).withPlainMessages

/-- Runs the command where messages have room. -/
def run (arguments : List Text) (desk : Desk) : Outcome := Host.wide.run arguments desk

end JsonTypings.CommandLine
