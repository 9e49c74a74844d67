import JsonTypings.CodePoint.Numeric
import JsonTypings.Quoted
import JsonTypings.Typing.Document

/-! The arguments of the command: a file, and options in short and long form. -/
namespace JsonTypings.CommandLine

/-- The options, in the order of the help. -/
inductive Switch where
  | help | rootName | output | version
  deriving DecidableEq

namespace Switch

def letter? : Switch → Option CodePoint
  | help => some 'h'
  | rootName => some 'r'
  | output => some 'o'
  | version => none

def longName : Switch → Text
  | help => Text.ofString "--help"
  | rootName => Text.ofString "--root-name"
  | output => Text.ofString "--output"
  | version => Text.ofString "--version"

def all : List Switch := [help, rootName, output, version]

def takesValue : Switch → Bool
  | rootName | output => true
  | help | version => false

/-- The name of an option in messages: its forms, joined with a slash. -/
def title (s : Switch) : Text :=
  match s.letter? with
  | some c => '-' :: c :: '/' :: s.longName
  | none => s.longName

def ofLetter? (c : CodePoint) : Option Switch := all.find? fun s => s.letter? = some c

end Switch

inductive ArgumentError where
  | expectedValue (s : Switch)
  | ignoredValue (s : Switch) (value : Text)
  | ambiguous (argument : Text) (candidates : List Switch)
  | unrecognized (arguments : List Text)
  deriving DecidableEq

namespace ArgumentError

def message : ArgumentError → Text
  | expectedValue s =>
    Text.ofString "argument " ++ s.title ++ Text.ofString ": expected one argument"
  | ignoredValue s value =>
    Text.ofString "argument " ++ s.title ++ Text.ofString ": ignored explicit argument " ++
      Text.quoted value
  | ambiguous argument candidates =>
    Text.ofString "ambiguous option: " ++ argument ++ Text.ofString " could match " ++
      List.intercalate (Text.ofString ", ") (candidates.map Switch.longName)
  | unrecognized arguments =>
    Text.ofString "unrecognized arguments: " ++ List.intercalate (Text.ofString " ") arguments

end ArgumentError

/-- The readings of arguments that are in use, as older and newer releases of the argument parser have
them. The older one removes a value that is two hyphens and written together with its option; the newer one
keeps every value. The older one also gives up over a letter behind the help option that it does not
know, where the newer one gives the help, and it looks for letters behind an equals sign too. -/
inductive Dialect where
  | older | newer
  deriving DecidableEq

/-- What an argument before the first `--` is taken for. -/
inductive Token where
  | positional
  /-- An option in its long form, with the value that was written together with it. -/
  | long (s : Switch) (value : Option Text)
  /-- An option in its short form, with what was written together with it; an equals sign between
  the two is not part of that, but is told of. -/
  | short (s : Switch) (isSeparated : Bool) (value : Option Text)
  | unknown
  deriving DecidableEq

namespace Token

/-- Digits of any script. -/
def areDigits (t : Text) : Bool := t.all fun c => c.decimalDigit?.isSome

/-- Whether an argument that starts with a hyphen reads as a negative number, with or without a
fraction; a line feed may follow. -/
def isNegativeNumber (t : Text) : Bool :=
  let body := t.tail
  let body := if body.getLast? = some (CodePoint.ofChar '\n') then body.dropLast else body
  let whole := body.takeWhile (· ≠ CodePoint.ofChar '.')
  match body.dropWhile (· ≠ CodePoint.ofChar '.') with
  | [] => !whole.isEmpty && areDigits whole
  | _ :: fraction => areDigits whole && !fraction.isEmpty && areDigits fraction

/-- The parts of an argument before and after its first equals sign. -/
def splitValue (t : Text) : Text × Option Text :=
  match t.dropWhile (· ≠ CodePoint.ofChar '=') with
  | [] => (t, none)
  | _ :: value => (t.takeWhile (· ≠ CodePoint.ofChar '='), some value)

/-- An argument that starts with a hyphen but names no option: a negative number, or a phrase with a
blank, counts as positional. -/
def ofOther (t : Text) : Token :=
  if isNegativeNumber t || t.any (· = CodePoint.ofChar ' ') then positional else unknown

/-- What an argument is taken for. Long options may be cut off as long as one option is meant. -/
def ofArgument (t : Text) : Except ArgumentError Token :=
  match t with
  | first :: second :: rest =>
    if first ≠ '-' then .ok positional
    else if second = '-' then
      let (name, value) := splitValue t
      match Switch.all.filter fun s => s.longName = t || s.longName = name with
      | s :: _ => .ok (long s value)
      | [] =>
        match Switch.all.filter fun s => name.isPrefixOf s.longName with
        | [] => .ok (ofOther t)
        | [s] => .ok (long s value)
        | candidates => .error (.ambiguous t candidates)
    else
      match Switch.ofLetter? second, rest with
      | none, _ => .ok (ofOther t)
      | some s, [] => .ok (short s false none)
      | some s, c :: value =>
        if c = '=' then .ok (short s true (some value)) else .ok (short s false (some rest))
  | _ => .ok positional

end Token

/-- What the arguments ask for. -/
structure Settings where
  file : Text
  rootName : Text
  output : Option Text
  version : Bool
  deriving DecidableEq

/-- The file name that stands for standard input. -/
def standardInput : Text := Text.ofString "-"

/-- Why the arguments do not lead to settings. -/
inductive Early where
  | help
  | error (e : ArgumentError)
  deriving DecidableEq

/-- The settings read so far: the file, if one was given, and what could not be used. -/
structure Reading where
  file : Option Text
  settings : Settings
  extras : List Text

namespace Reading

def start : Reading := ⟨none, ⟨standardInput, defaultRootName, none, false⟩, []⟩

def addExtras (r : Reading) (ts : List Text) : Reading := { r with extras := r.extras ++ ts }

/-- Gives an option its value; the last one counts. Where two hyphens are no value, the name is that of
an empty list, and there is no output. -/
def setValue (dialect : Dialect) (r : Reading) (s : Switch) (value : Text) : Reading :=
  let isNone := dialect = .older && value = Text.ofString "--"
  match s with
  | .rootName =>
    let rootName := if isNone then Text.ofString "[]" else value
    { r with settings := { r.settings with rootName } }
  | .output => { r with settings := { r.settings with output := if isNone then none else some value } }
  | .help | .version => r

/-- A word in front of an option: the file, or one too many. -/
def addWord (r : Reading) (t : Text) : Reading :=
  match r.file with
  | none => { r with file := some t }
  | some _ => r.addExtras [t]

/-- The words behind the last option, and those behind `--`. A `--` directly before or after the
word that becomes the file is dropped, any other one is left over. -/
def finish (r : Reading) (words : List Text) (afterDashes : Option (List Text)) : Reading :=
  let dashes := (afterDashes.map fun ts => Text.ofString "--" :: ts).getD []
  match r.file, words, afterDashes with
  | some _, _, _ => r.addExtras (words ++ dashes)
  | none, [], some (t :: ts) => { r with file := some t }.addExtras ts
  | none, [], _ => r
  | none, [t], some ts => { r with file := some t }.addExtras ts
  | none, t :: ts, _ => { r with file := some t }.addExtras (ts ++ dashes)

end Reading

/-- What is written together with the short form of the help option is read as more options in short
form, before the help is given. `nextWord?` tells whether a value could follow, and `isSeparated` whether
an equals sign stood in front. -/
def cluster (dialect : Dialect) (nextWord? isSeparated : Bool) : Text → Early
  | [] => .error (.ignoredValue .help [])
  | c :: rest =>
    if dialect = .newer && (isSeparated || c = '-') then .error (.ignoredValue .help (c :: rest))
    else
      match Switch.ofLetter? c, rest with
      | none, _ => if dialect = .newer then .help else .error (.ignoredValue .help (c :: rest))
      | some .help, [] => .help
      | some .help, d :: more =>
        if dialect = .newer && d = '=' then cluster dialect nextWord? true more
        else cluster dialect nextWord? false (d :: more)
      | some s, [] => if nextWord? then .help else .error (.expectedValue s)
      | some _, _ :: _ => .help

/-- Reads options and the words between them. -/
def readTokens (dialect : Dialect) (afterDashes : Option (List Text)) (r : Reading) :
    List (Text × Token) → Except Early Reading
  | [] => .ok (r.finish [] afterDashes)
  | (t, token) :: rest =>
    let isWord : Text × Token → Bool := fun a => a.2 = .positional
    let nextWord? := rest.head?.any isWord
    match token with
    | .positional =>
      if rest.all isWord then .ok (r.finish (t :: rest.map Prod.fst) afterDashes)
      else readTokens dialect afterDashes (r.addWord t) rest
    | .unknown => readTokens dialect afterDashes (r.addExtras [t]) rest
    | .long s (some value) =>
      if s.takesValue then readTokens dialect afterDashes (r.setValue dialect s value) rest
      else .error (.error (.ignoredValue s value))
    | .short s isSeparated (some value) =>
      if s.takesValue then readTokens dialect afterDashes (r.setValue dialect s value) rest
      else .error (cluster dialect nextWord? isSeparated value)
    | .long s none | .short s _ none =>
      match s with
      | .help => .error .help
      | .version =>
        readTokens dialect afterDashes { r with settings := { r.settings with version := true } } rest
      | .rootName | .output =>
        match rest with
        | (value, .positional) :: rest =>
          readTokens dialect afterDashes (r.setValue dialect s value) rest
        | _ => .error (.error (.expectedValue s))

/-- The arguments before the first `--`, and those behind it. -/
def splitAtDashes : List Text → List Text × Option (List Text)
  | [] => ([], none)
  | t :: rest =>
    if t = Text.ofString "--" then ([], some rest)
    else
      let (before, after) := splitAtDashes rest
      (t :: before, after)

/-- The settings that the arguments ask for. -/
def Settings.ofArguments (dialect : Dialect) (arguments : List Text) : Except Early Settings :=
  let (before, after) := splitAtDashes arguments
  match before.mapM fun t => (Token.ofArgument t).map fun token => (t, token) with
  | .error e => .error (.error e)
  | .ok tokens =>
    match readTokens dialect after .start tokens with
    | .error e => .error e
    | .ok r =>
      if r.extras.isEmpty then .ok { r.settings with file := r.file.getD standardInput }
      else .error (.error (.unrecognized r.extras))

end JsonTypings.CommandLine
