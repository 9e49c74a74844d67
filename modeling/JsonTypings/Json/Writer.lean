import JsonTypings.Decimal.Layout
import JsonTypings.Value

/-! Writing JSON in ASCII, either on one line or with every item on a line of its own. -/
namespace JsonTypings.Json

/-- `\u` and four lower case hexadecimal digits. -/
def unicodeEscape (unit : CodePoint) : Text := '\\' :: 'u' :: Text.hex 4 unit.val

/-- A code point between quotes: printable ASCII stands for itself; quotes, backslashes, controls and
all else are escaped, the common ones with a letter, and a code point beyond U+FFFF as its two halves. -/
def escape (c : CodePoint) : Text :=
  if c = '"' then ['\\', '"']
  else if c = '\\' then ['\\', '\\']
  else if c = '\n' then ['\\', 'n']
  else if c = '\r' then ['\\', 'r']
  else if c = '\t' then ['\\', 't']
  else if c = '\x08' then ['\\', 'b']
  else if c = '\x0c' then ['\\', 'f']
  else if 0x20 ≤ c.val && c.val < 0x7F then [c]
  else if c.val < 0x10000 then unicodeEscape c
  else unicodeEscape c.splitSurrogates.1 ++ unicodeEscape c.splitSurrogates.2

def quote (t : Text) : Text := Text.ofString "\"" ++ t.flatMap escape ++ Text.ofString "\""

def floatNames : Decimal.SpecialNames := ⟨Text.ofString "NaN", Text.ofString "Infinity"⟩

/-- Where line breaks go: nowhere, or before each item with `step` blanks per level. -/
inductive Layout where
  | line
  | indented (step : Nat)

namespace Layout

/-- What stands before the first item of a container inside `depth` others. -/
def opening (l : Layout) (depth : Nat) : Text :=
  match l with
  | line => []
  | indented step => '\n' :: List.replicate (step * (depth + 1)) ' '

/-- What stands between two items. -/
def separator (l : Layout) (depth : Nat) : Text :=
  match l with
  | line => [',', ' ']
  | indented _ => ',' :: l.opening depth

/-- What stands behind the last item. -/
def closing (l : Layout) (depth : Nat) : Text :=
  match l with
  | line => []
  | indented step => '\n' :: List.replicate (step * depth) ' '

end Layout

mutual

/-- The text of a value that stands inside `depth` containers; empty containers stay closed. -/
def writeAt (l : Layout) (depth : Nat) : Value → Text
  | .null => Text.ofString "null"
  | .bool true => Text.ofString "true"
  | .bool false => Text.ofString "false"
  | .int n => Text.ofInt n
  | .float x => Decimal.textOfFloat floatNames x
  | .string t => quote t
  | .array [] => Text.ofString "[]"
  | .array (v :: rest) =>
    Text.ofString "[" ++ l.opening depth ++ writeAt l (depth + 1) v ++ writeItems l depth rest ++
      l.closing depth ++ Text.ofString "]"
  | .object [] => Text.ofString "\x7b\x7d"
  | .object ((key, v) :: rest) =>
    Text.ofString "\x7b" ++ l.opening depth ++ quote key ++ Text.ofString ": " ++
      writeAt l (depth + 1) v ++ writeMembers l depth rest ++ l.closing depth ++
      Text.ofString "\x7d"

/-- The items behind the first one, each with its separator. -/
def writeItems (l : Layout) (depth : Nat) : List Value → Text
  | [] => []
  | v :: rest => l.separator depth ++ writeAt l (depth + 1) v ++ writeItems l depth rest

/-- The members behind the first one, each with its separator. -/
def writeMembers (l : Layout) (depth : Nat) : List (Text × Value) → Text
  | [] => []
  | (key, v) :: rest =>
    l.separator depth ++ quote key ++ Text.ofString ": " ++ writeAt l (depth + 1) v ++
      writeMembers l depth rest

end

/-- The text of a value on one line. -/
def write (v : Value) : Text := writeAt .line 0 v

/-- The text of a value with two blanks of indentation per level. -/
def writeIndented (v : Value) : Text := writeAt (.indented 2) 0 v

end JsonTypings.Json
