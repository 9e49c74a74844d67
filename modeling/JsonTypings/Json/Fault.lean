import JsonTypings.CodePoint

/-! What can be wrong with a JSON text, where, and how it is said. -/
namespace JsonTypings.Json

/-- The ways in which a text fails to be JSON. -/
inductive Fault where
  | byteOrderMark
  | expectingValue
  | expectingKey
  | expectingColon
  | expectingComma
  | unterminatedString
  | controlCharacter
  | unknownEscape
  | unicodeEscape
  | extraData
  deriving DecidableEq

def Fault.wording : Fault → Text
  | .byteOrderMark => Text.ofString "Unexpected UTF-8 BOM (decode using utf-8-sig)"
  | .expectingValue => Text.ofString "Expecting value"
  | .expectingKey => Text.ofString "Expecting property name enclosed in double quotes"
  | .expectingColon => Text.ofString "Expecting ':' delimiter"
  | .expectingComma => Text.ofString "Expecting ',' delimiter"
  | .unterminatedString => Text.ofString "Unterminated string starting at"
  | .controlCharacter => Text.ofString "Invalid control character at"
  | .unknownEscape => Text.ofString "Invalid \\escape"
  | .unicodeEscape => Text.ofString "Invalid \\uXXXX escape"
  | .extraData => Text.ofString "Extra data"

/-- A place in a text: an offset counted from zero, a line and a column counted from one. -/
structure Position where
  offset : Nat
  line : Nat
  column : Nat
  deriving DecidableEq

namespace Position

def start : Position := ⟨0, 1, 1⟩

/-- The place after one more code point; a line feed starts the next line. -/
def advance (p : Position) (c : CodePoint) : Position :=
  if c = '\n' then ⟨p.offset + 1, p.line + 1, 1⟩ else ⟨p.offset + 1, p.line, p.column + 1⟩

/-- The place of an offset in a text. -/
def locate (text : Text) (offset : Nat) : Position := (text.take offset).foldl advance start

theorem foldl_advance_offset (p : Position) (text : Text) :
    (text.foldl advance p).offset = p.offset + text.length := by
  induction text generalizing p with
  | nil => rfl
  | cons c rest ih =>
    have : (p.advance c).offset = p.offset + 1 := by unfold advance; split <;> rfl
    simp [ih, this]; omega

@[simp] theorem locate_offset (text : Text) (offset : Nat) (h : offset ≤ text.length) :
    (locate text offset).offset = offset := by
  simp [locate, foldl_advance_offset, start, Nat.min_eq_left h]

def describe (p : Position) : Text :=
  Text.ofString "line " ++ Text.ofNat p.line ++ Text.ofString " column " ++ Text.ofNat p.column ++
    Text.ofString " (char " ++ Text.ofNat p.offset ++ Text.ofString ")"

end Position

/-- The longest integer that is read, in digits. -/
def digitLimit : Nat := 4300

/-- The refusal of a longer integer. -/
def digitLimitMessage (digits : Nat) : Text :=
  Text.ofString "Exceeds the limit (" ++ Text.ofNat digitLimit ++
    Text.ofString " digits) for integer string conversion: value has " ++ Text.ofNat digits ++
    Text.ofString " digits; use sys.set_int_max_str_digits() to increase the limit"

/-- Why a text was refused: it is malformed at a place, or holds an integer that is too long. -/
inductive ReadError where
  | malformed (fault : Fault) (position : Position)
  | tooManyDigits (digits : Nat)
  deriving DecidableEq

def ReadError.message : ReadError → Text
  | .malformed fault p => fault.wording ++ Text.ofString ": " ++ p.describe
  | .tooManyDigits digits => digitLimitMessage digits

end JsonTypings.Json
