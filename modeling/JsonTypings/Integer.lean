import JsonTypings.CodePoint.Numeric
import JsonTypings.CodePoint.Space
import JsonTypings.Json.Fault
import JsonTypings.Quoted

/-! Integers in the notation of people: blanks around them, a sign, decimal digits of any script, and
single underscores between digits. -/
namespace JsonTypings.Integer

inductive IntegerError where
  | malformed (t : Text)
  | tooManyDigits (digits : Nat)
  deriving DecidableEq

/-- The length to which a quoted text is cut off in a message. -/
def quoteLimit : Nat := 200

def IntegerError.message : IntegerError → Text
  | .malformed t =>
    Text.ofString "invalid literal for int() with base 10: " ++ (Text.quoted t).take quoteLimit
  | .tooManyDigits digits => Json.digitLimitMessage digits

/-- Whether underscores stand between digits only. -/
def hasSingleUnderscores : Text → Bool
  | [] => true
  | [c] => c ≠ '_'
  | c :: d :: rest => !(c = '_' && d = '_') && hasSingleUnderscores (d :: rest)

def isNumeral (c : CodePoint) : Bool := c = '_' || c.decimalDigit?.isSome

/-- The integer that a text without leading blanks and sign stands for. Too many digits are refused
before what follows them is looked at. -/
def readUnsigned (t : Text) : Except (Option Nat) Nat :=
  let run := t.takeWhile isNumeral
  let digits := run.filterMap CodePoint.decimalDigit?
  if run.head? = some (CodePoint.ofChar '_') || digits.isEmpty || !hasSingleUnderscores run then .error none
  else if Json.digitLimit < digits.length then .error (some digits.length)
  else if (t.drop run.length).all CodePoint.isBlank then .ok (digits.foldl (fun n d => n * 10 + d) 0)
  else .error none

/-- The integer that a text stands for. -/
def read (t : Text) : Except IntegerError Int :=
  let body := t.dropWhile CodePoint.isBlank
  let (negative, unsigned) : Bool × Text :=
    match body with
    | [] => (false, [])
    | c :: rest => if c = '-' then (true, rest) else if c = '+' then (false, rest) else (false, body)
  match readUnsigned unsigned with
  | .ok n => .ok (if negative then -(n : Int) else n)
  | .error (some digits) => .error (.tooManyDigits digits)
  | .error none => .error (.malformed t)

end JsonTypings.Integer
