import JsonTypings.Literal.Token

/-! The extent of numbers in expressions: integers in four notations, fractions, exponents, and the
letter that makes a number imaginary. -/
namespace JsonTypings.Literal.Numeral

def isDigit (c : CodePoint) : Bool := c.digit?.isSome

/-- What names go on with, as far as it is told without a table. -/
def isNamePoint (c : CodePoint) : Bool :=
  c = '_' || isDigit c || c.isWithin [(0x41, 0x5A), (0x61, 0x7A)] || 0x80 ≤ c.val

/-- Whether the first code point of a text is as asked. -/
def startsWith (test : CodePoint → Bool) (t : Text) : Bool := t.head?.any test

/-- Words that may follow a number directly. -/
def followers : List Text := ["and", "else", "for", "or", "not"].map Text.ofString

/-- Words that may do so even as the beginning of a longer one. -/
def shortFollowers : List Text := ["if", "in", "is"].map Text.ofString

/-- What follows a number is no name, unless it is one of a few words or begins beyond ASCII. -/
def checkEnd (kind : NumberKind) (rest : Text) : Except LexicalError Text :=
  if startsWith (fun c => isNamePoint c && c.val < 0x80) rest && !followers.contains (rest.takeWhile isNamePoint) &&
      !shortFollowers.any (·.isPrefixOf rest) then
    .error (.number kind)
  else .ok rest

/-- Drops digits with single underscores between them. -/
def dropDigits : Text → Except LexicalError Text
  | [] => .ok []
  | c :: rest =>
    if isDigit c then dropDigits rest
    else if c ≠ '_' then .ok (c :: rest)
    else if startsWith isDigit rest then dropDigits rest
    else .error (.number .decimal)

def isLetter (small : Char) (c : CodePoint) : Bool := c = small || c = small.toUpper

/-- Behind the digits and the exponent. -/
def finish (rest : Text) : Except LexicalError Text :=
  if startsWith (isLetter 'j') rest then checkEnd .imaginary (rest.drop 1) else checkEnd .decimal rest

/-- From where an exponent may be. A letter that no digits follow is none. -/
def finishExponent (rest : Text) : Except LexicalError Text :=
  if startsWith (isLetter 'e') rest then
    let power := rest.drop 1
    if startsWith (fun c => c = '+' || c = '-') power then
      if startsWith isDigit (power.drop 1) then (dropDigits (power.drop 1)).bind finish
      else .error (.number .decimal)
    else if startsWith isDigit power then (dropDigits power).bind finish
    else checkEnd .decimal rest
  else finish rest

/-- Behind the point of a fraction. -/
def finishFraction (rest : Text) : Except LexicalError Text :=
  if startsWith isDigit rest then (dropDigits rest).bind finishExponent else finishExponent rest

/-- A number in decimal notation. An integer has no leading zeros, but zero may be written with
several. -/
def scanDecimal (t : Text) : Except LexicalError Text :=
  (dropDigits t).bind fun rest =>
    let digits := (t.take (t.length - rest.length)).filterMap CodePoint.digit?
    if startsWith (fun c => c = '.') rest then finishFraction (rest.drop 1)
    else if startsWith (isLetter 'e') rest || startsWith (isLetter 'j') rest then finishExponent rest
    else if digits.head? = some 0 && digits.any (· ≠ 0) then .error .leadingZeros
    else checkEnd .decimal rest

/-- Where a number in digits of another base stands. -/
inductive Place where
  | start | digit | underscore
  deriving DecidableEq

/-- Drops such digits, and tells whether they may end there. -/
def dropRadix (test : CodePoint → Bool) (place : Place) : Text → Bool × Text
  | [] => (place = .digit, [])
  | c :: rest =>
    if test c then dropRadix test .digit rest
    else if c = '_' && place ≠ .underscore then dropRadix test .underscore rest
    else (place = .digit, c :: rest)

/-- A number behind the letter that names its base. -/
def scanRadix (kind : NumberKind) (test : CodePoint → Bool) (t : Text) : Except LexicalError Text :=
  let (isComplete, rest) := dropRadix test .start t
  match rest.head?.filter isDigit with
  | some d => .error (.digit d kind)
  | none => if isComplete then checkEnd kind rest else .error (.number kind)

/-- The text behind the number that it starts with, be it with a digit or with a point before one. -/
def scan (t : Text) : Except LexicalError Text :=
  match t with
  | a :: b :: rest =>
    if a = '.' then finishFraction (b :: rest)
    else if a ≠ '0' then scanDecimal t
    else if isLetter 'x' b then scanRadix .hexadecimal (fun d => d.hexDigit?.isSome) rest
    else if isLetter 'o' b then scanRadix .octal (fun d => d.isWithin [(0x30, 0x37)]) rest
    else if isLetter 'b' b then scanRadix .binary (fun d => d.isWithin [(0x30, 0x31)]) rest
    else scanDecimal t
  | _ => scanDecimal t

example : scan (Text.ofString "1_000.5e-3j,") = .ok (Text.ofString ",") := by rfl
example : scan (Text.ofString "0x_1Fif") = .ok (Text.ofString "if") := by rfl
example : scan (Text.ofString "017") = .error .leadingZeros := by rfl
example : scan (Text.ofString "0b12") = .error (.digit '2' .binary) := by rfl
example : scan (Text.ofString "1__0") = .error (.number .decimal) := by rfl

end JsonTypings.Literal.Numeral
