import JsonTypings.CodePoint

/-! The tokens that expressions are made of, and what keeps a text from being cut into tokens. -/
namespace JsonTypings.Literal

inductive TokenKind where
  | name | keyword | number | string | sign | lineEnd | indent | dedent | ending
  deriving DecidableEq

/-- A token, the line on which it starts, and the number of brackets open behind it. -/
structure Token where
  kind : TokenKind
  text : Text
  line : Nat
  level : Nat
  deriving DecidableEq

/-- Words that are no names. -/
def keywords : List Text :=
  ["False", "None", "True", "and", "as", "assert", "async", "await", "break", "class", "continue",
    "def", "del", "elif", "else", "except", "finally", "for", "from", "global", "if", "import", "in",
    "is", "lambda", "nonlocal", "not", "or", "pass", "raise", "return", "try", "while", "with",
    "yield"].map Text.ofString

/-- A bracket that is open, and its line. -/
structure Bracket where
  mark : CodePoint
  line : Nat
  deriving DecidableEq

/-- The notations for numbers. -/
inductive NumberKind where
  | decimal | imaginary | hexadecimal | octal | binary
  deriving DecidableEq

def NumberKind.name : NumberKind → Text
  | decimal => Text.ofString "decimal"
  | imaginary => Text.ofString "imaginary"
  | hexadecimal => Text.ofString "hexadecimal"
  | octal => Text.ofString "octal"
  | binary => Text.ofString "binary"

/-- Why no further token can be read. -/
inductive LexicalError where
  | unterminatedString (line : Nat)
  | unterminatedTriple (line : Nat)
  | number (kind : NumberKind)
  | digit (digit : CodePoint) (kind : NumberKind)
  | leadingZeros
  | tooManyBrackets
  | unmatched (closing : CodePoint)
  /-- The line of the opening bracket is told if it is another one. -/
  | mismatched (closing opening : CodePoint) (line : Option Nat)
  | character (c : CodePoint)
  | unprintable (c : CodePoint)
  | strayBackslash
  | indentation
  | neverClosed (opening : CodePoint)
  deriving DecidableEq

namespace LexicalError

/-- Whether the error is told also where the text before it is wrong already. -/
def isLoud : LexicalError → Bool
  | strayBackslash | indentation | neverClosed _ => false
  | _ => true

/-- A code point as its number, in at least four digits. -/
def number4 (c : CodePoint) : Text :=
  let digits := (Nat.toDigits 16 c.val).map fun d => CodePoint.ofChar d.toUpper
  Text.ofString "U+" ++ List.replicate (4 - digits.length) (CodePoint.ofChar '0') ++ digits

def enclosed (c : CodePoint) : Text := [CodePoint.ofChar '\x27', c, CodePoint.ofChar '\x27']

def message : LexicalError → Text
  | unterminatedString line =>
    Text.ofString "unterminated string literal (detected at line " ++ Text.ofNat line ++ Text.ofString ")"
  | unterminatedTriple line =>
    Text.ofString "unterminated triple-quoted string literal (detected at line " ++ Text.ofNat line ++
      Text.ofString ")"
  | number kind => Text.ofString "invalid " ++ kind.name ++ Text.ofString " literal"
  | digit d kind =>
    Text.ofString "invalid digit " ++ enclosed d ++ Text.ofString " in " ++ kind.name ++
      Text.ofString " literal"
  | leadingZeros =>
    Text.ofString ("leading zeros in decimal integer literals are not permitted; " ++
      "use an 0o prefix for octal integers")
  | tooManyBrackets => Text.ofString "too many nested parentheses"
  | unmatched closing => Text.ofString "unmatched " ++ enclosed closing
  | mismatched closing opening line =>
    Text.ofString "closing parenthesis " ++ enclosed closing ++
      Text.ofString " does not match opening parenthesis " ++ enclosed opening ++
      match line with
      | none => []
      | some line => Text.ofString " on line " ++ Text.ofNat line
  | character c =>
    Text.ofString "invalid character " ++ enclosed c ++ Text.ofString " (" ++ number4 c ++
      Text.ofString ")"
  | unprintable c => Text.ofString "invalid non-printable character " ++ number4 c
  | strayBackslash => Text.ofString "unexpected character after line continuation character"
  | indentation => Text.ofString "unindent does not match any outer indentation level"
  | neverClosed opening => enclosed opening ++ Text.ofString " was never closed"

end LexicalError

end JsonTypings.Literal
