import JsonTypings.Literal.Lexer

/-! String literals: what their escapes ask for, and which of them can stand together. -/
namespace JsonTypings.Literal

/-- Escapes that name a code point. -/
inductive EscapeFault where
  | digits (letter : CodePoint) (count : Nat)
  | beyondUnicode
  | noName
  | unknownName
  deriving DecidableEq

def EscapeFault.wording : EscapeFault → Text
  | digits letter count =>
    Text.ofString "truncated \\" ++ letter :: List.replicate count (CodePoint.ofChar 'X') ++
      Text.ofString " escape"
  | beyondUnicode => Text.ofString "illegal Unicode character"
  | noName => Text.ofString "malformed \\N character escape"
  | unknownName => Text.ofString "unknown Unicode character name"

/-- What is wrong with string literals. -/
inductive StringError where
  /-- An escape that reaches from `start` up to `stop`. -/
  | escape (start stop : Nat) (fault : EscapeFault)
  | byteEscape (position : Nat)
  | notAscii
  | mixed
  deriving DecidableEq

def StringError.message : StringError → Text
  | escape start stop fault =>
    Text.ofString "(unicode error) 'unicodeescape' codec can't decode bytes in position " ++
      Text.ofNat start ++ Text.ofString "-" ++ Text.ofNat (stop - 1) ++ Text.ofString ": " ++
      fault.wording
  | byteEscape position =>
    Text.ofString "(value error) invalid \\x escape at position " ++ Text.ofNat position
  | notAscii => Text.ofString "bytes can only contain ASCII literal characters"
  | mixed => Text.ofString "cannot mix bytes and nonbytes literals"

namespace Quote

def isAscii (c : CodePoint) : Bool := c.val < 0x80

/-- A body with escapes in place of all that is not ASCII; places are told as they are in it. -/
def spellOut : Text → Text
  | [] => []
  | c :: rest =>
    if c = '\\' then
      match rest with
      | [] => Text.ofString "\\u005c"
      | d :: more =>
        if isAscii d then c :: d :: spellOut more
        else Text.ofString "\\u005c" ++ Text.ofString "\\U" ++ Text.hex 8 d.val ++ spellOut more
    else if isAscii c then c :: spellOut rest
    else Text.ofString "\\U" ++ Text.hex 8 c.val ++ spellOut rest

/-- How many digits an escape needs. -/
def digitCount? (letter : CodePoint) : Option Nat :=
  if letter = 'x' then some 2 else if letter = 'u' then some 4 else if letter = 'U' then some 8 else none

def isHex (c : CodePoint) : Bool := c.hexDigit?.isSome

/-- What the names of code points are made of. -/
def isNameLetter (c : CodePoint) : Bool :=
  c = ' ' || c = '-' || c.isWithin [(0x30, 0x39), (0x41, 0x5A), (0x61, 0x7A)]

/-- Checks an escape at some place, given its letter and what comes behind it. Every name of the right
letters is taken as the name of a code point. -/
def checkEscape (start : Nat) (letter : CodePoint) (rest : Text) : Except StringError Unit :=
  match digitCount? letter with
  | some count =>
    let digits := (rest.take count).takeWhile isHex
    if digits.length < count then .error (.escape start (start + 2 + digits.length) (.digits letter count))
    else if 0x110000 ≤ digits.foldl (fun n d => n * 16 + d.hexDigit?.getD 0) 0 then
      .error (.escape start (start + 2 + count) .beyondUnicode)
    else .ok ()
  | none =>
    if letter ≠ 'N' then .ok ()
    else if !Numeral.startsWith (fun c => c = '\x7b') rest then .error (.escape start (start + 2) .noName)
    else
      let name : Text := (rest.drop 1).takeWhile fun (c : CodePoint) => c ≠ '}'
      if name = [] || name.length + 1 = rest.length then
        .error (.escape start (start + 3 + name.length) .noName)
      else if name.all isNameLetter then .ok ()
      else .error (.escape start (start + 4 + name.length) .unknownName)

/-- Checks the escapes of a body from some place on. -/
def checkEscapes (place : Nat) : Text → Except StringError Unit
  | [] => .ok ()
  | c :: rest =>
    if c ≠ '\\' then checkEscapes (place + 1) rest
    else
      match rest with
      | [] => .ok ()
      | letter :: more => (checkEscape place letter more).bind fun _ => checkEscapes (place + 2) more

/-- Checks the escapes of a body that stands for bytes. -/
def checkByteEscapes (place : Nat) : Text → Except StringError Unit
  | [] => .ok ()
  | c :: rest =>
    if c ≠ '\\' then checkByteEscapes (place + 1) rest
    else
      match rest with
      | [] => .ok ()
      | letter :: more =>
        if letter = 'x' && ((more.take 2).takeWhile isHex).length < 2 then .error (.byteEscape place)
        else checkByteEscapes (place + 2) more

end Quote

/-- What a string literal stands for. -/
inductive StringKind where
  | text | bytes | formatted
  deriving DecidableEq

namespace StringKind

/-- The kind of a literal, by the letters before its quote. -/
def ofLetters (letters : Text) : StringKind :=
  if letters.contains (CodePoint.ofChar 'b') then .bytes
  else if letters.contains (CodePoint.ofChar 'f') then .formatted
  else .text

/-- The kind of a single literal. -/
def ofLiteral (literal : Text) : Except StringError StringKind :=
  let letters : Text := literal.takeWhile fun (c : CodePoint) => !Scan.isQuote c
  let quoted := literal.drop letters.length
  let size :=
    if 6 ≤ quoted.length && quoted[0]? = quoted[1]? && quoted[1]? = quoted[2]? then 3 else 1
  let body := (quoted.drop size).take (quoted.length - 2 * size)
  let kind := ofLetters (Text.lower letters)
  let isRaw := (Text.lower letters).contains (CodePoint.ofChar 'r')
  let checked : Except StringError Unit :=
    match kind with
    | .bytes =>
      if !body.all Quote.isAscii then .error .notAscii
      else if isRaw then .ok ()
      else Quote.checkByteEscapes 0 body
    | .text => if isRaw then .ok () else Quote.checkEscapes 0 (Quote.spellOut body)
    | .formatted => .ok ()
  checked.map fun _ => kind

/-- The kind of literals side by side, the first of which stand for `kind`. -/
def join (kind : StringKind) : List Text → Except StringError StringKind
  | [] => .ok kind
  | literal :: rest =>
    (ofLiteral literal).bind fun next =>
      if (kind = .bytes) ≠ (next = .bytes) then .error .mixed
      else join (if next = .formatted then next else kind) rest

/-- The kind of literals side by side. -/
def ofLiterals : List Text → Except StringError StringKind
  | [] => .ok .text
  | literal :: rest => (ofLiteral literal).bind fun kind => join kind rest

example : ofLiterals [Text.ofString "'a'", Text.ofString "r'\\x'"] = .ok .text := by rfl
example : ofLiterals [Text.ofString "'a'", Text.ofString "b'a'"] = .error .mixed := by rfl
example : ofLiterals [Text.ofString "'a\\x1'"] = .error (.escape 1 4 (.digits 'x' 2)) := by rfl

end StringKind

end JsonTypings.Literal
