import JsonTypings.Json.Fault

/-! Strings as they are written in JSON, read one code point at a time. Two escapes in a row that
spell the halves of a surrogate pair stand for one code point; any other surrogate stands alone. -/
namespace JsonTypings.Json

/-- A malformed text: what is wrong, and at which offset. -/
structure Flaw where
  fault : Fault
  offset : Nat
  deriving DecidableEq

/-- Where a string stands between two code points. In an escape, `paired` tells whether an escaped
high surrogate came directly before it. -/
inductive QuotationPhase where
  | plain
  /-- Directly after the last digit of a `\u` escape. -/
  | afterUnicode
  | backslash (paired : Bool)
  /-- After `\u` and some of its four digits, which are kept last first. -/
  | unicode (paired : Bool) (digits : List Nat)
  deriving DecidableEq

/-- A string whose closing quote has not come yet: the offset of its opening quote, and what it
holds so far, last first. -/
structure Quotation where
  opened : Nat
  content : Text
  phase : QuotationPhase

namespace Quotation

def start (offset : Nat) : Quotation := ⟨offset, [], .plain⟩

/-- What a backslash and one more code point stand for, `u` apart. -/
def shortEscape? (c : CodePoint) : Option CodePoint :=
  if c = '"' then some '"'
  else if c = '\\' then some '\\'
  else if c = '/' then some '/'
  else if c = 'b' then some '\x08'
  else if c = 'f' then some '\x0c'
  else if c = 'n' then some '\n'
  else if c = 'r' then some '\r'
  else if c = 't' then some '\t'
  else none

/-- Adds the code point of an escape; a low surrogate directly after an escaped high one joins it. -/
def addUnit (paired : Bool) (content : Text) (unit : CodePoint) : Text :=
  match content with
  | high :: rest =>
    if paired && unit.isLowSurrogate then high.joinSurrogates unit :: rest else unit :: content
  | [] => [unit]

/-- Whether the content so far ends in an escaped high surrogate. -/
def endsInHighEscape (q : Quotation) : Bool :=
  q.phase == .afterUnicode && q.content.head?.any CodePoint.isHighSurrogate

/-- A string with one more code point: closed, or still open. -/
inductive Progress where
  | closed (content : Text)
  | still (q : Quotation)

/-- The code point at `offset` outside of escapes. -/
def stepPlain (q : Quotation) (offset : Nat) (c : CodePoint) : Except Flaw Progress :=
  if c = '"' then .ok (.closed q.content.reverse)
  else if c = '\\' then .ok (.still { q with phase := .backslash q.endsInHighEscape })
  else if c.val < 0x20 then .error ⟨.controlCharacter, offset⟩
  else .ok (.still { q with content := c :: q.content, phase := .plain })

/-- The string with the code point at `offset`. -/
def step (q : Quotation) (offset : Nat) (c : CodePoint) : Except Flaw Progress :=
  match q.phase with
  | .plain | .afterUnicode => q.stepPlain offset c
  | .backslash paired =>
    if c = 'u' then .ok (.still { q with phase := .unicode paired [] })
    else
      match shortEscape? c with
      | some d => .ok (.still { q with content := d :: q.content, phase := .plain })
      | none => .error ⟨.unknownEscape, offset - 1⟩
  | .unicode paired digits =>
    match c.hexDigit? with
    | none => .error ⟨.unicodeEscape, offset - 1 - digits.length⟩
    | some d =>
      if digits.length < 3 then .ok (.still { q with phase := .unicode paired (d :: digits) })
      else
        let unit := CodePoint.ofNat ((d :: digits).foldr (fun d n => d + 16 * n) 0)
        .ok (.still { q with content := addUnit paired q.content unit, phase := .afterUnicode })

/-- The flaw of a text that ends, at `offset`, before the closing quote. A `\u` escape needs one
more code point behind its digits. -/
def unfinished (q : Quotation) (offset : Nat) : Flaw :=
  match q.phase with
  | .plain | .backslash _ => ⟨.unterminatedString, q.opened⟩
  | .afterUnicode => ⟨.unicodeEscape, offset - 5⟩
  | .unicode _ digits => ⟨.unicodeEscape, offset - 1 - digits.length⟩

end Quotation

end JsonTypings.Json
