import JsonTypings.Binary64
import JsonTypings.Json.Fault
import JsonTypings.Value

/-! Numbers as they are written in JSON, read one code point at a time. A fraction or an exponent
that has no digit does not belong to the number. -/
namespace JsonTypings.Json

/-- The parts of a number read so far; digits are kept last first. -/
structure Numeral where
  negative : Bool
  whole : List Nat
  fraction : List Nat
  exponentNegative : Bool
  exponent : List Nat

namespace Numeral

/-- How far a number has been read. -/
inductive Phase where
  /-- The whole part is a zero, which no digit may follow. -/
  | zero
  | whole
  | point
  | fraction
  | mark
  | markSign
  | exponent
  deriving DecidableEq

/-- How many code points at the end of what was read wait for a digit. -/
def Phase.pending : Phase → Nat
  | .point | .mark => 1
  | .markSign => 2
  | _ => 0

/-- A number of one digit. -/
def start (negative : Bool) (digit : Nat) : Phase × Numeral :=
  (if digit = 0 then .zero else .whole, ⟨negative, [digit], [], false, []⟩)

/-- The number with one more code point, unless it ends before that. -/
def extend? (n : Numeral) (phase : Phase) (c : CodePoint) : Option (Phase × Numeral) :=
  let point := if c = '.' then some (Phase.point, n) else none
  let mark := if c = 'e' ∨ c = 'E' then some (Phase.mark, n) else none
  match phase with
  | .zero => point <|> mark
  | .whole => c.digit?.map (fun d => (.whole, { n with whole := d :: n.whole })) <|> point <|> mark
  | .point => c.digit?.map fun d => (.fraction, { n with fraction := [d] })
  | .fraction =>
    c.digit?.map (fun d => (.fraction, { n with fraction := d :: n.fraction })) <|> mark
  | .mark =>
    if c = '+' then some (.markSign, n)
    else if c = '-' then some (.markSign, { n with exponentNegative := true })
    else c.digit?.map fun d => (.exponent, { n with exponent := [d] })
  | .markSign => c.digit?.map fun d => (.exponent, { n with exponent := [d] })
  | .exponent => c.digit?.map fun d => (.exponent, { n with exponent := d :: n.exponent })

/-- The number of a sequence of digits, last first. -/
def ofDigits (digits : List Nat) : Nat := digits.foldr (fun d n => d + 10 * n) 0

/-- Without fraction and exponent a number is an integer, else a float. -/
def isInteger (n : Numeral) : Bool := n.fraction.isEmpty && n.exponent.isEmpty

def integer (n : Numeral) : Int :=
  if n.negative then -(ofDigits n.whole : Int) else ofDigits n.whole

def float (n : Numeral) : Float :=
  let digits := n.fraction ++ n.whole
  let power : Int := ofDigits n.exponent
  Binary64.ofDecimal n.negative (ofDigits digits) digits.length
    ((if n.exponentNegative then -power else power) - n.fraction.length)

/-- Integers of more than `digitLimit` digits have no value; the error is their number of digits. -/
def value (n : Numeral) : Except Nat Value :=
  if n.isInteger then
    if digitLimit < n.whole.length then .error n.whole.length else .ok (.int n.integer)
  else .ok (.float n.float)

end Numeral

end JsonTypings.Json
