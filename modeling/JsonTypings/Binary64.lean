/-! Binary64 floats as exact numbers: taking one apart into a sign, a mantissa and a power of two,
and rounding a quotient to the nearest one. All arithmetic is on natural numbers. -/
namespace JsonTypings

/-- What a float stands for; the finite ones are `± mantissa * 2 ^ exponent`. -/
inductive Binary64 where
  | nan
  | infinity (negative : Bool)
  | finite (negative : Bool) (mantissa : Nat) (exponent : Int)
  deriving DecidableEq

namespace Binary64

/-- The float of a bit pattern: one sign bit, eleven of the exponent, fifty-two of the fraction. -/
def ofBits (bits : Nat) : Binary64 :=
  let negative := bits / Nat.pow 2 63 % 2 == 1
  let biased : Nat := bits / Nat.pow 2 52 % Nat.pow 2 11
  let fraction : Nat := bits % Nat.pow 2 52
  if biased = 0x7FF then
    if fraction = 0 then .infinity negative else .nan
  else if biased = 0 then .finite negative fraction (-1074)
  else .finite negative (Nat.pow 2 52 + fraction) ((biased : Int) - 1075)

def ofFloat (x : Float) : Binary64 := ofBits x.toBits.toNat

/-- A quotient rounded to the nearest natural number, a half going to the even neighbour. -/
def roundDiv (num den : Nat) : Nat :=
  let q := num / den
  let r := num % den
  if 2 * r < den then q
  else if den < 2 * r then q + 1
  else if q % 2 = 0 then q
  else q + 1

/-- The exponent `e` with `2 ^ e ≤ num / den < 2 ^ (e + 1)`, for a positive quotient. -/
def floorLog2 (num den : Nat) : Int :=
  let e : Int := (num.log2 : Int) - den.log2
  let below := if 0 ≤ e then num < den * Nat.pow 2 e.toNat else num * Nat.pow 2 (-e).toNat < den
  if below then e - 1 else e

/-- The bit pattern of the float nearest to `num / den`, a half going to the even mantissa. The
exponent field and the mantissa are added, so that a mantissa rounded up to the next power of two
carries into the exponent; what exceeds the largest float is infinite. -/
def bitsOfRatio (negative : Bool) (num den : Nat) : Nat :=
  let sign := if negative then Nat.pow 2 63 else 0
  if num = 0 then sign
  else
    let q := max (floorLog2 num den - 52) (-1074)
    let m :=
      if 0 ≤ q then roundDiv num (den * Nat.pow 2 q.toNat)
      else roundDiv (num * Nat.pow 2 (-q).toNat) den
    sign + min ((q + 1074).toNat * Nat.pow 2 52 + m) (0x7FF * Nat.pow 2 52)

/-- The float nearest to `num / den`. -/
def ofRatio (negative : Bool) (num den : Nat) : Float :=
  Float.ofBits (UInt64.ofNat (bitsOfRatio negative num den))

/-- The float nearest to `digits * 10 ^ exponent`, where `digits` has `count` decimal digits. Far
beyond the range of floats the answer is clear without computing the power. -/
def ofDecimal (negative : Bool) (digits count : Nat) (exponent : Int) : Float :=
  if digits = 0 || count + exponent < -400 then ofRatio negative 0 1
  else if 400 < exponent then ofRatio negative (Nat.pow 2 1024) 1
  else if 0 ≤ exponent then ofRatio negative (digits * Nat.pow 10 exponent.toNat) 1
  else ofRatio negative digits (Nat.pow 10 (-exponent).toNat)

/-- The float nearest to an integer. -/
def ofInt (n : Int) : Float := ofRatio (n < 0) n.natAbs 1

/-- The absolute value of `mantissa * 2 ^ exponent` as a quotient. -/
def ratio (mantissa : Nat) (exponent : Int) : Nat × Nat :=
  if 0 ≤ exponent then (mantissa * Nat.pow 2 exponent.toNat, 1) else (mantissa, Nat.pow 2 (-exponent).toNat)

example : bitsOfRatio false 1 10 = 0x3FB999999999999A := by decide +kernel
example : bitsOfRatio true 1 1 = 0xBFF0000000000000 := by decide +kernel
example : bitsOfRatio false (2 ^ 53 + 1) 1 = 0x4340000000000000 := by decide +kernel
example : ofBits 0x3FF8000000000000 = .finite false (3 * 2 ^ 51) (-52) := by decide +kernel

end Binary64

end JsonTypings
