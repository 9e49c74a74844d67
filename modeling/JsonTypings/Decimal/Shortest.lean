import JsonTypings.Binary64

/-! The shortest decimal that rounds to a given float. Points of the decimal grids of one, two, up to
seventeen digits are compared exactly with the interval of reals that round to the float. -/
namespace JsonTypings

/-- The number `digits * 10 ^ exponent`. -/
structure Decimal where
  digits : Nat
  exponent : Int
  deriving DecidableEq

namespace Decimal

/-- `num / den` divided by a power of ten, as a quotient. -/
def scaleDown (num den : Nat) (power : Int) : Nat × Nat :=
  if 0 ≤ power then (num, den * Nat.pow 10 power.toNat) else (num * Nat.pow 10 (-power).toNat, den)

/-- Whether `10 ^ power ≤ num / den`. -/
def atLeastPower (num den : Nat) (power : Int) : Bool :=
  let (n, d) := scaleDown num den power
  d ≤ n

/-- The exponent `e` with `10 ^ e ≤ num / den < 10 ^ (e + 1)`, for a positive quotient. The binary
exponent gives it up to one. -/
def floorLog10 (num den : Nat) : Int :=
  let e := Int.fdiv (Binary64.floorLog2 num den * 30103) 100000
  if atLeastPower num den (e + 1) then e + 1
  else if atLeastPower num den e then e
  else e - 1

/-- The positive reals between `low / den` and `high / den`, with or without the ends, and the
number `value / den` among them. -/
structure Interval where
  low : Nat
  value : Nat
  high : Nat
  den : Nat
  closed : Bool

namespace Interval

/-- The reals that round to `mantissa * 2 ^ exponent`: up to half the way to either neighbour. Below
a power of two the neighbour is nearer. An even mantissa wins the ties at the ends. -/
def ofFloat (mantissa : Nat) (exponent : Int) : Interval :=
  let narrow := mantissa = Nat.pow 2 52 && -1074 < exponent
  let low := 4 * mantissa - (if narrow then 1 else 2)
  let up := Nat.pow 2 (exponent - 2).toNat
  let down := Nat.pow 2 (2 - exponent).toNat
  ⟨low * up, 4 * mantissa * up, (4 * mantissa + 2) * up, down, mantissa % 2 == 0⟩

/-- Whether `n * 10 ^ power` lies above the lower end. -/
def aboveLow (i : Interval) (n : Nat) (power : Int) : Bool :=
  let (low, den) := scaleDown i.low i.den power
  if i.closed then low ≤ n * den else low < n * den

/-- Whether `n * 10 ^ power` lies below the upper end. -/
def belowHigh (i : Interval) (n : Nat) (power : Int) : Bool :=
  let (high, den) := scaleDown i.high i.den power
  if i.closed then n * den ≤ high else n * den < high

/-- The multiple of `10 ^ power` in the interval that is nearest to its value; of two equally near
ones that with the even last digit. -/
def gridPoint? (i : Interval) (power : Int) : Option Nat :=
  let (value, den) := scaleDown i.value i.den power
  let below := value / den
  let rest := value % den
  let nearest := if 2 * rest < den || (2 * rest = den && below % 2 = 0) then below else below + 1
  match i.aboveLow below power, i.belowHigh (below + 1) power with
  | true, true => some nearest
  | true, false => some below
  | false, true => some (below + 1)
  | false, false => none

end Interval

/-- The most digits a float needs. -/
def maxDigits : Nat := 17

/-- The shortest decimal that rounds to the positive float `mantissa * 2 ^ exponent`, and of those
the nearest to it. -/
def shortest (mantissa : Nat) (exponent : Int) : Decimal :=
  let i := Interval.ofFloat mantissa exponent
  let top := floorLog10 i.value i.den
  let point? := (List.range maxDigits).findSome? fun (n : Nat) =>
    (i.gridPoint? (top - n)).map fun digits => (⟨digits, top - n⟩ : Decimal)
  point?.getD ⟨0, 0⟩

example : shortest (3 * 2 ^ 51) (-52) = ⟨15, -1⟩ := by decide +kernel
example : shortest 1 (-1074) = ⟨5, -324⟩ := by decide +kernel
example : shortest 0x1999999999999A (-56) = ⟨1, -1⟩ := by decide +kernel

end Decimal

end JsonTypings
