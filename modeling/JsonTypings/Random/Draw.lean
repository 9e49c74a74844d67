import JsonTypings.Binary64
import JsonTypings.CodePoint
import JsonTypings.Random.Twister

/-! Random computations. They thread the state of the twister, also through errors, and bound the
attempts of every loop that waits for a fitting draw. -/
namespace JsonTypings

inductive DrawError where
  /-- No integer lies from `low` up to but not including `stop`. -/
  | emptyRange (low stop : Int)
  /-- A number of draws, or how many less than none, is beyond a machine word. -/
  | countTooLarge
  /-- A loop used up its attempts. -/
  | unfinished
  deriving DecidableEq

def DrawError.message : DrawError → Text
  | .emptyRange low stop =>
    Text.ofString "empty range for randrange() (" ++ Text.ofInt low ++ Text.ofString ", " ++
      Text.ofInt stop ++ Text.ofString ", " ++ Text.ofInt (stop - low) ++ Text.ofString ")"
  | .countTooLarge => Text.ofString "Python int too large to convert to C ssize_t"
  | .unfinished => Text.ofString "out of attempts"

/-- A computation with random words, given how many attempts each of its loops has. -/
def Draw (α : Type) : Type := Nat → Twister → Except DrawError α × Twister

namespace Draw

variable {α β : Type}

instance : Monad Draw where
  pure a := fun _ t => (.ok a, t)
  bind d f := fun attempts t =>
    match d attempts t with
    | (.ok a, t) => f a attempts t
    | (.error e, t) => (.error e, t)

def fail (e : DrawError) : Draw α := fun _ t => (.error e, t)

def word : Draw UInt32 := fun _ t => (.ok t.next.1, t.next.2)

/-- Attempts the draw until it gives something. -/
def retry (d : Draw (Option α)) : Draw α := fun attempts t => go attempts attempts t
where
  go (left attempts : Nat) (t : Twister) : Except DrawError α × Twister :=
    match left with
    | 0 => (.error .unfinished, t)
    | left + 1 =>
      match d attempts t with
      | (.ok (some a), t) => (.ok a, t)
      | (.ok none, t) => go left attempts t
      | (.error e, t) => (.error e, t)

/-- `n` draws in order. -/
def times (n : Nat) (d : Draw α) : Draw (List α) := go [] n
where
  go (drawn : List α) : Nat → Draw (List α)
    | 0 => pure drawn.reverse
    | n + 1 => do go ((← d) :: drawn) n

/-- The highest `k` bits of a word. -/
def highBits (k : Nat) (w : UInt32) : Nat := w.toNat / Nat.pow 2 (32 - k)

/-- A number of `32 * full + k` random bits, the least significant word first. -/
def bitsFrom (k : Nat) : (full : Nat) → Draw Nat
  | 0 => if k = 0 then pure 0 else do return highBits k (← word)
  | full + 1 => do
    let low ← word
    let high ← bitsFrom k full
    return low.toNat + Nat.pow 2 32 * high

/-- A number of `k` random bits. -/
def bits (k : Nat) : Draw Nat := bitsFrom (k % 32) (k / 32)

/-- A number below the positive number `n`: as many bits as `n` has, until they are below it. -/
def below (n : Nat) : Draw Nat :=
  retry do
    let r ← bits (n.log2 + 1)
    return if r < n then some r else none

/-- An integer from `low` to `high`, both included. -/
def between (low high : Int) : Draw Int :=
  if high < low then fail (.emptyRange low (high + 1))
  else do return low + (← below (high - low + 1).toNat)

/-- An element of a nonempty list. -/
def choose (first : α) (rest : List α) : Draw α := do
  let i ← below (rest.length + 1)
  return (first :: rest).getD i first

/-- The numerator of a random fraction over `2 ^ 53`. -/
def fraction : Draw Nat := do
  let high ← word
  let low ← word
  return highBits 27 high * Nat.pow 2 26 + highBits 26 low

/-- Whether the fraction `m / 2 ^ 53` is below the float nearest to `num / den`, which is positive
and below one. -/
def isBelow (m num den : Nat) : Bool :=
  match Binary64.ofBits (Binary64.bitsOfRatio false num den) with
  | .finite _ mantissa exponent => m * Nat.pow 2 (-exponent).toNat < mantissa * Nat.pow 2 53
  | _ => false

/-- A number rounded to 53 significant bits. -/
def significant (n : Nat) : Nat :=
  let excess := n.log2 - 52
  Binary64.roundDiv n (Nat.pow 2 excess) * Nat.pow 2 excess

/-- The index among `n` that the fraction `m / 2 ^ 53` picks: their product, rounded to a float, and
then down. -/
def pick (m n : Nat) : Nat := significant (m * n) / Nat.pow 2 53

/-- Whether a number is one of the signed words of 64 bits. -/
def fitsWord (k : Int) : Bool := -(Nat.pow 2 63 : Int) ≤ k && k < Nat.pow 2 63

/-- `k` elements of a nonempty list, with repetition; none if `k` is negative. -/
def chooseMany (first : α) (rest : List α) (k : Int) : Draw (List α) :=
  if fitsWord k then
    times k.toNat do return (first :: rest).getD (pick (← fraction) (rest.length + 1)) first
  else fail .countTooLarge

/-- `k` elements of a list, without repetition. The last element of the pool takes the place of the
one that is drawn. -/
def chooseDistinct (pool : List α) : (k : Nat) → Draw (List α)
  | 0 => pure []
  | k + 1 => do
    let j ← below pool.length
    match pool[j]?, pool.getLast? with
    | some a, some last => do
      let rest ← chooseDistinct (pool.set j last).dropLast k
      return a :: rest
    | _, _ => pure []

/-- A float between `low` and `low + width`: the float product of the width and a random fraction,
added to `low`. -/
def uniform (low width : Float) : Draw Float := do
  return low + width * Binary64.ofRatio false (← fraction) (Nat.pow 2 53)

end Draw

end JsonTypings
