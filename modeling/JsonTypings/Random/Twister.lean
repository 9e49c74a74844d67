/-! The Mersenne twister MT19937 as a value: drawing a word gives the word and the next state. -/
namespace JsonTypings

/-- The words of the current block, and those of them that have not been drawn yet. -/
structure Twister where
  words : Array UInt32
  ahead : List UInt32
  deriving DecidableEq, Inhabited

namespace Twister

/-- The state in which a block begins. -/
def ofBlock (words : Array UInt32) : Twister := ⟨words, words.toList⟩

/-- The length of a block. -/
def size : Nat := 624

/-- The distance of the words that a twist combines. -/
def shift : Nat := 397

/-- The state that a single word spreads to. -/
def ofWord (seed : UInt32) : Array UInt32 :=
  (List.range (size - 1)).foldl
    (fun (ws : Array UInt32) i =>
      let last := ws.getD i 0
      ws.push ((1812433253 : UInt32) * (last ^^^ (last >>> 30)) + UInt32.ofNat (i + 1)))
    #[seed]

/-- Mixes `f old previous` into the word at `i`, and then keeps the first word, which stands before
the second, equal to the last one. -/
def mix (f : UInt32 → UInt32 → UInt32) (ws : Array UInt32) (i : Nat) : Array UInt32 :=
  let previous := ws.getD (i - 1) 0
  let ws := ws.setIfInBounds i (f (ws.getD i 0) (previous ^^^ (previous >>> 30)))
  if i = size - 1 then ws.setIfInBounds 0 (ws.getD (size - 1) 0) else ws

/-- The words after the first, over and over, `n` of them from the index `i` on. -/
def rounds (i n : Nat) : List Nat := (List.range n).map fun k => (i - 1 + k) % (size - 1) + 1

/-- The state that a key of at least one word spreads to. Its words are there to be twisted, and none of
them is drawn. -/
def ofKey (key : Array UInt32) : Twister :=
  let n := max size key.size
  let absorbed := (rounds 1 n).zipIdx.foldl
    (fun ws (i, k) =>
      let j := k % key.size
      mix (fun old p => (old ^^^ (p * 1664525)) + key.getD j 0 + UInt32.ofNat j) ws i)
    (ofWord 19650218)
  let spread := (rounds (n % (size - 1) + 1) (size - 1)).foldl
    (fun ws i => mix (fun old p => (old ^^^ (p * 1566083941)) - UInt32.ofNat i) ws i)
    absorbed
  ⟨spread.setIfInBounds 0 0x80000000, []⟩

/-- The words of a number, least significant first; `fuel` bounds their count. -/
def wordsOf (fuel n : Nat) : List UInt32 :=
  match fuel with
  | 0 => []
  | fuel + 1 => if n < Nat.pow 2 32 then [.ofNat n] else .ofNat n :: wordsOf fuel (n / Nat.pow 2 32)

/-- The state of a seed; its sign does not matter. -/
def ofSeed (seed : Int) : Twister :=
  let n := seed.natAbs
  ofKey (wordsOf (n.log2 / 32 + 1) n).toArray

/-- The next block. Words that were already replaced take part in what follows. -/
def twist (ws : Array UInt32) : Array UInt32 :=
  (List.range size).foldl
    (fun (ws : Array UInt32) i =>
      let y := (ws.getD i 0 &&& 0x80000000) ||| (ws.getD ((i + 1) % size) 0 &&& 0x7FFFFFFF)
      let flip : UInt32 := if y &&& 1 = 0 then 0 else 0x9908B0DF
      ws.setIfInBounds i (ws.getD ((i + shift) % size) 0 ^^^ (y >>> 1) ^^^ flip))
    ws

/-- The word that is shown for a word of the block. -/
def temper (y : UInt32) : UInt32 :=
  let y := y ^^^ (y >>> 11)
  let y := y ^^^ ((y <<< 7) &&& 0x9D2C5680)
  let y := y ^^^ ((y <<< 15) &&& 0xEFC60000)
  y ^^^ (y >>> 18)

/-- The next word, from a new block when this one is used up. -/
def next (t : Twister) : UInt32 × Twister :=
  let t := if t.ahead.isEmpty then ofBlock (twist t.words) else t
  (temper (t.ahead.headD 0), { t with ahead := t.ahead.tail })

end Twister

end JsonTypings
