import JsonTypings.Sample.Document

/-! A source of sample documents that can be repeated from its seed. -/
namespace JsonTypings.Sample

/-- A seed, the random state reached from it, and the number of the document drawn last in a batch. -/
structure Sampler where
  seed : Int
  random : Twister
  number : Nat

/-- What a sampler starts from, unless it is given. -/
def defaultSeed : Int := 42

/-- The size of a batch and of its documents, unless they are given. -/
def defaultCount : Int := 100
def defaultDepth : Int := 3
def defaultWidth : Int := 5

/-- The attempts that a loop has; none is known to come near it. -/
def defaultAttempts : Nat := 1000000000

namespace Sampler

def ofSeed (seed : Int) : Sampler := ⟨seed, .ofSeed seed, 0⟩

/-- Draws from the random state. -/
def draw {α : Type} (d : Draw α) (attempts : Nat) (s : Sampler) : Except DrawError α × Sampler :=
  let (a, random) := d attempts s.random
  (a, { s with random })

/-- Starts the document `i` of a batch: its random state depends on the seed and on `i` alone. -/
def restart (s : Sampler) (i : Nat) : Sampler := { s with random := .ofSeed (s.seed + i), number := i }

/-- The documents of a batch from `i` on, `n` of them. -/
def documentsFrom (depth width : Int) (attempts : Nat) (i : Nat) :
    (n : Nat) → Sampler → Except DrawError (List Members) × Sampler
  | 0, s => (.ok [], s)
  | n + 1, s =>
    match (s.restart i).draw (document depth width) attempts with
    | (.error e, s) => (.error e, s)
    | (.ok d, s) =>
      let (rest, s) := documentsFrom depth width attempts (i + 1) n s
      (rest.map (d :: ·), s)

/-- A batch of documents. -/
def documents (count depth width : Int) (attempts : Nat) (s : Sampler) :
    Except DrawError (List Members) × Sampler :=
  documentsFrom depth width attempts 0 count.toNat s

end Sampler

end JsonTypings.Sample
