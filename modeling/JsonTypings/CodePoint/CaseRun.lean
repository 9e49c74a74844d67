import JsonTypings.CodePoint

/-! Case mappings from one code point to one other, as runs of code points at a constant distance. -/
namespace JsonTypings.CodePoint

/-- Code points from `first` to `last` in steps of `step`, whose images start at `target`. -/
structure CaseRun where
  first : Nat
  last : Nat
  step : Nat
  target : Nat

namespace CaseRun

def covers (r : CaseRun) (n : Nat) : Bool :=
  r.first ≤ n && n ≤ r.last && (n - r.first) % r.step == 0

/-- The image of a covered code point lies as far from `target` as it lies from `first`. -/
def image (r : CaseRun) (n : Nat) : Nat := r.target + (n - r.first)

/-- The image of a code point; one that no run covers stays as it is. -/
def apply (runs : List CaseRun) (n : Nat) : Nat :=
  match runs.find? fun r => r.covers n with
  | some r => r.image n
  | none => n

end CaseRun

end JsonTypings.CodePoint
