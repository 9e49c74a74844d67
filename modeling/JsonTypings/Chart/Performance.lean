import JsonTypings.Chart.Figure
import JsonTypings.Decimal.Places
import JsonTypings.Integer
import JsonTypings.Value

/-! The chart of benchmark results: times by shape, times by array length, and memory by shape. -/
namespace JsonTypings.Chart

/-- Why there is no chart of some results. -/
inductive ResultsError where
  /-- The results, or a part of them, are no object; `use` is what an object was needed for. -/
  | notAnObject (typeName use : Text)
  /-- An entry of the times by shape has no average. -/
  | noAverage
  /-- An entry of the times by shape is no object. -/
  | notAnEntry (v : Value)
  | length (e : Integer.IntegerError)
  /-- A value to be shown is no number. -/
  | notANumber (typeName : Text)

def averageKey : Text := Text.ofString "avg_ms"

def ResultsError.message : ResultsError → Text
  | .notAnObject typeName use =>
    Text.ofString "'" ++ typeName ++ Text.ofString "' object has no attribute " ++ Text.quoted use
  | .noAverage => Text.quoted averageKey
  | .notAnEntry (.array _) => Text.ofString "list indices must be integers or slices, not str"
  | .notAnEntry (.string _) => Text.ofString "string indices must be integers, not 'str'"
  | .notAnEntry v => Text.ofString "'" ++ v.typeName ++ Text.ofString "' object is not subscriptable"
  | .length e => e.message
  | .notANumber typeName => Text.ofString "not a number: " ++ typeName

/-- A part of the results; a part that is missing is empty. -/
def part (results : Members) (name : String) : Except ResultsError Members :=
  match results.get? (Text.ofString name) with
  | none => .ok []
  | some (.object ms) => .ok ms
  | some v => .error (.notAnObject v.typeName (Text.ofString "keys"))

/-- The average in an entry of the times by shape. -/
def averageOf : Value → Except ResultsError Value
  | .object ms =>
    match Members.get? ms averageKey with
    | some v => .ok v
    | none => .error .noAverage
  | v => .error (.notAnEntry v)

/-- The number that a value shows; true counts as one. -/
def numberOf : Value → Except ResultsError Float
  | .int n => .ok (Binary64.ofInt n)
  | .float x => .ok x
  | .bool b => .ok (if b then 1 else 0)
  | v => .error (.notANumber v.typeName)

/-- The lengths of bars are measured from zero, so a negative zero is none. -/
def barLength (x : Float) : Float := 0 + x

def palette : List Text := ["#4ecdc4", "#45b7d1", "#2ecc71", "#ffa07a"].map Text.ofString

/-- The colour of the bar at an index; after the last colour the first one follows. -/
def barColour (i : Nat) : Text := palette.getD (i % palette.length) []

def thickness : Float := 0.8

/-- The near edge of the bar whose middle is at an index. -/
def barEdge (i : Nat) : Float := Binary64.ofInt i - thickness / 2

/-- Upright bars with their times above them. -/
def shapePanel (names : List Text) (times : List Float) : Axes where
  title := Text.ofString "Average Time by Shape"
  xLabel := Text.ofString "Document Shape"
  yLabel := Text.ofString "Time (ms)"
  xScale := .linear
  bars := times.zipIdx.map fun (t, i) => ⟨barEdge i, 0, thickness, barLength t, barColour i⟩
  curves := []
  labels := times.zipIdx.map fun (t, i) =>
    ⟨barEdge i + thickness / 2, barLength t, Decimal.fixed 3 t ++ Text.ofString "ms"⟩
  ticks := .names names

/-- Times against lengths, with a logarithmic axis where all lengths are positive. -/
def lengthPanel (lengths : List Int) (times : List Float) : Axes where
  title := Text.ofString "Scaling with Array Length"
  xLabel := Text.ofString "Top-level Array Length"
  yLabel := Text.ofString "Time (ms)"
  xScale := if lengths ≠ [] ∧ lengths.all (0 < ·) then .log else .linear
  bars := []
  curves := [⟨lengths.map Binary64.ofInt, times, Text.ofString "o", barColour 2⟩]
  labels := []
  ticks := .numbers

/-- Lying bars, upwards. -/
def memoryPanel (names : List Text) (sizes : List Float) : Axes where
  title := Text.ofString "Memory by Shape"
  xLabel := Text.ofString "RSS Growth (MB)"
  yLabel := []
  xScale := .linear
  bars := sizes.zipIdx.map fun (x, i) => ⟨0, barEdge i, barLength x, thickness, barColour i⟩
  curves := []
  labels := []
  ticks := .placed (names.zipIdx.map fun (n, i) => (Binary64.ofInt i, n))

/-- The chart of some results. The panels are made in order, so the first error is that of the
leftmost panel. -/
def performance (results : Value) : Except ResultsError Figure := do
  let .object results := results
    | throw (.notAnObject results.typeName (Text.ofString "get"))
  let byShape ← part results "by_shape"
  let averages ← byShape.mapM fun m => averageOf m.2
  let first := shapePanel byShape.keys (← averages.mapM numberOf)
  let byLength ← part results "by_array_length"
  let lengths ← byLength.mapM fun m => (Integer.read m.1).mapError .length
  let second := lengthPanel lengths (← byLength.mapM fun m => numberOf m.2)
  let memory ← part results "memory_mb"
  let third := memoryPanel memory.keys (← memory.mapM fun m => numberOf m.2)
  return ⟨Text.ofString "json2interface: Performance Analysis", 16, 5, [first, second, third]⟩

end JsonTypings.Chart
