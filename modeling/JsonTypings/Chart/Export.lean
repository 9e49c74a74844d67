import JsonTypings.Benchmark.Suite
import JsonTypings.Chart.Performance
import JsonTypings.Encoding.TextFile
import JsonTypings.Json.Reader

/-! Painting the chart of benchmark results into a file. -/
namespace JsonTypings.Chart

open Files

/-- Turns a figure into the bytes of an image. -/
abbrev Painter := Figure → Encoding.Bytes

/-- Why there is no image of some results. -/
inductive ExportError where
  | file (e : FileError)
  | undecodable (e : Encoding.DecodeError)
  | unreadable (e : Json.ReadError)
  | results (e : ResultsError)

def ExportError.message : ExportError → Text
  | .file e => e.message
  | .undecodable e => e.message
  | .unreadable e => e.message
  | .results e => e.message

/-- A figure that was painted for a file, whether or not it could be saved there. -/
structure Painted where
  path : Path
  figure : Figure

/-- How an export ended, what was painted, and the files that are there now. -/
structure Export (α : Type) where
  ending : Except ExportError α
  painted? : Option Painted
  store : Store

/-- Whether a file name has an ending: behind its last point stands something, and before that point
something other than points. -/
def hasEnding (name : Text) : Bool :=
  let stem := name.dropWhile (· = CodePoint.ofChar '.')
  let ending := stem.reverse.takeWhile (· ≠ CodePoint.ofChar '.')
  ending ≠ [] && ending.length < stem.length

/-- The file that an image goes to: a name without an ending gets one. -/
def imagePath (p : Path) : Path :=
  match p.parts.getLast? with
  | none => p
  | some name =>
    if hasEnding name then p
    else
      let bare := (name.reverse.dropWhile (· = CodePoint.ofChar '.')).reverse
      { p with parts := p.parts.dropLast ++ [bare ++ Text.ofString ".png"] }

/-- Paints the chart of results into a file and gives the path that it was asked for. -/
def plot (paint : Painter) (store : Store) (results : Value) (path : Path) : Export Path :=
  match performance results with
  | .error e => ⟨.error (.results e), none, store⟩
  | .ok figure =>
    match store.write (imagePath path) (paint figure) with
    | .error e => ⟨.error (.file e), some ⟨path, figure⟩, store⟩
    | .ok store => ⟨.ok path, some ⟨path, figure⟩, store⟩

/-- The file that the chart of the saved results goes to. -/
def imageFile : Path := .ofText (Text.ofString "performance_analysis.png")

/-- The results saved by a benchmark. -/
def savedResults (store : Store) : Except ExportError Value :=
  match store.read Benchmark.resultsFile with
  | .error e => .error (.file e)
  | .ok bytes =>
    match Encoding.decodeTextFile bytes with
    | .error e => .error (.undecodable e)
    | .ok t => (Json.read t).mapError .unreadable

/-- Paints the chart of the saved results. The exit code and what was printed are the ending. -/
def plotSaved (paint : Painter) (store : Store) : Export (Nat × Text) :=
  if store.exists? Benchmark.resultsFile then
    match savedResults store with
    | .error e => ⟨.error e, none, store⟩
    | .ok results =>
      let e := plot paint store results imageFile
      ⟨e.ending.map fun p =>
        (0, Text.ofString "✓ Saved performance graphs to " ++ p.toText ++ Text.ofString "\n"),
        e.painted?, e.store⟩
  else
    ⟨.ok (1, Text.ofString "Error: " ++ Benchmark.resultsFile.toText ++
      Text.ofString " not found. Run benchmark.py first.\n"), none, store⟩

end JsonTypings.Chart
