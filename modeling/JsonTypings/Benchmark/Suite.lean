import JsonTypings.Decimal.Places
import JsonTypings.Files.Saved
import JsonTypings.Sample.Sampler

/-! Measuring how long documents take to be turned into interfaces, and how much memory. The
measuring itself is left to a gauge, so the suite decides what is measured and how it is told. -/
namespace JsonTypings.Benchmark

/-- Sample documents of one depth and one width, under a name. -/
structure Family where
  name : Text
  depth : Int
  width : Int

def families : List Family :=
  [⟨Text.ofString "shallow+narrow", 1, 5⟩, ⟨Text.ofString "shallow+wide", 1, 50⟩,
    ⟨Text.ofString "deep+narrow", 6, 3⟩, ⟨Text.ofString "deep+wide", 4, 8⟩]

/-- Turns the text of a document into interfaces and tells how many seconds that took, or by how many
megabytes the memory in use grew. -/
structure Gauge (m : Type → Type) where
  seconds : Text → m Float
  megabytes : Text → m Float

/-- How many documents of each family are measured, where they come from, the results so far and
their report. -/
structure Suite where
  samples : Int
  sampler : Sample.Sampler
  results : Members
  report : Text

/-- The number of documents of each family, unless it is given. -/
def defaultSamples : Int := 10

def Suite.start (samples seed : Int) : Suite := ⟨samples, .ofSeed seed, [], []⟩

/-- Why a benchmark ended early. Nothing can be told of a family without documents. -/
inductive SuiteError where
  | noAverage
  | noDocument
  | draw (e : DrawError)

def SuiteError.message : SuiteError → Text
  | .noAverage => Text.ofString "division by zero"
  | .noDocument => Text.ofString "list index out of range"
  | .draw e => e.message

/-- A part of a benchmark. What the suite has become is kept when it ends early. -/
abbrev Bench (m : Type → Type) : Type → Type := ExceptT SuiteError (StateT Suite m)

section

variable {m : Type → Type} [Monad m]

def print (t : Text) : Bench m Unit := modify fun s => { s with report := s.report ++ t }

def keep (key : String) (v : Members) : Bench m Unit :=
  modify fun s => { s with results := s.results.insert (Text.ofString key) (.object v) }

/-- The texts of as many documents as are measured. -/
def loadDocuments (depth width : Int) : Bench m (List Text) := do
  let s ← get
  let (documents, sampler) := s.sampler.documents s.samples depth width Sample.defaultAttempts
  set { s with sampler }
  match documents with
  | .ok ds => return ds.map fun d => Json.write (.object d)
  | .error e => throw (.draw e)

/-- Runs a measurement. -/
def measure (reading : m Float) : Bench m Float := ExceptT.lift (StateT.lift reading)

def milliseconds (seconds : Float) : Text :=
  Text.padLeft 8 (Decimal.fixed 3 (seconds * 1000)) ++ Text.ofString "ms"

def nameColumn (name : Text) : Text := Text.ofString "  " ++ Text.padRight 20 name ++ Text.ofString " "

/-- The average time of the documents of a family. -/
def timeFamily (g : Gauge m) (f : Family) : Bench m Value := do
  let documents ← loadDocuments f.depth f.width
  let times ← documents.mapM fun d => measure (g.seconds d)
  if times.isEmpty then throw .noAverage
  let average := times.foldl (· + ·) 0 / Binary64.ofInt times.length
  print (nameColumn f.name ++ milliseconds average ++ Text.ofString "  (" ++
    Text.ofNat times.length ++ Text.ofString " samples)\n")
  return .object [(Text.ofString "avg_ms", .float (average * 1000)),
    (Text.ofString "samples", .int times.length)]

/-- Results of some things, each under its name. -/
def each {α : Type} (things : List α) (name : α → Text) (f : α → Bench m Value) : Bench m Members :=
  things.foldlM (fun done a => do return done.insert (name a) (← f a)) []

/-- Average times of the families. -/
def byShape (g : Gauge m) : Bench m Unit := do
  print (Text.ofString "=== Benchmarking by Shape ===\n\n")
  keep "by_shape" (← each families Family.name (timeFamily g))

/-- The lengths of the arrays that are measured. -/
def arrayLengths : List Nat := [1, 10, 100, 1000]

/-- The time of an array that holds one document over and over. -/
def timeLength (g : Gauge m) (element : Value) (length : Nat) : Bench m Value := do
  let seconds ← measure (g.seconds (Json.write (.array (List.replicate length element))))
  print (Text.ofString "  " ++ Text.padLeft 5 (Text.ofNat length) ++ Text.ofString " elements: " ++
    milliseconds seconds ++ Text.ofString "\n")
  return .float (seconds * 1000)

/-- Times of arrays, which are judged by their first element but read as a whole. -/
def byArrayLength (g : Gauge m) : Bench m Unit := do
  print (Text.ofString "\n=== Benchmarking by Array Length ===\n\n")
  let s ← get
  let (element, sampler) := s.sampler.draw
    (Sample.document Sample.defaultDepth Sample.defaultWidth) Sample.defaultAttempts
  set { s with sampler }
  match element with
  | .error e => throw (.draw e)
  | .ok element =>
    keep "by_array_length" (← each arrayLengths Text.ofNat (timeLength g (.object element)))

/-- The memory that the first document of a family takes. -/
def memoryOf (g : Gauge m) (f : Family) : Bench m Value := do
  match ← loadDocuments f.depth f.width with
  | [] => throw .noDocument
  | document :: _ =>
    let megabytes ← measure (g.megabytes document)
    print (nameColumn f.name ++ Text.padLeft 8 (Decimal.fixed 2 megabytes) ++ Text.ofString " MB\n")
    return .float megabytes

def memoryUsage (g : Gauge m) : Bench m Unit := do
  print (Text.ofString "\n=== Memory Usage ===\n\n")
  keep "memory_mb" (← each families Family.name (memoryOf g))

def rule : Text := List.replicate 70 '='

/-- All benchmarks, one after the other. -/
def all (g : Gauge m) : Bench m Unit := do
  print (Text.ofString "Starting Benchmarking Suite\n\n" ++ rule ++ Text.ofString "\n")
  byShape g
  byArrayLength g
  memoryUsage g
  print (Text.ofString "\n" ++ rule ++ Text.ofString "\nBenchmarking Complete\n")

end

/-- The file that results are kept in. -/
def resultsFile : Files.Path := .ofText (Text.ofString "benchmark_results.json")

/-- Saves results. -/
def saveResults (store : Files.Store) (path : Files.Path) (results : Value) (out : Text) : Files.Saved :=
  store.save path results out (Text.ofString "Results saved to " ++ path.toText)

end JsonTypings.Benchmark
