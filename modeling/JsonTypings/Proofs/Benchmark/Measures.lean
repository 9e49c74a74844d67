import JsonTypings.Benchmark.Suite
import Mathlib.Data.List.Forall2

/-! Rules for benchmarks. A benchmark keeps the number of samples and the seed of a suite; it ends well,
and then its readings fit what it gives, or with one of the errors that are told of it. There is one rule
for each way to build a benchmark. -/
namespace JsonTypings.Benchmark

/-- A reading, with the document that it was taken of. -/
inductive Reading where
  | seconds (document : Text)
  | megabytes (document : Text)

/-- Readings in the order in which they were taken. -/
abbrev Log : Type := List Reading

/-- Notes each reading. What it shows may depend on all readings so far. -/
def noting (clock : Log → Float) : Gauge (StateM Log) where
  seconds document := fun log => (clock (log ++ [.seconds document]), log ++ [.seconds document])
  megabytes document := fun log => (clock (log ++ [.megabytes document]), log ++ [.megabytes document])

section

variable {α β : Type}

/-- How a benchmark ends, with what the suite and the log have become. -/
def run (b : Bench (StateM Log) α) (s : Suite) (log : Log) : (Except SuiteError α × Suite) × Log :=
  StateT.run (StateT.run (ExceptT.run b) s) log

theorem run_bind_of_ok {b : Bench (StateM Log) α} {s s' : Suite} {log log' : Log} {a : α}
    (h : run b s log = ((.ok a, s'), log')) (f : α → Bench (StateM Log) β) :
    run (b >>= f) s log = run (f a) s' log' := by
  rw [run] at h
  rw [run, ExceptT.run_bind, StateT.run_bind, StateT.run_bind, h]
  rfl

theorem run_bind_of_error {b : Bench (StateM Log) α} {s s' : Suite} {log log' : Log} {e : SuiteError}
    (h : run b s log = ((.error e, s'), log')) (f : α → Bench (StateM Log) β) :
    run (b >>= f) s log = ((.error e, s'), log') := by
  rw [run] at h
  rw [run, ExceptT.run_bind, StateT.run_bind, StateT.run_bind, h]
  rfl

/-- A suite with a number of samples and a sampler of some seed. -/
structure Suite.Has (samples seed : Int) (s : Suite) : Prop where
  samples_eq : s.samples = samples
  seed_eq : s.sampler.seed = seed

theorem Suite.Has.withSampler {samples seed : Int} {s : Suite} (hs : s.Has samples seed)
    {sampler : Sample.Sampler} (h : sampler.seed = s.sampler.seed) :
    Suite.Has samples seed { s with sampler } :=
  ⟨hs.samples_eq, h.trans hs.seed_eq⟩

/-- How a benchmark ends: well, when what it gives and the readings that it adds to the log fit together,
or with one of some errors. -/
def Ends (E : SuiteError → Prop) (R : α → Log → Prop) (log log' : Log) : Except SuiteError α → Prop
  | .ok a => ∃ new, log' = log ++ new ∧ R a new
  | .error e => E e

/-- A benchmark that keeps the number of samples and the seed, however it ends. -/
def Measures (samples seed : Int) (E : SuiteError → Prop) (b : Bench (StateM Log) α) (R : α → Log → Prop) :
    Prop :=
  ∀ s log r s' log', s.Has samples seed → run b s log = ((r, s'), log') →
    s'.Has samples seed ∧ Ends E R log log' r

variable {samples seed : Int} {E : SuiteError → Prop}

theorem Measures.mono {b : Bench (StateM Log) α} {R S : α → Log → Prop} (hb : Measures samples seed E b R)
    (h : ∀ a new, R a new → S a new) : Measures samples seed E b S := by
  intro s log r s' log' hs hrun
  obtain ⟨hs', hends⟩ := hb s log r s' log' hs hrun
  refine ⟨hs', ?_⟩
  cases r with
  | error e => exact hends
  | ok a =>
    obtain ⟨new, hnew, hR⟩ := hends
    exact ⟨new, hnew, h a new hR⟩

theorem measures_pure {a : α} {R : α → Log → Prop} (h : R a []) :
    Measures samples seed E (pure a : Bench (StateM Log) α) R := by
  intro s log r s' log' hs hrun
  cases hrun
  exact ⟨hs, [], (List.append_nil log).symm, h⟩

theorem measures_throw {e : SuiteError} (h : E e) (R : α → Log → Prop) :
    Measures samples seed E (throw e : Bench (StateM Log) α) R := by
  intro s log r s' log' hs hrun
  cases hrun
  exact ⟨hs, h⟩

theorem Measures.bind {b : Bench (StateM Log) α} {f : α → Bench (StateM Log) β} {R : α → Log → Prop}
    {S : β → Log → Prop} (hb : Measures samples seed E b R)
    (hf : ∀ a new, R a new → Measures samples seed E (f a) fun c more => S c (new ++ more)) :
    Measures samples seed E (b >>= f) S := by
  intro s log r s₂ log₂ hs hrun
  rcases hfirst : run b s log with ⟨⟨r₁, s₁⟩, log₁⟩
  obtain ⟨hs₁, hends⟩ := hb s log r₁ s₁ log₁ hs hfirst
  cases r₁ with
  | error e =>
    rw [run_bind_of_error hfirst] at hrun
    cases hrun
    exact ⟨hs₁, hends⟩
  | ok a =>
    rw [run_bind_of_ok hfirst] at hrun
    obtain ⟨new, rfl, hR⟩ := hends
    obtain ⟨hs₂, hends⟩ := hf a new hR s₁ _ r s₂ log₂ hs₁ hrun
    refine ⟨hs₂, ?_⟩
    cases r with
    | error e => exact hends
    | ok c =>
      obtain ⟨more, rfl, hS⟩ := hends
      exact ⟨new ++ more, List.append_assoc log new more, hS⟩

/-- What precedes a benchmark without adding readings or saying anything. -/
theorem Measures.after {b : Bench (StateM Log) PUnit} {c : Bench (StateM Log) β} {S : β → Log → Prop}
    (hb : Measures samples seed E b fun _ new => new = []) (hc : Measures samples seed E c S) :
    Measures samples seed E (b >>= fun _ => c) S := by
  refine hb.bind fun _ new hnew => ?_
  subst hnew
  exact hc

theorem measures_modify {f : Suite → Suite} (hf : ∀ s : Suite, s.Has samples seed → (f s).Has samples seed) :
    Measures samples seed E (modify f : Bench (StateM Log) PUnit) fun _ new => new = [] := by
  intro s log r s' log' hs hrun
  cases hrun
  exact ⟨hf s hs, [], (List.append_nil log).symm, rfl⟩

theorem measures_print (t : Text) :
    Measures samples seed E (print t : Bench (StateM Log) Unit) fun _ new => new = [] :=
  measures_modify fun _ hs => ⟨hs.samples_eq, hs.seed_eq⟩

theorem measures_keep (key : String) (v : Members) :
    Measures samples seed E (keep key v : Bench (StateM Log) Unit) fun _ new => new = [] :=
  measures_modify fun _ hs => ⟨hs.samples_eq, hs.seed_eq⟩

theorem measures_seconds (clock : Log → Float) (document : Text) :
    Measures samples seed E (measure ((noting clock).seconds document))
      fun _ new => new = [.seconds document] := by
  intro s log r s' log' hs hrun
  cases hrun
  exact ⟨hs, _, rfl, rfl⟩

theorem measures_megabytes (clock : Log → Float) (document : Text) :
    Measures samples seed E (measure ((noting clock).megabytes document))
      fun _ new => new = [.megabytes document] := by
  intro s log r s' log' hs hrun
  cases hrun
  exact ⟨hs, _, rfl, rfl⟩

theorem measures_get {f : Suite → Bench (StateM Log) β} {S : β → Log → Prop}
    (hf : ∀ s : Suite, s.Has samples seed → Measures samples seed E (f s) S) :
    Measures samples seed E (get >>= f) S := by
  intro s log r s' log' hs hrun
  exact hf s hs s log r s' log' hs hrun

theorem measures_set {s : Suite} (hs : s.Has samples seed) :
    Measures samples seed E (set s : Bench (StateM Log) PUnit) fun _ new => new = [] :=
  measures_modify fun _ _ => hs

/-- The results of some things have the readings of each, one after the other. -/
theorem measures_each {γ δ : Type} {f : γ → Bench (StateM Log) Value} {R : γ → δ → Prop} {g : δ → Log}
    {things : List γ}
    (hf : ∀ c ∈ things, Measures samples seed E (f c) fun _ new => ∃ d, R c d ∧ new = g d) (name : γ → Text) :
    Measures samples seed E (each things name f)
      fun _ new => ∃ ds, List.Forall₂ R things ds ∧ new = ds.flatMap g := by
  -- The results so far are passed on, but no reading depends on them.
  have hgo (done : Members) : Measures samples seed E
      (things.foldlM (fun done c => do return done.insert (name c) (← f c)) done)
      fun _ new => ∃ ds, List.Forall₂ R things ds ∧ new = ds.flatMap g := by
    induction things generalizing done with
    | nil => exact measures_pure ⟨[], .nil, rfl⟩
    | cons c things ih =>
      rw [List.foldlM_cons, bind_assoc]
      refine (hf c List.mem_cons_self).bind fun v new hnew => ?_
      obtain ⟨d, hd, rfl⟩ := hnew
      rw [pure_bind]
      refine (ih (fun c' hc' => hf c' (List.mem_cons_of_mem c hc')) _).mono fun _ more hmore => ?_
      obtain ⟨ds, hds, rfl⟩ := hmore
      exact ⟨d :: ds, .cons hd hds, List.flatMap_cons.symm⟩
  exact hgo []

/-- A benchmark that keeps such results. -/
theorem measures_keepEach {γ δ : Type} {f : γ → Bench (StateM Log) Value} {R : γ → δ → Prop}
    {g : δ → Log} {things : List γ}
    (hf : ∀ c ∈ things, Measures samples seed E (f c) fun _ new => ∃ d, R c d ∧ new = g d)
    (name : γ → Text) (key : String) :
    Measures samples seed E (each things name f >>= keep key)
      fun _ new => ∃ ds, List.Forall₂ R things ds ∧ new = ds.flatMap g := by
  refine (measures_each hf name).bind fun _ new hnew => ?_
  refine (measures_keep _ _).mono fun _ _ hnone => ?_
  rw [hnone, List.append_nil]
  exact hnew

/-- There is one time for each text. -/
theorem measures_times (clock : Log → Float) (documents : List Text) :
    Measures samples seed E (documents.mapM fun d => measure ((noting clock).seconds d))
      fun times new => times.length = documents.length ∧ new = documents.map .seconds := by
  induction documents with
  | nil => exact measures_pure ⟨rfl, rfl⟩
  | cons d documents ih =>
    rw [List.mapM_cons]
    refine (measures_seconds clock d).bind fun _ new hnew => ?_
    refine ih.bind fun times more hmore => measures_pure ⟨?_, ?_⟩
    · rw [List.length_cons, hmore.1, List.length_cons]
    · rw [hnew, hmore.2, List.append_nil]
      rfl

end

end JsonTypings.Benchmark
