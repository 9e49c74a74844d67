import JsonTypings.Proofs.Benchmark.Measures
import JsonTypings.Proofs.Sample.Batch

/-! What the benchmarks read. A suite keeps the seed of its sampler, so that a family stands for the
same documents in all benchmarks, whatever was run before them. -/
namespace JsonTypings.Benchmark

section

variable {samples seed : Int} {E : SuiteError → Prop}

/-- The texts of a family: those of the batch that a new sampler of the seed gives. -/
def Family.HasTexts (samples seed : Int) (f : Family) (texts : List Text) : Prop :=
  ∃ ds, (Sample.Sampler.ofSeed seed).Gives samples f.depth f.width ds ∧
    texts = ds.map fun d => Json.write (.object d)

theorem Family.HasTexts.unique {f : Family} {texts others : List Text}
    (h : f.HasTexts samples seed texts) (h' : f.HasTexts samples seed others) : others = texts := by
  obtain ⟨ds, hds, rfl⟩ := h
  obtain ⟨es, hes, rfl⟩ := h'
  rw [hds.unique rfl hes]

/-- The documents of a family are drawn before the attempts are used up. -/
def Family.Drawable (samples seed : Int) (f : Family) : Prop :=
  ∃ ds, ((Sample.Sampler.ofSeed seed).documents samples f.depth f.width Sample.defaultAttempts).1 = .ok ds

theorem Family.HasTexts.length {f : Family} {texts : List Text} (h : f.HasTexts samples seed texts) :
    texts.length = samples.toNat := by
  obtain ⟨ds, hds, rfl⟩ := h
  rw [List.length_map]
  exact (Sample.Sampler.gives_iff.mp hds).1

/-- Where no text is needed there is one. -/
theorem Family.HasTexts.ne_nil {f : Family} {texts : List Text} (h : f.HasTexts samples seed texts)
    (hsamples : 1 ≤ samples) : texts ≠ [] := by
  apply List.ne_nil_of_length_pos
  rw [h.length]
  omega

/-- Why a method can end early. Either no document is measured, or a loop has used up its attempts, over
the documents of a family or, in the methods that draw one, over the element of the arrays. -/
inductive Stops (samples seed : Int) (element : Bool) : SuiteError → Prop
  | noAverage (h : ¬ 1 ≤ samples) : Stops samples seed element .noAverage
  | noDocument (h : ¬ 1 ≤ samples) : Stops samples seed element .noDocument
  | family {f : Family} (hf : f ∈ families) (h : ¬ f.Drawable samples seed) :
    Stops samples seed element (.draw .unfinished)
  | element (h : element = true) : Stops samples seed element (.draw .unfinished)

/-- Of a family whose documents are drawn, texts are always loaded. -/
theorem measures_loadDocuments {f : Family}
    (hstops : ¬ f.Drawable samples seed → E (.draw .unfinished)) :
    Measures samples seed E (loadDocuments f.depth f.width : Bench (StateM Log) (List Text))
      fun texts new => new = [] ∧ f.HasTexts samples seed texts := by
  refine measures_get fun s hs => ?_
  rcases hdrawn : s.sampler.documents s.samples f.depth f.width Sample.defaultAttempts with ⟨r, sampler⟩
  have hkept := Sample.Sampler.seed_documents s.samples f.depth f.width Sample.defaultAttempts s.sampler
  rw [hdrawn] at hkept
  have hfst : (s.sampler.documents samples f.depth f.width Sample.defaultAttempts).1 = r := by
    rw [← hs.samples_eq, hdrawn]
  refine (measures_set (hs.withSampler hkept)).after ?_
  cases r with
  | error e =>
    obtain ⟨_, herror⟩ := Sample.Sampler.exists_of_documents_eq_error hfst
    obtain rfl := Sample.unfinished_of_document herror
    refine measures_throw (hstops ?_) _
    rintro ⟨ds, hds⟩
    rw [Sample.Sampler.fst_documents_of_seed_eq hs.seed_eq.symm, hfst] at hds
    cases hds
  | ok ds =>
    refine measures_pure ⟨rfl, ds, ?_, rfl⟩
    exact Sample.Sampler.Gives.of_seed_eq hs.seed_eq.symm ⟨Sample.defaultAttempts, hfst⟩

section

variable {element : Bool} (clock : Log → Float) {f : Family} (hf : f ∈ families)

include hf

theorem measures_timeFamily :
    Measures samples seed (Stops samples seed element) (timeFamily (noting clock) f)
      fun _ new => ∃ texts, f.HasTexts samples seed texts ∧ new = texts.map .seconds := by
  refine (measures_loadDocuments (.family hf)).bind fun texts _ htexts => ?_
  obtain ⟨rfl, htexts⟩ := htexts
  refine (measures_times clock texts).bind fun times new hnew => ?_
  obtain ⟨hlength, rfl⟩ := hnew
  split
  · rename_i hnone
    refine measures_throw (.noAverage fun hsamples => htexts.ne_nil hsamples ?_) _
    rw [← List.length_eq_zero_iff, ← hlength, List.isEmpty_iff.mp hnone, List.length_nil]
  · exact (measures_print _).after (measures_pure ⟨texts, htexts, by simp⟩)

/-- The reading of the first of some documents, of which there is at least one. -/
theorem measures_memoryOf :
    Measures samples seed (Stops samples seed element) (memoryOf (noting clock) f)
      fun _ new => ∃ texts : Text × List Text,
        f.HasTexts samples seed (texts.1 :: texts.2) ∧ new = [.megabytes texts.1] := by
  refine (measures_loadDocuments (.family hf)).bind fun texts _ htexts => ?_
  obtain ⟨rfl, htexts⟩ := htexts
  cases texts with
  | nil => exact measures_throw (.noDocument fun hsamples => htexts.ne_nil hsamples rfl) _
  | cons first rest =>
    refine (measures_megabytes clock first).bind fun _ new hnew => ?_
    refine (measures_print _).after (measures_pure ⟨(first, rest), htexts, ?_⟩)
    rw [hnew]
    rfl

end

/-- The text of an array that holds one document over and over. -/
def arrayText (element : Members) (length : ℕ) : Text :=
  Json.write (.array (List.replicate length (.object element)))

theorem measures_timeLength (clock : Log → Float) (element : Members) (length : ℕ) :
    Measures samples seed E (timeLength (noting clock) (.object element) length)
      fun _ new => ∃ text, arrayText element length = text ∧ new = [.seconds text] := by
  refine (measures_seconds clock _).bind fun _ new hnew => ?_
  refine (measures_print _).after (measures_pure ⟨_, rfl, ?_⟩)
  rw [hnew]
  rfl

/-- The texts of all families. -/
def Loaded (samples seed : Int) (timed : List (List Text)) : Prop :=
  List.Forall₂ (Family.HasTexts samples seed) families timed

theorem Loaded.unique {timed others : List (List Text)} (h : Loaded samples seed timed)
    (h' : Loaded samples seed others) : others = timed :=
  List.right_unique_forall₂' (fun _ _ _ htexts hothers => hothers.unique htexts) h' h

/-- The methods that take readings. -/
inductive Method where
  | byShape
  | byArrayLength
  | memoryUsage
  | all

def Method.bench (g : Gauge (StateM Log)) : Method → Bench (StateM Log) Unit
  | .byShape => Benchmark.byShape g
  | .byArrayLength => Benchmark.byArrayLength g
  | .memoryUsage => Benchmark.memoryUsage g
  | .all => Benchmark.all g

/-- Whether a method also draws a document from the state that the sampler happens to be in. -/
def Method.drawsElement : Method → Bool
  | .byShape | .memoryUsage => false
  | .byArrayLength | .all => true

/-- The readings of a method. By shape, all documents of each family are timed. The memory is that of
the first documents. The arrays hold one document each, over and over. -/
inductive Method.Reads (samples seed : Int) (timed : List (List Text)) : Method → Log → Prop
  | byShape (h : Loaded samples seed timed) : Reads samples seed timed .byShape (timed.flatten.map .seconds)
  | byArrayLength {element : Members} {t : Twister}
    (h : Draw.Gives (Sample.document Sample.defaultDepth Sample.defaultWidth) t element) :
    Reads samples seed timed .byArrayLength ((arrayLengths.map (arrayText element)).map .seconds)
  | memoryUsage (h : Loaded samples seed timed) {firsts : List Text}
    (hfirsts : timed.map List.head? = firsts.map some) :
    Reads samples seed timed .memoryUsage (firsts.map .megabytes)
  | all {shapes lengths memory : Log} (hs : Reads samples seed timed .byShape shapes)
    (hl : Reads samples seed timed .byArrayLength lengths)
    (hm : Reads samples seed timed .memoryUsage memory) :
    Reads samples seed timed .all (shapes ++ lengths ++ memory)

/-- There is at most one choice of texts for the families. -/
theorem Method.Reads.of_loaded {timed others : List (List Text)} {method : Method} {new : Log}
    (h : method.Reads samples seed timed new) (heq : Loaded samples seed timed → timed = others) :
    method.Reads samples seed others new := by
  induction h with
  | byShape hloaded =>
    cases heq hloaded
    exact .byShape hloaded
  | byArrayLength hdrawn => exact .byArrayLength hdrawn
  | memoryUsage hloaded hfirsts =>
    cases heq hloaded
    exact .memoryUsage hloaded hfirsts
  | all _ _ _ hshapes hlengths hmemory => exact .all hshapes hlengths hmemory

section

variable (element : Bool) (clock : Log → Float)

theorem measures_byShape :
    Measures samples seed (Stops samples seed element) (byShape (noting clock))
      fun _ new => ∃ timed, Method.Reads samples seed timed .byShape new := by
  refine (measures_print _).after ?_
  refine (measures_keepEach (fun _ => measures_timeFamily clock) Family.name _).mono fun _ new hnew => ?_
  obtain ⟨timed, htimed, rfl⟩ := hnew
  rw [List.flatMap_def, ← List.map_flatten]
  exact ⟨timed, .byShape htimed⟩

theorem measures_memoryUsage :
    Measures samples seed (Stops samples seed element) (memoryUsage (noting clock))
      fun _ new => ∃ timed, Method.Reads samples seed timed .memoryUsage new := by
  refine (measures_print _).after ?_
  refine (measures_keepEach (fun _ => measures_memoryOf clock) Family.name _).mono fun _ new hnew => ?_
  obtain ⟨loaded, hloaded, rfl⟩ := hnew
  have htimed : Loaded samples seed (loaded.map fun texts => texts.1 :: texts.2) :=
    List.forall₂_map_right_iff.mpr hloaded
  have hfirsts : (loaded.map fun texts => Reading.megabytes texts.1) =
      (loaded.map Prod.fst).map .megabytes := by
    rw [List.map_map]
    rfl
  rw [← List.map_eq_flatMap, hfirsts]
  exact ⟨_, .memoryUsage htimed (by simp)⟩

theorem measures_byArrayLength (timed : List (List Text)) :
    Measures samples seed (Stops samples seed true) (byArrayLength (noting clock))
      fun _ new => Method.Reads samples seed timed .byArrayLength new := by
  refine (measures_print _).after (measures_get fun s hs => ?_)
  rcases hdrawn : s.sampler.draw (Sample.document Sample.defaultDepth Sample.defaultWidth)
    Sample.defaultAttempts with ⟨r, sampler⟩
  have hkept := Sample.Sampler.seed_draw (Sample.document Sample.defaultDepth Sample.defaultWidth)
    Sample.defaultAttempts s.sampler
  have hfst := Sample.Sampler.fst_draw (Sample.document Sample.defaultDepth Sample.defaultWidth)
    Sample.defaultAttempts s.sampler
  rw [hdrawn] at hkept hfst
  refine (measures_set (hs.withSampler hkept)).after ?_
  cases r with
  | error e =>
    obtain rfl := Sample.unfinished_of_document hfst.symm
    exact measures_throw (.element rfl) _
  | ok element =>
    refine (measures_keepEach (fun length _ => measures_timeLength clock element length) Text.ofNat _).mono
      fun _ new hnew => ?_
    obtain ⟨texts, htexts, rfl⟩ := hnew
    obtain rfl : arrayLengths.map (arrayText element) = texts :=
      List.forall₂_eq_eq_eq ▸ List.forall₂_map_left_iff.mpr htexts
    rw [← List.map_eq_flatMap]
    exact .byArrayLength ⟨_, hfst.symm⟩

theorem measures_all :
    Measures samples seed (Stops samples seed true) (all (noting clock))
      fun _ new => ∃ timed, Method.Reads samples seed timed .all new := by
  refine (measures_print _).after ?_
  refine (measures_byShape true clock).bind fun _ shapes hshapes => ?_
  obtain ⟨timed, hshapes⟩ := hshapes
  refine (measures_byArrayLength clock timed).bind fun _ lengths hlengths => ?_
  refine (measures_memoryUsage true clock).bind fun _ memory hmemory => ?_
  obtain ⟨others, hmemory⟩ := hmemory
  refine (measures_print _).mono fun _ _ hnone => ?_
  subst hnone
  have hmemory : Method.Reads samples seed timed .memoryUsage memory := by
    cases hshapes with
    | byShape htimed => exact hmemory.of_loaded fun hothers => htimed.unique hothers
  rw [List.append_nil, ← List.append_assoc]
  exact ⟨timed, .all hshapes hlengths hmemory⟩

theorem measures_bench (method : Method) :
    Measures samples seed (Stops samples seed method.drawsElement) (method.bench (noting clock))
      fun _ new => ∃ timed, method.Reads samples seed timed new := by
  cases method with
  | byShape => exact measures_byShape false clock
  | byArrayLength => exact (measures_byArrayLength clock []).mono fun _ _ h => ⟨[], h⟩
  | memoryUsage => exact measures_memoryUsage false clock
  | all => exact measures_all clock

end

/-- What a suite can have become, after any calls of its methods, completed or not. -/
inductive Suite.Reached (samples seed : Int) : Suite → Prop
  | start : Reached samples seed (.start samples seed)
  | call {s s' : Suite} (h : Reached samples seed s) (method : Method) (clock : Log → Float)
    {log log' : Log} {r : Except SuiteError Unit}
    (hrun : run (method.bench (noting clock)) s log = ((r, s'), log')) : Reached samples seed s'

theorem Suite.Reached.has {s : Suite} (h : s.Reached samples seed) : s.Has samples seed := by
  induction h with
  | start => exact ⟨rfl, rfl⟩
  | call _ method clock hrun ih => exact (measures_bench clock method _ _ _ _ _ ih hrun).1

/-- Whenever and in whatever order methods are called, the families stand for the same texts. -/
theorem exists_timed (samples seed : Int) : ∃ timed : List (List Text), ∀ s : Suite,
    s.Reached samples seed → ∀ (method : Method) (clock : Log → Float) (log log' : Log) (s' : Suite),
      run (method.bench (noting clock)) s log = ((.ok (), s'), log') →
        ∃ new, log' = log ++ new ∧ method.Reads samples seed timed new := by
  obtain ⟨timed, htimed⟩ : ∃ timed, ∀ others, Loaded samples seed others → others = timed := by
    by_cases hloaded : ∃ timed, Loaded samples seed timed
    · obtain ⟨timed, htimed⟩ := hloaded
      exact ⟨timed, fun others hothers => htimed.unique hothers⟩
    · -- No family is ever loaded as a whole, so no method that takes texts of families ends well.
      exact ⟨[], fun others hothers => (hloaded ⟨others, hothers⟩).elim⟩
  refine ⟨timed, ?_⟩
  intro s hs method clock log log' s' hrun
  obtain ⟨new, hnew, others, hreads⟩ := (measures_bench clock method _ _ _ _ _ hs.has hrun).2
  exact ⟨new, hnew, hreads.of_loaded (htimed others)⟩

/-- A method ends well where each family has documents to measure, unless a loop uses up its attempts
over the element of the arrays. -/
theorem Suite.Reached.ends_well {s s' : Suite} (hs : s.Reached samples seed) (hsamples : 1 ≤ samples)
    (hdrawable : ∀ f ∈ families, f.Drawable samples seed) {method : Method} {clock : Log → Float}
    {log log' : Log} {r : Except SuiteError Unit}
    (hrun : run (method.bench (noting clock)) s log = ((r, s'), log')) :
    r = .ok () ∨ method.drawsElement = true ∧ r = .error (.draw .unfinished) := by
  have hends := (measures_bench clock method _ _ _ _ _ hs.has hrun).2
  cases r with
  | ok => exact .inl rfl
  | error e =>
    cases hends with
    | noAverage h => exact absurd hsamples h
    | noDocument h => exact absurd hsamples h
    | family hf h => exact absurd (hdrawable _ hf) h
    | element h => exact .inr ⟨h, rfl⟩

end

/-- Batches do not depend on what happened before them. A sampler that some seed led to gives, as
document `i` of a batch, what a document drawn from the state of the seed and `i` is, so that the
batch is repeated, a smaller one is a part from its start, and a later seed gives the part from there
on. In a suite, the document whose memory is read is, for each family, the first one that is timed, and
where each family has documents these readings are always taken. -/
theorem batches_forget_history {seed : Int} {s : Sample.Sampler} (hs : s.Reached seed) :
    (∀ (count depth width : Int) (ds : List Members), s.Gives count depth width ds →
      ds.length = count.toNat ∧
      (∀ (i : ℕ) (hi : i < ds.length) (d : Members),
        Draw.Gives (Sample.document depth width) (.ofSeed (seed + i)) d ↔ d = ds[i]) ∧
      (∀ s' : Sample.Sampler, s'.Reached seed →
        ∀ others, s'.Gives count depth width others ↔ others = ds) ∧
      (∀ s' : Sample.Sampler, s'.Reached seed →
        ∀ fewer ≤ count, s'.Gives fewer depth width (ds.take fewer.toNat)) ∧
      ∀ (j : ℕ) (s' : Sample.Sampler), s'.Reached (seed + j) →
        s'.Gives (count - j) depth width (ds.drop j)) ∧
    ∀ samples : Int, ∃ timed : List (List Text), ∀ suite : Suite, suite.Reached samples seed →
      ∀ (method : Method) (clock : Log → Float) (log log' : Log) (r : Except SuiteError Unit) (suite' : Suite),
        run (method.bench (noting clock)) suite log = ((r, suite'), log') →
          (r = .ok () → ∃ new, log' = log ++ new ∧ method.Reads samples seed timed new) ∧
          (1 ≤ samples → (∀ f ∈ families, f.Drawable samples seed) →
            r = .ok () ∨ method.drawsElement = true ∧ r = .error (.draw .unfinished)) := by
  refine ⟨?_, ?_⟩
  · intro count depth width ds h
    have hkept := hs.seed_eq
    obtain ⟨hlength, hdocuments⟩ := Sample.Sampler.gives_iff.mp h
    refine ⟨hlength, ?_, ?_, ?_, ?_⟩
    · intro i hi d
      have hdocument := hdocuments i hi
      rw [hkept] at hdocument
      constructor
      · intro hd
        exact hd.unique (Sample.steady_document depth width) hdocument
      · rintro rfl
        exact hdocument
    · intro s' hs' others
      have hseed : s'.seed = s.seed := hs'.seed_eq.trans hkept.symm
      constructor
      · exact h.unique hseed
      · rintro rfl
        exact h.of_seed_eq hseed
    · intro s' hs' fewer hfewer
      exact h.take (hs'.seed_eq.trans hkept.symm) hfewer
    · intro j s' hs'
      exact h.drop (by rw [hs'.seed_eq, hkept])
  · intro samples
    obtain ⟨timed, htimed⟩ := exists_timed samples seed
    refine ⟨timed, ?_⟩
    intro suite hsuite method clock log log' r suite' hrun
    refine ⟨?_, fun hsamples hdrawable => hsuite.ends_well hsamples hdrawable hrun⟩
    rintro rfl
    exact htimed suite hsuite method clock log log' suite' hrun

/-- The only text of a family of which one document is measured. -/
theorem Family.exists_text {f : Family} {n : ℕ} (hn : n < UInt32.size) (attempts : ℕ)
    (hle : attempts ≤ Sample.defaultAttempts) {P : Text → Bool}
    (hdrawn : (Sample.document f.depth f.width attempts (.firstBlock n)).1.toOption.any
      (fun d => P (Json.write (.object d))) = true) :
    f.Drawable 1 n ∧ ∃ text, P text = true ∧ f.HasTexts 1 n [text] := by
  obtain ⟨d, hP, hbatch⟩ :=
    Sample.Sampler.exists_documents_one hn hle (P := fun d => P (Json.write (.object d))) hdrawn
  exact ⟨⟨_, hbatch⟩, _, hP, [d], ⟨_, hbatch⟩, rfl⟩

section

variable {samples seed : Int} {texts : List Text} (hloaded : Loaded samples seed (texts.map fun text => [text]))
  {timed : List (List Text)} {new : Log}

include hloaded

/-- Of single texts all are timed. -/
theorem Method.Reads.seconds_of_single (h : Method.Reads samples seed timed .byShape new) :
    new = texts.map .seconds := by
  cases h with
  | byShape htimed =>
    obtain rfl := hloaded.unique htimed
    rw [← List.flatMap_def, List.flatMap_singleton']

/-- Of single texts all are measured. -/
theorem Method.Reads.megabytes_of_single (h : Method.Reads samples seed timed .memoryUsage new) :
    new = texts.map .megabytes := by
  cases h with
  | memoryUsage htimed hfirsts =>
    obtain rfl := hloaded.unique htimed
    rw [List.map_map] at hfirsts
    rw [List.map_injective_iff.mpr (Option.some_injective Text) hfirsts]

end

/-- The documents of depth and width 2 from the seeds 4 and 5. -/
def fourthText : Text := Text.ofString
  "\x7b\"item\": [\"dol\", \"tfnhe\"], \"tag\": [\x7b\"geo\": null\x7d, \x7b\"status\": [true, true]\x7d]\x7d"
def fifthText : Text := Text.ofString "\x7b\"item-order-id\": [20], \"order\": true\x7d"

/-- Documents from the seed 7026, of width 5 and of depth 6. -/
def narrowText : Text := Text.ofString
  ("\x7b\"tagOrderAddress\": null, \"order-item\": [], \"item_position_at\": [], \"user-geo-item\": [], " ++
    "\"userStatusTag\": null\x7d")
def deepText : Text := Text.ofString
  "\x7b\"tagOrderAddress\": null, \"order-item\": [], \"item_position_at\": []\x7d"

/-- Each family has one document from that seed. -/
theorem exists_loaded :
    (∀ f ∈ families, f.Drawable 1 7026) ∧
      ∃ wide both, Loaded 1 7026 ([narrowText, wide, deepText, both].map fun text => [text]) := by
  obtain ⟨hnarrow, narrow, hnarrowText, htext₁⟩ :=
    Family.exists_text (n := 7026) (f := ⟨Text.ofString "shallow+narrow", 1, 5⟩) (P := (· == narrowText))
      (by decide) 10 (by decide) (by decide +kernel)
  obtain ⟨hwide, wide, -, htext₂⟩ :=
    Family.exists_text (n := 7026) (f := ⟨Text.ofString "shallow+wide", 1, 50⟩) (P := fun _ => true)
      (by decide) 10 (by decide) (by decide +kernel)
  obtain ⟨hdeep, deep, hdeepText, htext₃⟩ :=
    Family.exists_text (n := 7026) (f := ⟨Text.ofString "deep+narrow", 6, 3⟩) (P := (· == deepText))
      (by decide) 10 (by decide) (by decide +kernel)
  obtain ⟨hboth, both, -, htext₄⟩ :=
    Family.exists_text (n := 7026) (f := ⟨Text.ofString "deep+wide", 4, 8⟩) (P := fun _ => true)
      (by decide) 10 (by decide) (by decide +kernel)
  obtain rfl := eq_of_beq hnarrowText
  obtain rfl := eq_of_beq hdeepText
  refine ⟨?_, wide, both, .cons htext₁ (.cons htext₂ (.cons htext₃ (.cons htext₄ .nil)))⟩
  simp only [families, List.forall_mem_cons]
  exact ⟨hnarrow, hwide, hdeep, hboth, nofun⟩

/-- The sampler has drawn a primitive and a batch before. The suite measures one document of each family,
the memory first and then the time. -/
theorem batches_forget_used :
    (((Sample.Sampler.ofSeed 4).draw Sample.primitive 10).2.documents 2 3 5 10).2.Reached 4 ∧
    (∃ first second, Json.write (.object first) = fourthText ∧ Json.write (.object second) = fifthText ∧
      (∀ others, (Sample.Sampler.ofSeed 4).Gives 2 2 2 others ↔ others = [first, second]) ∧
      (Sample.Sampler.ofSeed 5).Gives 1 2 2 [second]) ∧
    (∀ f ∈ families, f.Drawable 1 7026) ∧
    ∃ wide both, ∀ clock, ∃ suite suite',
      run (memoryUsage (noting clock)) (.start 1 7026) [] =
        ((.ok (), suite), [narrowText, wide, deepText, both].map .megabytes) ∧
      run (byShape (noting clock)) suite ([narrowText, wide, deepText, both].map .megabytes) =
        ((.ok (), suite'), [narrowText, wide, deepText, both].map .megabytes ++
          [narrowText, wide, deepText, both].map .seconds) := by
  have hstart : (Sample.Sampler.ofSeed 4).Reached 4 := .start
  have hused := (hstart.draw Sample.primitive 10).documents 2 3 5 10
  refine ⟨hused, ?_, ?_⟩
  · obtain ⟨first, hwrite₁, hfirst⟩ := Sample.exists_document (n := 4)
      (P := fun d => Json.write (.object d) == fourthText) (by decide)
      (show (Sample.document 2 2 10 (.firstBlock 4)).1.toOption.any _ = true by decide +kernel)
    obtain ⟨second, hwrite₂, hsecond⟩ := Sample.exists_document (n := 5)
      (P := fun d => Json.write (.object d) == fifthText) (by decide)
      (show (Sample.document 2 2 10 (.firstBlock 5)).1.toOption.any _ = true by decide +kernel)
    have hgives : (((Sample.Sampler.ofSeed 4).draw Sample.primitive 10).2.documents 2 3 5 10).2.Gives
        2 2 2 [first, second] := by
      refine Sample.Sampler.gives_iff.mpr ⟨rfl, ?_⟩
      rw [hused.seed_eq]
      intro i hi
      match i, hi with
      | 0, _ => exact ⟨10, hfirst⟩
      | 1, _ => exact ⟨10, hsecond⟩
    obtain ⟨-, -, hrepeated, -, hlater⟩ := (batches_forget_history hused).1 2 2 2 _ hgives
    exact ⟨first, second, eq_of_beq hwrite₁, eq_of_beq hwrite₂, hrepeated _ .start, hlater 1 _ .start⟩
  · obtain ⟨hdrawable, wide, both, hloaded⟩ := exists_loaded
    refine ⟨hdrawable, wide, both, ?_⟩
    intro clock
    have hseed : (Sample.Sampler.ofSeed 7026).Reached 7026 := .start
    obtain ⟨timed, htimed⟩ := (batches_forget_history hseed).2 1
    rcases hmemory : run (memoryUsage (noting clock)) (.start 1 7026) [] with ⟨⟨r, suite⟩, log⟩
    obtain ⟨hreads, hwell⟩ := htimed _ .start .memoryUsage clock _ _ _ _ hmemory
    obtain rfl : r = .ok () := (hwell (by decide) hdrawable).resolve_right (by simp [Method.drawsElement])
    obtain ⟨new, hlog, hnew⟩ := hreads rfl
    rw [List.nil_append, hnew.megabytes_of_single hloaded] at hlog
    rcases htimes : run (byShape (noting clock)) suite log with ⟨⟨r, suite'⟩, log'⟩
    obtain ⟨hreads, hwell⟩ :=
      htimed _ (.call .start .memoryUsage clock hmemory) .byShape clock _ _ _ _ htimes
    obtain rfl : r = .ok () := (hwell (by decide) hdrawable).resolve_right (by simp [Method.drawsElement])
    obtain ⟨more, hlog', hmore⟩ := hreads rfl
    rw [hmore.seconds_of_single hloaded] at hlog'
    subst hlog hlog'
    exact ⟨suite, suite', rfl, htimes⟩

end JsonTypings.Benchmark
