import JsonTypings.Benchmark.Suite
import JsonTypings.Proofs.Files.Store
import JsonTypings.Proofs.Sample.Batch
import JsonTypings.Proofs.Sample.Document
import JsonTypings.Proofs.Typing.Discovery
import JsonTypings.Sample.Collection

/-! Values that are written, to a text or to a file, are read back and have the same interfaces. -/
namespace JsonTypings

open Files (Store Path)
open Json (Printable IsFloatToken Layout write writeAt writeIndented read_writeAt isPlain_writeAt)

/-- A path leads to the file of a text. -/
def Files.Store.HoldsText (s : Store) (p : Path) (t : Text) : Prop :=
  ∃ bytes, s.read p = .ok bytes ∧ Encoding.decodeTextFile bytes = .ok t

/-- What is written has the interfaces of the value. -/
theorem generate_writeAt (l : Layout) {v : Value} (h : Printable v) (root : Text) :
    generate (.text (writeAt l 0 v)) root = .ok (describe root v) :=
  generate_text_eq_ok.mpr ⟨v, read_writeAt l h, rfl⟩

namespace Files

@[simp] theorem store_printLine (out line : Text) (s : Store) :
    (printLine out line s).store = s := by
  unfold printLine
  split <;> rfl

/-- A line that cannot be printed is not the fault of a file. -/
theorem error?_printLine_ne (out line : Text) (s : Store) (e : FileError) :
    (printLine out line s).error? ≠ some (.file e) := by
  unfold printLine
  split <;> simp

/-- A value that was saved is in the file, unless the file could not be written. -/
theorem Store.save_holdsText {s : Store} {p : Path} {v : Value} {out line : Text} (hv : Printable v)
    (h : ∀ e, (s.save p v out line).error? ≠ some (.file e)) :
    (s.save p v out line).store.HoldsText p (writeIndented v) := by
  unfold Store.save at h ⊢
  split
  · rename_i e hwrite
    rw [hwrite] at h
    exact absurd rfl (h e)
  · rename_i s' hwrite
    rw [store_printLine]
    exact ⟨_, Store.read_of_write hwrite,
      Encoding.decodeTextFile_encodePassing (isPlain_writeAt _ 0 hv)⟩

end Files

namespace Sample

/-- The documents of a batch in an array, when their floats can be read. -/
theorem printable_documents {count depth width : Int} {attempts : Nat} {s : Sampler}
    {documents : List Members} (hdrawn : (s.documents count depth width attempts).1 = .ok documents)
    (hfloats : ∀ d ∈ documents, ∀ x, .float x ∈ (Value.object d).parts → IsFloatToken x) :
    Printable (.array (documents.map .object)) where
  toRegular := Json.regular_array (by
    rw [List.forall_mem_map]
    exact regular_documents hdrawn)
  floats x hx := by
    obtain ⟨d, hd, hx⟩ : ∃ d ∈ documents, .float x ∈ (Value.object d).parts := by
      simpa only [Value.parts_array, List.mem_cons, reduceCtorEq, false_or, List.mem_flatMap,
        List.mem_map,
        exists_exists_and_eq_and] using hx
    exact hfloats d hd x hx

/-- The collected documents are in the file, unless it could not be written. -/
theorem collect_holdsText {store : Store} {path : Path} {count : Int} {documents : List Members}
    (hdrawn : ((Sampler.ofSeed defaultSeed).documents count defaultDepth defaultWidth defaultAttempts).1 =
      .ok documents)
    (hfloats : ∀ d ∈ documents, ∀ x, .float x ∈ (Value.object d).parts → IsFloatToken x)
    (h : ∀ e, (collect store path count).error? ≠ some (.save (.file e))) :
    (collect store path count).store.HoldsText path (writeIndented (.array (documents.map .object))) := by
  unfold collect at h ⊢
  rw [hdrawn] at h ⊢
  cases hmade : store.ensureDirectories path.parent path.parts.length with
  | error e =>
    simp only [hmade] at h
    exact absurd rfl (h e)
  | ok made =>
    simp only [hmade] at h ⊢
    refine Files.Store.save_holdsText (printable_documents hdrawn hfloats) fun e he => h e ?_
    rw [he]
    rfl

end Sample

/-- Reading undoes writing, in both layouts, so that a written value has the interfaces of the
value. A file of saved results is read as the results, and a file of collected samples as the
samples, with the interfaces of the first one. -/
theorem printable_reads_back {v : Value} (h : Printable v) :
    Json.read (write v) = .ok v ∧ Json.read (writeIndented v) = .ok v ∧
    (∀ root, generate (.text (write v)) root = .ok (describe root v) ∧
      generate (.text (writeIndented v)) root = .ok (describe root v)) ∧
    (∀ store path out, (∀ e, (Benchmark.saveResults store path v out).error? ≠ some (.file e)) →
      ∃ t, (Benchmark.saveResults store path v out).store.HoldsText path t ∧ Json.read t = .ok v) ∧
    (∀ store path count documents,
      ((Sample.Sampler.ofSeed Sample.defaultSeed).documents count Sample.defaultDepth Sample.defaultWidth
        Sample.defaultAttempts).1 = .ok documents →
      (∀ d ∈ documents, ∀ x, .float x ∈ (Value.object d).parts → IsFloatToken x) →
      (∀ e, (Sample.collect store path count).error? ≠ some (.save (.file e))) →
      ∃ t, (Sample.collect store path count).store.HoldsText path t ∧
        Json.read t = .ok (.array (documents.map .object)) ∧
        ∀ root first rest, documents = first :: rest →
          generate (.text t) root = .ok (describe root (.object first))) := by
  refine ⟨read_writeAt .line h, read_writeAt (.indented 2) h,
    fun root => ⟨generate_writeAt .line h root, generate_writeAt (.indented 2) h root⟩, ?_, ?_⟩
  · intro store path out hsaved
    exact ⟨_, Files.Store.save_holdsText h hsaved, read_writeAt (.indented 2) h⟩
  · intro store path count documents hdrawn hfloats hcollected
    have hprintable := Sample.printable_documents hdrawn hfloats
    refine ⟨_, Sample.collect_holdsText hdrawn hfloats hcollected,
      read_writeAt (.indented 2) hprintable, ?_⟩
    rintro root first rest rfl
    rw [writeIndented, generate_writeAt (.indented 2) hprintable, List.map_cons,
      describe_array_cons]

/-- Results in which there are a float, a negative integer, and texts with escapes. -/
def mixedResults : Value :=
  .object [(Text.ofString "avg \"ms\"", .array [.float 1.5, .int (-12), .null, .array []]),
    (Text.ofString "läuft\n😀", .string [⟨0xDC00, by decide⟩, ⟨0xD800, by decide⟩])]

theorem isFloatToken_of_fraction {x : Float} (n : Json.NumberLiteral) (hfraction : n.fraction ≠ [])
    (htext : n.text = Decimal.textOfFloat Json.floatNames x) (hvalue : n.float = x) : IsFloatToken x :=
  .inr ⟨n, fun hinteger => hfraction hinteger.1, htext, hvalue⟩

theorem isFloatToken_threeHalves : IsFloatToken 1.5 :=
  isFloatToken_of_fraction ⟨false, [1], [5], none, by simp, by simp⟩ (by simp) (by decide +kernel) rfl

theorem printable_mixedResults : Printable mixedResults where
  integers n hn := by
    obtain rfl : n = -12 := by simpa [mixedResults, Value.parts, Value.partsOfItems] using hn
    decide
  strings t ht := by
    obtain rfl : t = [⟨0xDC00, by decide⟩, ⟨0xD800, by decide⟩] := by
      simpa [mixedResults, Value.parts, Value.partsOfItems] using ht
    decide
  keys members hmembers := by
    obtain rfl : members = mixedResults.members := by
      simpa [mixedResults, Value.parts, Value.partsOfItems] using hmembers
    decide
  floats x hx := by
    obtain rfl : x = 1.5 := by simpa [mixedResults, Value.parts, Value.partsOfItems] using hx
    exact isFloatToken_threeHalves

/-- The floats in the first sample. -/
def firstSampleFloats : List Float := [-75.48, -865.2, -616.82, -242.05]

theorem isFloatToken_of_mem_firstSampleFloats {x : Float} (h : x ∈ firstSampleFloats) : IsFloatToken x := by
  simp only [firstSampleFloats, List.mem_cons, List.not_mem_nil, or_false] at h
  rcases h with rfl | rfl | rfl | rfl
  · exact isFloatToken_of_fraction ⟨true, [7, 5], [4, 8], none, by simp, by simp⟩ (by simp)
      (by decide +kernel) rfl
  · exact isFloatToken_of_fraction ⟨true, [8, 6, 5], [2], none, by simp, by simp⟩ (by simp)
      (by decide +kernel) rfl
  · exact isFloatToken_of_fraction ⟨true, [6, 1, 6], [8, 2], none, by simp, by simp⟩ (by simp)
      (by decide +kernel) rfl
  · exact isFloatToken_of_fraction ⟨true, [2, 4, 2], [0, 5], none, by simp, by simp⟩ (by simp)
      (by decide +kernel) rfl

/-- Whether a value is no float, or one of those. -/
def isNoOtherFloat : Value → Bool
  | .float x => firstSampleFloats.any fun y => x = y
  | _ => true

def firstSampleKeys : List Text :=
  ["name-user-item", "created-user-tag", "position_tag_id", "item-geo", "item-at"].map Text.ofString

/-- The results are saved to an empty directory and read from there, and so is the first sample. -/
theorem mixedResults_read_back :
    Json.read (write mixedResults) = .ok mixedResults ∧
    (∃ t, (Benchmark.saveResults (.empty []) Benchmark.resultsFile mixedResults []).store.HoldsText
        Benchmark.resultsFile t ∧ Json.read t = .ok mixedResults) ∧
    ∃ first t, Members.keys first = firstSampleKeys ∧
      (Sample.collect (.empty []) Benchmark.resultsFile 1).store.HoldsText Benchmark.resultsFile t ∧
      Json.read t = .ok (.array [.object first]) ∧
      ∀ root, generate (.text t) root = .ok (describe root (.object first)) := by
  obtain ⟨hread, -, -, hsaved, hcollected⟩ := printable_reads_back printable_mixedResults
  have hsaves :
      (Benchmark.saveResults (.empty []) Benchmark.resultsFile mixedResults []).error? = none := by rfl
  obtain ⟨first, hfirst, hdrawn⟩ := Sample.Sampler.exists_documents_one (n := 42) (by decide)
    (show 10 ≤ Sample.defaultAttempts by decide) (P := fun d => Members.keys d = firstSampleKeys &&
      (Value.object d).parts.all isNoOtherFloat)
    (show (Sample.document Sample.defaultDepth Sample.defaultWidth 10 (.firstBlock 42)).1.toOption.any _ = true by
      decide +kernel)
  obtain ⟨hkeys, hfloats⟩ := Bool.and_eq_true_iff.mp hfirst
  have htokens : ∀ d ∈ [first], ∀ x, .float x ∈ (Value.object d).parts → IsFloatToken x := by
    intro d hd x hx
    obtain rfl := List.mem_singleton.mp hd
    obtain ⟨y, hy, hxy⟩ := List.any_eq_true.mp (List.all_eq_true.mp hfloats _ hx)
    obtain rfl : x = y := of_decide_eq_true hxy
    exact isFloatToken_of_mem_firstSampleFloats hy
  have hcollects (e : Files.FileError) :
      (Sample.collect (.empty []) Benchmark.resultsFile 1).error? ≠ some (.save (.file e)) := by
    rw [Sample.collect, show Sample.Sampler.ofSeed Sample.defaultSeed = .ofSeed (42 : ℕ) from rfl, hdrawn]
    show Option.map _ (Files.printLine _ _ _).error? ≠ _
    intro hprinted
    obtain ⟨refused, hrefused, hfile⟩ := Option.map_eq_some_iff.mp hprinted
    cases hfile
    exact Files.error?_printLine_ne _ _ _ e hrefused
  obtain ⟨t, ht, hsamples, hinterfaces⟩ := hcollected (.empty []) Benchmark.resultsFile 1 [first] hdrawn
    htokens hcollects
  exact ⟨hread, hsaved _ _ _ (by simp [hsaves]), first, t, of_decide_eq_true hkeys, ht, hsamples,
    fun root => hinterfaces root first [] rfl⟩

end JsonTypings
