import JsonTypings.Proofs.Random.Seeding
import JsonTypings.Proofs.Random.Steady
import JsonTypings.Proofs.Random.Unfailing
import JsonTypings.Proofs.Sample.Closed
import JsonTypings.Proofs.Sample.Sampler
import Mathlib.Data.Finset.Lattice.Fold
import Mathlib.Data.Fintype.Basic

/-! Batches of documents have no memory. Whatever a sampler did before, a batch is settled by the seed
and by the depth and width of its documents, each of which starts from a state of its own. -/
namespace JsonTypings.Sample

open Draw

/-- Documents do not depend on the number of attempts. -/
theorem steady_document (depth width : Int) : Steady (document depth width) :=
  closed_document closed_steady depth width

/-- The only error of a document is that of a loop without attempts left. -/
theorem unfinished_of_document {depth width : Int} {attempts : ℕ} {t : Twister} {e : DrawError}
    (h : (document depth width attempts t).1 = .error e) : e = .unfinished :=
  closed_document closed_unfailing depth width attempts t e _ (Prod.ext h rfl)

/-- The document of a small seed is drawn from its first block. -/
theorem fst_document_ofSeed {n : ℕ} (h : n < UInt32.size) (depth width : Int) (attempts : ℕ) :
    (document depth width attempts (.ofSeed n)).1 = (document depth width attempts (.firstBlock n)).1 :=
  (closed_document closed_foreseen depth width attempts _ _ (Twister.next_ofSeed h)).1

/-- A document of a small seed, found in its first block. -/
theorem exists_document {n : ℕ} (hn : n < UInt32.size) {depth width : Int} {attempts : ℕ} {P : Members → Bool}
    (hdrawn : (document depth width attempts (.firstBlock n)).1.toOption.any P = true) :
    ∃ d, P d = true ∧ (document depth width attempts (.ofSeed n)).1 = .ok d := by
  rw [← fst_document_ofSeed hn] at hdrawn
  cases h : (document depth width attempts (.ofSeed n)).1 with
  | error e =>
    rw [h] at hdrawn
    cases hdrawn
  | ok d =>
    rw [h] at hdrawn
    exact ⟨d, hdrawn, rfl⟩

namespace Sampler

/-- So is a batch of one document, which more attempts do not change. -/
theorem exists_documents_one {n : ℕ} (hn : n < UInt32.size) {depth width : Int} {attempts more : ℕ}
    (hle : attempts ≤ more) {P : Members → Bool}
    (hdrawn : (document depth width attempts (.firstBlock n)).1.toOption.any P = true) :
    ∃ d, P d = true ∧ ((ofSeed n).documents 1 depth width more).1 = .ok [d] := by
  obtain ⟨d, hP, hd⟩ := exists_document hn hdrawn
  refine ⟨d, hP, documents_eq_ok.mpr ⟨rfl, ?_⟩⟩
  intro i hi
  obtain rfl : i = 0 := by simpa using hi
  simpa [ofSeed] using (steady_document depth width).ok_of_le hle hd

/-- What a sampler of some seed can have become, after any draws and batches, completed or not. -/
inductive Reached (seed : Int) : Sampler → Prop
  | start : Reached seed (.ofSeed seed)
  | draw {α : Type} {s : Sampler} (h : Reached seed s) (d : Draw α) (attempts : ℕ) :
    Reached seed (s.draw d attempts).2
  | documents {s : Sampler} (h : Reached seed s) (count depth width : Int) (attempts : ℕ) :
    Reached seed (s.documents count depth width attempts).2

theorem Reached.seed_eq {seed : Int} {s : Sampler} (h : Reached seed s) : s.seed = seed := by
  induction h with
  | start => rw [ofSeed]
  | draw h d attempts ih => exact (seed_draw d attempts _).trans ih
  | documents h count depth width attempts ih =>
    exact (seed_documents count depth width attempts _).trans ih

/-- A batch that a sampler gives, with enough attempts. -/
def Gives (s : Sampler) (count depth width : Int) (ds : List Members) : Prop :=
  ∃ attempts, (s.documents count depth width attempts).1 = .ok ds

/-- With enough attempts for each of some things there are enough for all. -/
theorem exists_attempts {n : ℕ} {P : Fin n → ℕ → Prop} (hmono : ∀ i a b, a ≤ b → P i a → P i b)
    (h : ∀ i, ∃ attempts, P i attempts) : ∃ attempts, ∀ i, P i attempts := by
  choose enough henough using h
  refine ⟨Finset.univ.sup enough, ?_⟩
  intro i
  exact hmono i _ _ (Finset.le_sup (Finset.mem_univ i)) (henough i)

/-- A batch is given exactly when its documents are, each from the state of the seed and its number. -/
theorem gives_iff {s : Sampler} {count depth width : Int} {ds : List Members} :
    s.Gives count depth width ds ↔ ds.length = count.toNat ∧ ∀ i (hi : i < ds.length),
      Draw.Gives (document depth width) (.ofSeed (s.seed + i)) ds[i] := by
  constructor
  · rintro ⟨attempts, h⟩
    obtain ⟨hlength, hdrawn⟩ := documents_eq_ok.mp h
    exact ⟨hlength, fun i hi => ⟨attempts, hdrawn i hi⟩⟩
  · rintro ⟨hlength, hdrawn⟩
    obtain ⟨attempts, hall⟩ := exists_attempts
      (P := fun i a => (document depth width a (.ofSeed (s.seed + i.val))).1 = .ok ds[i])
      (fun i a b hle h => (steady_document depth width).ok_of_le hle h)
      fun i => hdrawn i.val i.isLt
    exact ⟨attempts, documents_eq_ok.mpr ⟨hlength, fun i hi => hall ⟨i, hi⟩⟩⟩

/-- Only the seed of a sampler matters. -/
theorem Gives.of_seed_eq {s s' : Sampler} (hseed : s'.seed = s.seed) {count depth width : Int}
    {ds : List Members} (h : s.Gives count depth width ds) : s'.Gives count depth width ds := by
  rw [gives_iff, hseed, ← gives_iff]
  exact h

theorem Gives.unique {s s' : Sampler} (hseed : s'.seed = s.seed) {count depth width : Int}
    {ds others : List Members} (h : s.Gives count depth width ds)
    (h' : s'.Gives count depth width others) : others = ds := by
  obtain ⟨hlength, hdrawn⟩ := gives_iff.mp h
  obtain ⟨hlength', hdrawn'⟩ := gives_iff.mp h'
  apply List.ext_getElem (hlength'.trans hlength.symm)
  intro i hi' hi
  have hother := hdrawn' i hi'
  rw [hseed] at hother
  exact hother.unique (steady_document depth width) (hdrawn i hi)

/-- A smaller batch consists of the first documents. -/
theorem Gives.take {s s' : Sampler} (hseed : s'.seed = s.seed) {count depth width fewer : Int}
    {ds : List Members} (h : s.Gives count depth width ds) (hle : fewer ≤ count) :
    s'.Gives fewer depth width (ds.take fewer.toNat) := by
  obtain ⟨hlength, hdrawn⟩ := gives_iff.mp h
  refine gives_iff.mpr ⟨?_, ?_⟩
  · rw [List.length_take]
    omega
  · intro i hi
    rw [List.length_take] at hi
    rw [List.getElem_take, hseed]
    exact hdrawn i (by omega)

/-- A later seed gives the later documents. -/
theorem Gives.drop {s s' : Sampler} {j : ℕ} (hseed : s'.seed = s.seed + j) {count depth width : Int}
    {ds : List Members} (h : s.Gives count depth width ds) :
    s'.Gives (count - j) depth width (ds.drop j) := by
  obtain ⟨hlength, hdrawn⟩ := gives_iff.mp h
  refine gives_iff.mpr ⟨?_, ?_⟩
  · rw [List.length_drop]
    omega
  · intro i hi
    rw [List.length_drop] at hi
    have hdocument := hdrawn (j + i) (by omega)
    rw [Int.natCast_add, ← Int.add_assoc, ← hseed] at hdocument
    rw [List.getElem_drop]
    exact hdocument

end Sampler

end JsonTypings.Sample
