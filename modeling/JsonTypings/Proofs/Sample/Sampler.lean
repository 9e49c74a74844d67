import JsonTypings.Sample.Sampler
import Mathlib.Data.List.Forall2

/-! What a batch consists of. Whatever is drawn, a sampler keeps its seed, and document `i` of a batch
is what is drawn from the seed and `i` alone. -/
namespace JsonTypings.Sample.Sampler

variable {α : Type}

theorem fst_draw (d : Draw α) (attempts : ℕ) (s : Sampler) :
    (s.draw d attempts).1 = (d attempts s.random).1 := by rw [draw]

theorem seed_draw (d : Draw α) (attempts : ℕ) (s : Sampler) : (s.draw d attempts).2.seed = s.seed := by
  rw [draw]

theorem seed_restart (s : Sampler) (i : ℕ) : (s.restart i).seed = s.seed := by rw [restart]

theorem random_restart (s : Sampler) (i : ℕ) : (s.restart i).random = .ofSeed (s.seed + i) := by
  rw [restart]

theorem seed_documentsFrom (depth width : Int) (attempts i n : ℕ) (s : Sampler) :
    (documentsFrom depth width attempts i n s).2.seed = s.seed := by
  induction n generalizing i s with
  | zero => rw [documentsFrom]
  | succ n ih =>
    have hseed : ((s.restart i).draw (document depth width) attempts).2.seed = s.seed := by
      rw [seed_draw, seed_restart]
    rw [documentsFrom]
    split
    · rename_i e s₁ hdraw
      rw [hdraw] at hseed
      exact hseed
    · rename_i d s₁ hdraw
      rw [hdraw] at hseed
      exact (ih (i + 1) s₁).trans hseed

theorem seed_documents (count depth width : Int) (attempts : ℕ) (s : Sampler) :
    (s.documents count depth width attempts).2.seed = s.seed := seed_documentsFrom ..

/-- The documents of a batch are drawn one by one, each from a state that no other one has reached. -/
theorem fst_documentsFrom (depth width : Int) (attempts i n : ℕ) (s : Sampler) :
    (documentsFrom depth width attempts i n s).1 =
      (List.range' i n).mapM fun k : ℕ => (document depth width attempts (.ofSeed (s.seed + k))).1 := by
  induction n generalizing i s with
  | zero =>
    rw [documentsFrom]
    rfl
  | succ n ih =>
    have hfirst : ((s.restart i).draw (document depth width) attempts).1 =
        (document depth width attempts (.ofSeed (s.seed + i))).1 := by
      rw [fst_draw, random_restart]
    have hseed : ((s.restart i).draw (document depth width) attempts).2.seed = s.seed := by
      rw [seed_draw, seed_restart]
    rw [documentsFrom, List.range'_succ, List.mapM_cons, ← hfirst]
    rcases hdraw : (s.restart i).draw (document depth width) attempts with ⟨r, s₁⟩
    rw [hdraw] at hseed
    cases r with
    | error e => rfl
    | ok d =>
      have hrest := ih (i + 1) s₁
      rw [hseed] at hrest
      simp only [← hrest]
      cases (documentsFrom depth width attempts (i + 1) n s₁).1 <;> rfl

/-- Results are collected exactly when none of them is an error. -/
theorem mapM_eq_ok {ε α β : Type} {f : α → Except ε β} {as : List α} {bs : List β} :
    as.mapM f = .ok bs ↔ List.Forall₂ (fun a b => f a = .ok b) as bs := by
  induction as generalizing bs with
  | nil =>
    rw [List.mapM_nil, List.forall₂_nil_left_iff]
    constructor
    · intro h
      cases h
      rfl
    · rintro rfl
      rfl
  | cons a as ih =>
    rw [List.mapM_cons, List.forall₂_cons_left_iff]
    constructor
    · intro h
      cases ha : f a with
      | error e =>
        rw [ha] at h
        cases h
      | ok b =>
        cases hrest : as.mapM f with
        | error e =>
          rw [ha, hrest] at h
          cases h
        | ok rest =>
          rw [ha, hrest] at h
          cases h
          exact ⟨b, rest, rfl, ih.mp hrest, rfl⟩
    · rintro ⟨b, rest, ha, hrest, rfl⟩
      rw [ha, ih.mpr hrest]
      rfl

/-- What goes wrong with a list goes wrong with one of its elements. -/
theorem exists_of_mapM_eq_error {ε α β : Type} {f : α → Except ε β} {as : List α} {e : ε}
    (h : as.mapM f = .error e) : ∃ a ∈ as, f a = .error e := by
  induction as with
  | nil =>
    rw [List.mapM_nil] at h
    cases h
  | cons a as ih =>
    rw [List.mapM_cons] at h
    cases ha : f a with
    | error e' =>
      rw [ha] at h
      cases h
      exact ⟨a, List.mem_cons_self, ha⟩
    | ok b =>
      cases hrest : as.mapM f with
      | error e' =>
        rw [ha, hrest] at h
        cases h
        obtain ⟨a', ha', herror⟩ := ih hrest
        exact ⟨a', List.mem_cons_of_mem _ ha', herror⟩
      | ok rest =>
        rw [ha, hrest] at h
        cases h

/-- Only the seed of a sampler matters to its batches. -/
theorem fst_documents_of_seed_eq {s s' : Sampler} (h : s'.seed = s.seed) (count depth width : Int)
    (attempts : ℕ) : (s'.documents count depth width attempts).1 = (s.documents count depth width attempts).1 := by
  rw [documents, documents, fst_documentsFrom, fst_documentsFrom, h]

/-- A batch fails with one of its documents. -/
theorem exists_of_documents_eq_error {count depth width : Int} {attempts : ℕ} {s : Sampler} {e : DrawError}
    (h : (s.documents count depth width attempts).1 = .error e) :
    ∃ t, (document depth width attempts t).1 = .error e := by
  rw [documents, fst_documentsFrom] at h
  obtain ⟨k, -, hk⟩ := exists_of_mapM_eq_error h
  exact ⟨_, hk⟩

/-- A batch is drawn exactly when each of its documents is. -/
theorem documents_eq_ok {count depth width : Int} {attempts : ℕ} {s : Sampler} {ds : List Members} :
    (s.documents count depth width attempts).1 = .ok ds ↔
      ds.length = count.toNat ∧ ∀ i (hi : i < ds.length),
        (document depth width attempts (.ofSeed (s.seed + i))).1 = .ok ds[i] := by
  rw [documents, fst_documentsFrom, mapM_eq_ok, List.forall₂_iff_get]
  simp only [List.get_eq_getElem, List.getElem_range', List.length_range', Nat.zero_add, Nat.one_mul]
  constructor
  · rintro ⟨hlength, h⟩
    exact ⟨hlength.symm, fun i hi => h i (by omega) hi⟩
  · rintro ⟨hlength, h⟩
    exact ⟨hlength.symm, fun i _ hi => h i hi⟩

end JsonTypings.Sample.Sampler
