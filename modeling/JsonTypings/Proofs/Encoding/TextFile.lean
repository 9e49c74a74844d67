import JsonTypings.Encoding.TextFile
import JsonTypings.Proofs.Encoding.Utf8
import JsonTypings.Proofs.Text
import Mathlib.Tactic.SplitIfs

/-! A text that no encoding and no line end changes on its way through a file. -/
namespace JsonTypings.Encoding

/-- ASCII without carriage returns. -/
def IsPlain (t : Text) : Prop := ∀ c ∈ t, c.val < 0x80 ∧ c ≠ CodePoint.ofChar '\r'

instance (t : Text) : Decidable (IsPlain t) :=
  inferInstanceAs (Decidable (∀ c ∈ t, c.val < 0x80 ∧ c ≠ CodePoint.ofChar '\r'))

theorem isPlain_append {t u : Text} : IsPlain (t ++ u) ↔ IsPlain t ∧ IsPlain u :=
  List.forall_mem_append

theorem isPlain_cons {c : CodePoint} {t : Text} :
    IsPlain (c :: t) ↔ (c.val < 0x80 ∧ c ≠ CodePoint.ofChar '\r') ∧ IsPlain t :=
      List.forall_mem_cons

theorem isPlain_nil : IsPlain [] := fun _ hc => by cases hc

theorem isPlain_flatMap {α : Type} {l : List α} {f : α → Text} (h : ∀ a ∈ l, IsPlain (f a)) :
    IsPlain (l.flatMap f) := by
  intro c hc
  obtain ⟨a, ha, hc⟩ := List.mem_flatMap.mp hc
  exact h a ha c hc

theorem isPlain_intercalate {sep : Text} (hsep : IsPlain sep) {ts : List Text}
    (h : ∀ t ∈ ts, IsPlain t) :
    IsPlain (List.intercalate sep ts) := by
  intro c hc
  rcases Text.mem_of_mem_intercalate hc with hc | ⟨t, ht, hc⟩
  · exact hsep c hc
  · exact h t ht c hc

/-- What is done stands in front. -/
theorem newlinesFrom_eq_append (afterReturn : Bool) (done t : Text) :
    newlinesFrom afterReturn done t = done.reverse ++ newlinesFrom afterReturn [] t := by
  induction t generalizing afterReturn done with
  | nil => simp [newlinesFrom]
  | cons c t ih =>
    simp only [newlinesFrom]
    split_ifs
    · rw [ih, ih true [_]]
      simp
    · exact ih false done
    · rw [ih, ih false [_]]
      simp

theorem newlinesFrom_of_no_return {t : Text} (h : ∀ c ∈ t, c ≠ CodePoint.ofChar '\r')
    (done : Text) :
    newlinesFrom false done t = done.reverse ++ t := by
  induction t generalizing done with
  | nil => simp [newlinesFrom]
  | cons c t ih =>
    obtain ⟨hc, ht⟩ := List.forall_mem_cons.mp h
    simp [newlinesFrom, hc, ih ht]

/-- A plain text is what a file holds that it was written to. -/
theorem decodeTextFile_encodePassing {t : Text} (h : IsPlain t) :
    decodeTextFile (Utf8.encodePassing t) = .ok t := by
  have hdecode : Utf8.decode (Utf8.encodePassing t) = .ok t := by
    refine Utf8.decode_encodePassing fun c hc => ?_
    have hascii := (h c hc).1
    exact CodePoint.isSurrogate_eq_false.mpr (.inl (by omega))
  rw [decodeTextFile, hdecode, Except.map, universalNewlines,
    newlinesFrom_of_no_return fun c hc => (h c hc).2]
  rfl

/-- The text of a file is that of its bytes but for the line ends. -/
theorem decodeTextFile_eq_ok {bytes : Bytes} {t : Text} (h : Utf8.decode bytes = .ok t) :
    decodeTextFile bytes = .ok (universalNewlines t) := by
  rw [decodeTextFile, h, Except.map]

/-- A text without surrogates has bytes. -/
theorem encode_eq_ok {t : Text} (h : ∀ c ∈ t, c.isSurrogate = false) :
    Utf8.encode t = .ok (Utf8.encodePassing t) := by
  have hnone (offset : Nat) : Utf8.surrogateRun? offset t = none := by
    induction t generalizing offset with
    | nil => rfl
    | cons c t ih =>
      obtain ⟨hc, ht⟩ := List.forall_mem_cons.mp h
      rw [Utf8.surrogateRun?, hc]
      exact ih ht _
  rw [Utf8.encode, hnone]

/-- A text with a surrogate has none. -/
theorem exists_encode_eq_error {t : Text} (h : ∃ c ∈ t, c.isSurrogate = true) :
    ∃ e, Utf8.encode t = .error e := by
  have hsome (offset : Nat) : ∃ e, Utf8.surrogateRun? offset t = some e := by
    induction t generalizing offset with
    | nil => simp at h
    | cons c t ih =>
      rw [Utf8.surrogateRun?]
      split_ifs with hc
      · exact ⟨_, rfl⟩
      · exact ih (by simpa [hc] using h) _
  obtain ⟨e, he⟩ := hsome 0
  exact ⟨e, by rw [Utf8.encode, he]⟩

end JsonTypings.Encoding
