import JsonTypings.Proofs.Random.Steady
import JsonTypings.Sample.Primitive

/-! How long random strings are. A string of letters is as long as was drawn. Filler is cut off there,
but its words can run out before, as their number is settled as if each took five characters, and is
five at most. So the upper bound is kept always, and the lower bound only by some strings. -/
namespace JsonTypings.Sample

open Draw

/-- The words that filler is made of. -/
def fillerWords : List Text :=
  ["lorem", "ipsum", "dolor", "sit", "amet", "consectetur", "adipiscing"].map Text.ofString

/-- Words with blanks between them. -/
def fillerText (words : List Text) : Text := List.intercalate (Text.ofString " ") words

/-- Words that filler of some length can be cut from. -/
structure IsFiller (length : Int) (words : List Text) : Prop where
  mem : ∀ w ∈ words, w ∈ fillerWords
  count : (words.length : Int) = fillerCount length

theorem fillerCount_eq (length : Int) : fillerCount length = min 5 (length / 5 + 1) := by
  rw [fillerCount, Int.fdiv_eq_ediv_of_nonneg _ (by decide)]

theorem always_isFiller {length : Int} (hlength : 0 ≤ length) :
    Always (fun s => ∃ words, IsFiller length words ∧ s = (fillerText words).take length.toNat)
      (filler length) := by
  refine ((always_chooseMany _ _ _).and (always_chooseMany_length _ _ _)).bind ?_
  rintro words ⟨hmem, hcount⟩
  refine always_pure ⟨words, ⟨hmem, ?_⟩, rfl⟩
  have hnonneg : 0 ≤ fillerCount length := by
    rw [fillerCount_eq]
    omega
  omega

/-- A string is drawn for a length between the bounds: it is as long, or filler that is cut off there. -/
theorem always_string_drawn {low high : Int} (hlow : 0 ≤ low) :
    Always (fun s => ∃ length, low ≤ length ∧ length ≤ high ∧ ((s.length : Int) = length ∨
      ∃ words, IsFiller length words ∧ s = (fillerText words).take length.toNat)) (string low high) := by
  refine (always_between low high).bind fun length hlength => (always_true _).bind fun m _ => ?_
  have hletters (first : CodePoint) (rest : Text) :
      Always (fun s : Text => (s.length : Int) = length) (chooseMany first rest length) := by
    refine (always_chooseMany_length first rest length).mono fun s hs => ?_
    omega
  split
  · have hnonneg : 0 ≤ length := by omega
    exact (always_isFiller hnonneg).mono fun s hs => ⟨length, hlength.1, hlength.2, .inr hs⟩
  · split
    · exact (hletters _ _).mono fun s hs => ⟨length, hlength.1, hlength.2, .inl hs⟩
    · exact (hletters _ _).mono fun s hs => ⟨length, hlength.1, hlength.2, .inl hs⟩

/-- With the blank behind it, a word takes at least four characters. -/
theorem four_mul_length_le {words : List Text} (h : ∀ w ∈ words, w ∈ fillerWords) :
    4 * words.length ≤ (fillerText words).length + 1 := by
  have hshort : ∀ w ∈ fillerWords, 3 ≤ w.length := by decide
  induction words with
  | nil => simp
  | cons w rest ih =>
    obtain ⟨hw, hrest⟩ := List.forall_mem_cons.mp h
    have hw := hshort w hw
    have hrest := ih hrest
    cases rest with
    | nil =>
      rw [fillerText, List.intercalate_singleton, List.length_singleton]
      omega
    | cons next rest =>
      have hblank : (Text.ofString " ").length = 1 := rfl
      rw [fillerText, List.intercalate_cons_cons, List.length_append, List.length_append, hblank, ← fillerText,
        List.length_cons]
      omega

/-- More words are drawn for a greater length, so those of a filler are enough for a lower bound that is
below what the fewest take. -/
theorem IsFiller.low_le {low length : Int} {words : List Text} (h : IsFiller length words) (hle : low ≤ length)
    (hfew : low < 4 * fillerCount low) : low ≤ ((fillerText words).take length.toNat).length := by
  have hwords := four_mul_length_le h.mem
  have hcount := h.count
  have hmore : fillerCount low ≤ fillerCount length := by
    rw [fillerCount_eq, fillerCount_eq]
    omega
  rw [List.length_take]
  omega

/-- A block whose first words draw the smallest number, the choice of filler, and then the shortest word
over and over. -/
def shortState : Twister :=
  .ofBlock ([0, 0, 0, 2148540932, 0, 2148540932, 0, 2148540932, 0, 2148540932, 0, 2148540932, 0] ++
    List.replicate 611 0 : List UInt32).toArray

/-- The shortest word over and over. -/
def shortWords (n : ℕ) : List Text := List.replicate n (Text.ofString "sit")

theorem length_shortWords (n : ℕ) : (fillerText (shortWords (n + 1))).length = 4 * n + 3 := by
  induction n with
  | zero => rfl
  | succ n ih =>
    have hparts : (Text.ofString "sit").length = 3 ∧ (Text.ofString " ").length = 1 := ⟨rfl, rfl⟩
    rw [shortWords, fillerText, List.replicate_succ, List.replicate_succ, List.intercalate_cons_cons,
      ← List.replicate_succ, List.length_append, List.length_append, hparts.1, hparts.2, ← fillerText,
      ← shortWords, ih]
    omega

/-- Whatever the lower bound, the shortest string for it can be drawn. -/
theorem string_shortState {low : Int} (hlow : 0 ≤ low) : (string low low 1 shortState).1 =
    .ok ((fillerText (shortWords (fillerCount low).toNat)).take low.toNat) := by
  have hbelow : (below 1 1 shortState).1 = .ok 0 := by decide +kernel
  have hfraction : (fraction 1 (below 1 1 shortState).2).1 = .ok 0 := by decide +kernel
  have hfiller : isBelow 0 3 10 = true := by decide +kernel
  have hchosen : ∀ k < 6, (chooseMany (Text.ofString "lorem")
      (["ipsum", "dolor", "sit", "amet", "consectetur", "adipiscing"].map Text.ofString) (k : ℕ) 1
      (fraction 1 (below 1 1 shortState).2).2).1 = .ok (shortWords k) := by decide +kernel
  have hbetween : between low low 1 shortState = (.ok low, (below 1 1 shortState).2) := by
    have hone : (low - low + 1).toNat = 1 := by omega
    rw [between, if_neg (by omega), hone, bind_of_fst hbelow]
    simp [pure]
  obtain ⟨k, hk⟩ : ∃ k : ℕ, fillerCount low = k := by
    apply Int.eq_ofNat_of_zero_le
    rw [fillerCount_eq]
    omega
  have hsmall : k < 6 := by
    rw [fillerCount_eq] at hk
    omega
  rw [string, bind_of_ok hbetween, bind_of_fst hfraction, if_pos hfiller, filler, hk,
    bind_of_fst (hchosen k hsmall), Int.toNat_natCast]
  simp only [pure, fillerText]

/-- No random string is longer than its upper bound. A string that is shorter than its lower bound is all
that the words of some filler come to. This cannot happen exactly when the fewest words, each with three
letters and a blank, are enough for the lower bound. -/
theorem string_bounds {low : Int} (hlow : 0 ≤ low) :
    (∀ high t s, Gives (string low high) t s → (s.length : Int) ≤ high ∧
      (low ≤ s.length ∨ ∃ length words, low ≤ length ∧ length ≤ high ∧ IsFiller length words ∧
        s = fillerText words)) ∧
    ((∀ high t s, Gives (string low high) t s → low ≤ s.length) ↔ low < 4 * fillerCount low) := by
  refine ⟨?_, ?_, ?_⟩
  · intro high t s h
    obtain ⟨length, hle, hhigh, hlength | ⟨words, hwords, rfl⟩⟩ := (always_string_drawn hlow).of_gives h
    · exact ⟨by omega, .inl (by omega)⟩
    · have htake := List.length_take (i := length.toNat) (l := fillerText words)
      refine ⟨by omega, ?_⟩
      by_cases hlong : length.toNat ≤ (fillerText words).length
      · left
        omega
      · right
        refine ⟨length, words, hle, hhigh, hwords, ?_⟩
        exact List.take_of_length_le (by omega)
  · intro h
    have hshort := h low shortState _ ⟨1, string_shortState hlow⟩
    obtain ⟨n, hn⟩ : ∃ n : ℕ, fillerCount low = n + 1 := by
      refine ⟨(fillerCount low - 1).toNat, ?_⟩
      rw [fillerCount_eq]
      omega
    have hcount : (fillerCount low).toNat = n + 1 := by omega
    rw [hcount, List.length_take, length_shortWords] at hshort
    omega
  · intro hfew high t s h
    obtain ⟨length, hle, -, hlength | ⟨words, hwords, rfl⟩⟩ := (always_string_drawn hlow).of_gives h
    · omega
    · exact hwords.low_le hle hfew

/-- Two words are drawn for seven characters, which is enough even if both are the shortest. -/
theorem string_bounds_seven : ∃ s, (string 7 7 1 shortState).1 = .ok s ∧ (7 : Int) ≤ s.length ∧
    (s.length : Int) ≤ 7 := by
  have hseven : (0 : Int) ≤ 7 := by decide
  have hdrawn := string_shortState hseven
  obtain ⟨hupper, hlower⟩ := string_bounds hseven
  exact ⟨_, hdrawn, hlower.mpr (by decide) 7 shortState _ ⟨1, hdrawn⟩,
    (hupper 7 shortState _ ⟨1, hdrawn⟩).1⟩

/-- The lower bounds that all strings keep. Those of sample documents are three and five. -/
example : (List.range 50).filter (fun low => (low : Int) < 4 * fillerCount low) =
    [0, 1, 2, 3, 5, 6, 7, 10, 11, 15] := by decide

/-- A string of exactly four characters was asked for, and one of three is drawn. -/
theorem string_falls_short : (string 4 4 1 shortState).1 = .ok (Text.ofString "sit") ∧
    ¬ (4 : Int) ≤ (Text.ofString "sit").length := by
  have hfour : (0 : Int) ≤ 4 := by decide
  exact ⟨string_shortState hfour, by decide⟩

end JsonTypings.Sample
