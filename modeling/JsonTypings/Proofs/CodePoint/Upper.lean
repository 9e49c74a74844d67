import JsonTypings.CodePoint.Upper
import JsonTypings.Proofs.CodePoint.Digits

/-! What the upper case of a code point can be within ASCII: a capital letter, or the code point
itself where that is no small letter. So no mark appears in an upper case that was not there. -/
namespace JsonTypings.CodePoint

def IsSmallLetter (c : CodePoint) : Prop := 97 ≤ c.val ∧ c.val ≤ 122

def IsCapitalLetter (c : CodePoint) : Prop := 65 ≤ c.val ∧ c.val ≤ 90

instance (c : CodePoint) : Decidable c.IsSmallLetter := inferInstanceAs (Decidable (_ ∧ _))

instance (c : CodePoint) : Decidable c.IsCapitalLetter := inferInstanceAs (Decidable (_ ∧ _))

/-- ASCII that is no letter. -/
def IsMark (c : CodePoint) : Prop := c.val < 128 ∧ ¬ c.IsSmallLetter ∧ ¬ c.IsCapitalLetter

instance (c : CodePoint) : Decidable c.IsMark := inferInstanceAs (Decidable (_ ∧ _))

theorem upperExpansions_ascii : ∀ e ∈ upperExpansions, ∀ n ∈ e.2,
    n < 0x110000 ∧ (n < 128 → 65 ≤ n ∧ n ≤ 90) := by decide +kernel

theorem upperRuns_ascii : ∀ r ∈ upperRuns, r.target + (r.last - r.first) < 0x110000 ∧
    (r.target < 128 → 65 ≤ r.target ∧ r.target + (r.last - r.first) ≤ 90) := by decide +kernel

theorem mem_upperRuns_smallLetters : (⟨97, 122, 1, 65⟩ : CaseRun) ∈ upperRuns := .head _

theorem CaseRun.covers_iff {r : CaseRun} {n : Nat} :
    r.covers n = true ↔ r.first ≤ n ∧ n ≤ r.last ∧ (n - r.first) % r.step = 0 := by
  simp [covers, and_assoc]

/-- An upper case is listed, or it is the image in a run, or no run covers the code point, which then
stays as it is. -/
theorem upper_cases (c : CodePoint) :
    (∃ e ∈ upperExpansions, e.1 = c.val ∧ c.upper = e.2.map ofNat) ∨
      (∃ r ∈ upperRuns, r.covers c.val = true ∧ r.image c.val < 0x110000 ∧
        c.upper = [ofNat (r.image c.val)]) ∨
      (∀ r ∈ upperRuns, r.covers c.val = false) ∧ c.upper = [c] := by
  rw [upper]
  split
  · rename_i e he
    exact .inl ⟨e, List.mem_of_find?_eq_some he, by simpa using List.find?_some he, rfl⟩
  · rw [CaseRun.apply]
    split
    · rename_i r hr
      have hmem := List.mem_of_find?_eq_some hr
      have hcovers : r.covers c.val = true := by simpa using List.find?_some hr
      obtain ⟨hfirst, hlast, -⟩ := CaseRun.covers_iff.mp hcovers
      obtain ⟨hlt, -⟩ := upperRuns_ascii r hmem
      have himage : r.image c.val < 0x110000 := by unfold CaseRun.image; omega
      exact .inr (.inl ⟨r, hmem, hcovers, himage, rfl⟩)
    · rename_i hnone
      refine .inr (.inr ⟨?_, by rw [ofNat_self]⟩)
      intro r hr
      simpa using List.find?_eq_none.mp hnone r hr

/-- Every code point that an upper case holds within ASCII is a capital letter, unless the mapping
changes nothing; a small letter is never left. -/
theorem ascii_of_mem_upper {c d : CodePoint} (h : d ∈ c.upper) (hd : d.val < 128) :
    d.IsCapitalLetter ∨ d = c ∧ ¬ c.IsSmallLetter := by
  rcases c.upper_cases with ⟨e, he, -, hupper⟩ | ⟨r, hr, hcovers, himage, hupper⟩ | ⟨huncovered, hupper⟩
  · rw [hupper] at h
    obtain ⟨n, hn, rfl⟩ := List.mem_map.mp h
    obtain ⟨hlt, hascii⟩ := upperExpansions_ascii e he n hn
    rw [ofNat_val hlt] at hd
    left
    simpa [IsCapitalLetter, ofNat_val hlt] using hascii hd
  · rw [hupper] at h
    obtain rfl := List.mem_singleton.mp h
    obtain ⟨hfirst, hlast, -⟩ := CaseRun.covers_iff.mp hcovers
    obtain ⟨-, hascii⟩ := upperRuns_ascii r hr
    rw [ofNat_val himage] at hd
    left
    simp only [IsCapitalLetter, ofNat_val himage]
    unfold CaseRun.image at hd ⊢
    omega
  · rw [hupper] at h
    right
    refine ⟨List.mem_singleton.mp h, ?_⟩
    -- The first run covers all small letters, and here no run covers `c`.
    have hletters := huncovered _ mem_upperRuns_smallLetters
    rintro ⟨hlow, hhigh⟩
    simp [CaseRun.covers, hlow, hhigh, Nat.mod_one] at hletters

theorem eq_of_mem_upper {c d : CodePoint} (h : d ∈ c.upper) (hd : d.IsMark) : d = c := by
  rcases ascii_of_mem_upper h hd.1 with hcapital | ⟨heq, -⟩
  · exact absurd hcapital hd.2.2
  · exact heq

theorem not_isSmallLetter_of_mem_upper {c d : CodePoint} (h : d ∈ c.upper) : ¬ d.IsSmallLetter := by
  intro hd
  rcases ascii_of_mem_upper h (by unfold IsSmallLetter at hd; omega) with hcapital | ⟨rfl, hc⟩
  · unfold IsSmallLetter at hd; unfold IsCapitalLetter at hcapital; omega
  · exact hc hd

/-! Surrogates -/

theorem upperExpansions_surrogate : ∀ e ∈ upperExpansions, (e.1 < 0xD800 ∨ 0xE000 ≤ e.1) ∧
    ∀ n ∈ e.2, n < 0xD800 ∨ 0xE000 ≤ n := by decide +kernel

theorem upperRuns_surrogate : ∀ r ∈ upperRuns, (r.last < 0xD800 ∨ 0xE000 ≤ r.first) ∧
    (r.target + (r.last - r.first) < 0xD800 ∨ 0xE000 ≤ r.target) := by decide +kernel

/-- The upper case of a surrogate is the surrogate itself, and nothing else has one in it. -/
theorem isSurrogate_of_mem_upper {c d : CodePoint} (h : d ∈ c.upper) : d.isSurrogate = c.isSurrogate := by
  rcases c.upper_cases with ⟨e, he, hlisted, hupper⟩ | ⟨r, hr, hcovers, himage, hupper⟩ | ⟨-, hupper⟩
  · rw [hupper] at h
    obtain ⟨n, hn, rfl⟩ := List.mem_map.mp h
    obtain ⟨hc, hd⟩ := upperExpansions_surrogate e he
    have hval := ofNat_val (upperExpansions_ascii e he n hn).1
    have hplain : c.isSurrogate = false := isSurrogate_eq_false.mpr (hlisted ▸ hc)
    rw [hplain, isSurrogate_eq_false, hval]
    exact hd n hn
  · rw [hupper] at h
    obtain rfl := List.mem_singleton.mp h
    obtain ⟨hfirst, hlast, -⟩ := CaseRun.covers_iff.mp hcovers
    obtain ⟨hc, hd⟩ := upperRuns_surrogate r hr
    have hplain : c.isSurrogate = false := isSurrogate_eq_false.mpr (by omega)
    rw [hplain, isSurrogate_eq_false, ofNat_val himage, CaseRun.image]
    omega
  · rw [hupper] at h
    rw [List.mem_singleton.mp h]

theorem upper_ne_nil (c : CodePoint) : c.upper ≠ [] := by
  have hne : ∀ e ∈ upperExpansions, e.2 ≠ [] := by decide +kernel
  rcases c.upper_cases with ⟨e, he, -, hupper⟩ | ⟨r, -, -, -, hupper⟩ | ⟨-, hupper⟩
  · simpa [hupper] using hne e he
  · simp [hupper]
  · simp [hupper]

/-! Upper cases of upper cases -/

/-- Some numbers as the bits of one, which lets two long lists be compared at once. -/
def bits (ns : List Nat) : Nat := ns.foldr (fun n set => set ||| 1 <<< n) 0

theorem testBit_bits {ns : List Nat} {n : Nat} (h : n ∈ ns) : (bits ns).testBit n = true := by
  induction ns with
  | nil => cases h
  | cons m ns ih =>
    have hcons : bits (m :: ns) = bits ns ||| 1 <<< m := rfl
    rw [hcons, Nat.testBit_or, Nat.testBit_shiftLeft, Bool.or_eq_true]
    rcases List.mem_cons.mp h with rfl | h
    · exact .inr (by simp)
    · exact .inl (ih h)

theorem not_mem_of_bits {ns ms : List Nat} (h : bits ns &&& bits ms = 0) {n : Nat} (hn : n ∈ ns) :
    n ∉ ms := by
  intro hm
  have hboth : (bits ns &&& bits ms).testBit n = true := by
    rw [Nat.testBit_and, testBit_bits hn, testBit_bits hm, Bool.and_self]
  rw [h, Nat.zero_testBit] at hboth
  cases hboth

namespace CaseRun

/-- How far the code points of a run lie behind its first one. -/
def distances (r : CaseRun) : List Nat :=
  (List.range ((r.last - r.first) / r.step + 1)).map fun k => r.step * k

theorem mem_distances {r : CaseRun} {n : Nat} (h : r.covers n = true) :
    r.first ≤ n ∧ n - r.first ∈ r.distances := by
  obtain ⟨hfirst, hlast, hstep⟩ := covers_iff.mp h
  refine ⟨hfirst, List.mem_map.mpr ⟨(n - r.first) / r.step, ?_, ?_⟩⟩
  · have hle := Nat.div_le_div_right (c := r.step) (Nat.sub_le_sub_right hlast r.first)
    exact List.mem_range.mpr (Nat.lt_succ_of_le hle)
  · exact Nat.mul_div_cancel' (Nat.dvd_of_mod_eq_zero hstep)

end CaseRun

/-- The code points that the tables change. -/
def changing : List Nat :=
  upperExpansions.map Prod.fst ++ upperRuns.flatMap fun r => r.distances.map (r.first + ·)

/-- The first code points of what the tables make of them. -/
def leading : List Nat :=
  upperExpansions.flatMap (fun e => e.2.head?.toList) ++ upperRuns.flatMap fun r => r.distances.map (r.target + ·)

theorem bits_leading_changing : bits leading &&& bits changing = 0 := by decide +kernel

theorem upper_of_not_mem_changing {c : CodePoint} (h : c.val ∉ changing) : c.upper = [c] := by
  simp only [changing, List.mem_append, List.mem_map, List.mem_flatMap, not_or] at h
  obtain ⟨hexpansions, hruns⟩ := h
  rcases c.upper_cases with ⟨e, he, hlisted, -⟩ | ⟨r, hr, hcovers, -, -⟩ | ⟨-, hupper⟩
  · exact absurd ⟨e, he, hlisted⟩ hexpansions
  · obtain ⟨hfirst, hdistance⟩ := CaseRun.mem_distances hcovers
    exact absurd ⟨r, hr, c.val - r.first, hdistance, Nat.add_sub_cancel' hfirst⟩ hruns
  · exact hupper

theorem head_upper {c d : CodePoint} (h : c.upper.head? = some d) :
    c.upper = [c] ∨ d.val ∈ leading := by
  rcases c.upper_cases with ⟨e, he, -, hupper⟩ | ⟨r, hr, hcovers, himage, hupper⟩ | ⟨-, hupper⟩
  · right
    rw [hupper, List.head?_map, Option.map_eq_some_iff] at h
    obtain ⟨n, hn, rfl⟩ := h
    rw [ofNat_val (upperExpansions_ascii e he n (List.mem_of_mem_head? hn)).1]
    exact List.mem_append_left _ (List.mem_flatMap.mpr ⟨e, he, Option.mem_toList.mpr hn⟩)
  · right
    rw [hupper] at h
    obtain rfl : ofNat (r.image c.val) = d := Option.some.inj h
    rw [ofNat_val himage]
    exact List.mem_append_right _ (List.mem_flatMap.mpr
      ⟨r, hr, List.mem_map.mpr ⟨c.val - r.first, (CaseRun.mem_distances hcovers).2, rfl⟩⟩)
  · exact .inl hupper

/-- The first code point of an upper case is its own upper case. -/
theorem upper_head_upper {c d : CodePoint} (h : c.upper.head? = some d) : d.upper = [d] := by
  rcases head_upper h with hsame | hleading
  · rw [hsame] at h
    obtain rfl : c = d := Option.some.inj h
    exact hsame
  · exact upper_of_not_mem_changing (not_mem_of_bits bits_leading_changing hleading)

end JsonTypings.CodePoint
