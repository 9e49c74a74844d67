import JsonTypings.Encoding.Utf8
import JsonTypings.Proofs.CodePoint.Digits
import Mathlib.Data.List.Basic

/-! Reading UTF-8 undoes writing it. Behind the bytes of a code point the machine stands at the start
again and has read that code point. -/
namespace JsonTypings.Encoding.Utf8

variable {pass : Bool} {s : State} {offset opened owed low high value d : Nat} {read : Text}
  {rest : Bytes}

theorem toNat_ofNat {b : Nat} (hb : b < 256) : (UInt8.ofNat b).toNat = b := by
  rw [UInt8.toNat_ofNat', Nat.mod_eq_of_lt hb]

/-- A first byte opens the sequence that it announces. -/
theorem run_lead {b : Nat} (hb : 0x80 ≤ b ∧ b < 256) (h : lead? offset b = some s) :
    run pass .start offset read (UInt8.ofNat b :: rest) = run pass s (offset + 1) read rest := by
  rw [run, toNat_ofNat hb.2]
  simp only [step, if_neg (Nat.not_lt.mpr hb.1), h]

/-- A byte that is not the last one adds six bits. -/
theorem run_tail (howed : 1 < owed) (hd : d < 64) (hrange : low ≤ 0x80 + d ∧ 0x80 + d ≤ high) :
    run pass (.tail opened owed low high value) offset read (UInt8.ofNat (0x80 + d) :: rest) =
      run pass (.tail opened (owed - 1) 0x80 0xBF (value * 64 + d)) (offset + 1) read rest := by
  have hlast : ¬ owed ≤ 1 := by omega
  rw [run, toNat_ofNat (by omega)]
  simp only [step, hrange.1, hrange.2, decide_true, Bool.and_true, if_true, hlast, if_false,
    Nat.add_sub_cancel_left]

/-- The last byte completes a code point. -/
theorem run_last (hd : d < 64) (hrange : low ≤ 0x80 + d ∧ 0x80 + d ≤ high) :
    run pass (.tail opened 1 low high value) offset read (UInt8.ofNat (0x80 + d) :: rest) =
      run pass .start (offset + 1) (.ofNat (value * 64 + d) :: read) rest := by
  rw [run, toNat_ofNat (by omega)]
  simp only [step, hrange.1, hrange.2, decide_true, Bool.and_true, if_true, Nat.le_refl,
    Nat.add_sub_cancel_left]

/-- The last two bytes of a surrogate are passed where that is asked for. -/
theorem run_surrogate {e : Nat} (hd : 32 ≤ d ∧ d < 64) (he : e < 64) :
    run true (.tail opened 2 0x80 0x9F value) offset read
        (UInt8.ofNat (0x80 + d) :: UInt8.ofNat (0x80 + e) :: rest) =
      run true .start (offset + 2) (.ofNat ((value * 64 + d) * 64 + e) :: read) rest := by
  have hhigh : ¬ 0x80 + d ≤ 0x9F := by omega
  have hpassed : 0xA0 ≤ 0x80 + d ∧ 0x80 + d ≤ 0xBF := by omega
  have hlast : 0x80 ≤ 0x80 + e ∧ 0x80 + e ≤ 0xBF := by omega
  rw [run, toNat_ofNat (by omega)]
  simp only [step, hhigh, hpassed.1, hpassed.2, decide_true, decide_false, Bool.and_false,
    Bool.false_eq_true, if_false, Bool.and_true, Nat.add_sub_cancel_left, beq_self_eq_true, if_true]
  rw [run, toNat_ofNat (by omega)]
  simp only [step, hlast.1, hlast.2, decide_true, Bool.and_true, if_true, Nat.add_sub_cancel_left]

/-! The bytes of code points, by their number -/

/-- A code point of ASCII is one byte. -/
theorem encodePoint_ascii {c : CodePoint} (hc : c.val < 0x80) :
    encodePoint c = [UInt8.ofNat c.val] := by
  simp [encodePoint, hc]

theorem encodePoint_two {c : CodePoint} (hlow : 0x80 ≤ c.val) (hhigh : c.val < 0x800) :
    encodePoint c = [.ofNat (0xC0 + c.val / 64), .ofNat (0x80 + c.val % 64)] := by
  have h1 : ¬ c.val < 0x80 := by omega
  simp [encodePoint, h1, hhigh, Nat.pow_eq]

theorem encodePoint_three {c : CodePoint} (hlow : 0x800 ≤ c.val) (hhigh : c.val < 0x10000) :
    encodePoint c =
      [.ofNat (0xE0 + c.val / 4096), .ofNat (0x80 + c.val / 64 % 64), .ofNat (0x80 + c.val % 64)] := by
  have h1 : ¬ c.val < 0x80 := by omega
  have h2 : ¬ c.val < 0x800 := by omega
  simp [encodePoint, h1, h2, hhigh, Nat.pow_eq]

theorem encodePoint_four {c : CodePoint} (hlow : 0x10000 ≤ c.val) :
    encodePoint c = [.ofNat (0xF0 + c.val / 262144), .ofNat (0x80 + c.val / 4096 % 64),
      .ofNat (0x80 + c.val / 64 % 64), .ofNat (0x80 + c.val % 64)] := by
  have h1 : ¬ c.val < 0x80 := by omega
  have h2 : ¬ c.val < 0x800 := by omega
  have h3 : ¬ c.val < 0x10000 := by omega
  simp [encodePoint, h1, h2, h3, Nat.pow_eq]

/-! What first bytes announce. The range of the second byte leaves out what has a shorter form, and
what is no code point. -/

theorem lead?_two {a : Nat} (ha : 2 ≤ a ∧ a < 32) :
    lead? offset (0xC0 + a) = some (.tail offset 1 0x80 0xBF a) := by
  have hrange : 0xC2 ≤ 0xC0 + a ∧ 0xC0 + a ≤ 0xDF := by omega
  simp [lead?, hrange]

theorem exists_lead?_three (offset : Nat) {a : Nat} (ha : a < 16) (hd : d < 64) (hshort : a = 0 → 32 ≤ d)
    (hsurrogate : a = 13 → d < 32) :
    ∃ low high, lead? offset (0xE0 + a) = some (.tail offset 2 low high a) ∧
      low ≤ 0x80 + d ∧ 0x80 + d ≤ high := by
  have htwo : ¬ 0xE0 + a ≤ 0xDF := by omega
  by_cases hzero : a = 0
  · subst hzero
    exact ⟨0xA0, 0xBF, by simp [lead?], by omega⟩
  by_cases hthirteen : a = 13
  · subst hthirteen
    exact ⟨0x80, 0x9F, by simp [lead?], by omega⟩
  have hrange : 0xE1 ≤ 0xE0 + a ∧ 0xE0 + a ≤ 0xEF := by omega
  exact ⟨0x80, 0xBF, by simp [lead?, htwo, hzero, hrange]; omega, by omega⟩

theorem exists_lead?_four (offset : Nat) {a : Nat} (ha : a ≤ 4) (hd : d < 64) (hshort : a = 0 → 16 ≤ d)
    (hbeyond : a = 4 → d < 16) :
    ∃ low high, lead? offset (0xF0 + a) = some (.tail offset 3 low high a) ∧
      low ≤ 0x80 + d ∧ 0x80 + d ≤ high := by
  by_cases hzero : a = 0
  · subst hzero
    exact ⟨0x90, 0xBF, by simp [lead?], by omega⟩
  by_cases hfour : a = 4
  · subst hfour
    exact ⟨0x80, 0x8F, by simp [lead?], by omega⟩
  have hone : a = 1 ∨ a = 2 ∨ a = 3 := by omega
  refine ⟨0x80, 0xBF, ?_, by omega⟩
  rcases hone with rfl | rfl | rfl <;> rfl

/-! Reading them -/

variable {c : CodePoint}

theorem run_two (hlow : 0x80 ≤ c.val) (hhigh : c.val < 0x800) :
    run pass .start offset read (encodePoint c ++ rest) =
      run pass .start (offset + 2) (c :: read) rest := by
  have hvalue : c.val / 64 * 64 + c.val % 64 = c.val := by omega
  rw [encodePoint_two hlow hhigh, List.cons_append, run_lead (by omega) (lead?_two (by omega)),
    List.singleton_append, run_last (by omega) (by omega), hvalue, c.ofNat_self]

theorem run_three (hc : pass = true ∨ c.isSurrogate = false) (hlow : 0x800 ≤ c.val)
    (hhigh : c.val < 0x10000) :
    run pass .start offset read (encodePoint c ++ rest) =
      run pass .start (offset + 3) (c :: read) rest := by
  have hvalue : (c.val / 4096 * 64 + c.val / 64 % 64) * 64 + c.val % 64 = c.val := by omega
  simp only [encodePoint_three hlow hhigh, List.cons_append, List.nil_append]
  cases hsurrogate : c.isSurrogate with
  | true =>
    obtain rfl : pass = true := by simpa [hsurrogate] using hc
    simp only [CodePoint.isSurrogate, Bool.and_eq_true, decide_eq_true_eq] at hsurrogate
    have ha : c.val / 4096 = 13 := by omega
    rw [ha] at hvalue ⊢
    rw [run_lead (s := .tail offset 2 0x80 0x9F 13) (by omega) rfl, run_surrogate (by omega) (by omega),
      hvalue, c.ofNat_self]
  | false =>
    rw [CodePoint.isSurrogate_eq_false] at hsurrogate
    obtain ⟨low, high, hlead, hrange⟩ := exists_lead?_three offset
      (a := c.val / 4096) (d := c.val / 64 % 64) (by omega) (by omega) (by omega) (by omega)
    rw [run_lead (by omega) hlead, run_tail (by omega) (by omega) hrange,
      run_last (by omega) (by omega), hvalue, c.ofNat_self]

theorem run_four (hlow : 0x10000 ≤ c.val) :
    run pass .start offset read (encodePoint c ++ rest) =
      run pass .start (offset + 4) (c :: read) rest := by
  have hbound := c.val_lt
  have hvalue : ((c.val / 262144 * 64 + c.val / 4096 % 64) * 64 + c.val / 64 % 64) * 64 +
      c.val % 64 = c.val := by omega
  obtain ⟨low, high, hlead, hrange⟩ := exists_lead?_four offset
    (a := c.val / 262144) (d := c.val / 4096 % 64) (by omega) (by omega) (by omega) (by omega)
  simp only [encodePoint_four hlow, List.cons_append, List.nil_append]
  rw [run_lead (by omega) hlead, run_tail (by omega) (by omega) hrange,
    run_tail (by omega) (by omega) (by omega), run_last (by omega) (by omega), hvalue, c.ofNat_self]

/-- The bytes of a code point are read as that code point, a surrogate only where it is passed. -/
theorem run_encodePoint (hc : pass = true ∨ c.isSurrogate = false) (offset : Nat) (read : Text)
    (rest : Bytes) :
    ∃ offset', run pass .start offset read (encodePoint c ++ rest) =
      run pass .start offset' (c :: read) rest := by
  rcases Nat.lt_or_ge c.val 0x80 with h1 | h1
  · refine ⟨offset + 1, ?_⟩
    rw [encodePoint_ascii h1, List.singleton_append, run, toNat_ofNat (by omega)]
    simp only [step, h1, if_true, c.ofNat_self]
  rcases Nat.lt_or_ge c.val 0x800 with h2 | h2
  · exact ⟨offset + 2, run_two h1 h2⟩
  rcases Nat.lt_or_ge c.val 0x10000 with h3 | h3
  · exact ⟨offset + 3, run_three hc h2 h3⟩
  · exact ⟨offset + 4, run_four h3⟩

theorem run_encodePassing {t : Text} (h : ∀ c ∈ t, pass = true ∨ c.isSurrogate = false)
    (offset : Nat) (read : Text) :
    run pass .start offset read (encodePassing t) = .ok (read.reverse ++ t) := by
  induction t generalizing offset read with
  | nil => simp [encodePassing, run]
  | cons c t ih =>
    obtain ⟨hc, ht⟩ := List.forall_mem_cons.mp h
    obtain ⟨offset', hstep⟩ := run_encodePoint hc offset read (encodePassing t)
    rw [encodePassing, List.flatMap_cons, ← encodePassing, hstep, ih ht]
    simp

/-- Any text is read from the bytes in which its surrogates are passed. -/
theorem decodePassing_encodePassing (t : Text) : decodePassing (encodePassing t) = .ok t := by
  rw [decodePassing, run_encodePassing fun _ _ => .inl rfl]
  rfl

/-- A text without surrogates is read from its bytes. -/
theorem decode_encodePassing {t : Text} (h : ∀ c ∈ t, c.isSurrogate = false) :
    decode (encodePassing t) = .ok t := by
  rw [decode, run_encodePassing fun c hc => .inr (h c hc)]
  rfl

end JsonTypings.Encoding.Utf8
