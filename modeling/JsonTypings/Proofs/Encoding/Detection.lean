import JsonTypings.Encoding.Detection
import JsonTypings.Proofs.Encoding.Utf8
import JsonTypings.Proofs.Encoding.Wide

/-! The encoding of a text is told from its bytes, with or without a byte order mark, as soon as the
text begins with ASCII and neither of its first two code points is null. Then the text itself comes
back. -/
namespace JsonTypings.Encoding

namespace Scheme

/-- The bytes of a text. Surrogates are written like other code points. -/
def encode : Scheme → Text → Bytes
  | utf8 => Utf8.encodePassing
  | utf16 o => Utf16.encode o
  | utf32 o => Utf32.encode o

/-- The byte order mark, a code point that may stand before a text. -/
def mark (s : Scheme) : Bytes := s.encode [CodePoint.ofNat 0xFEFF]

theorem encode_cons (s : Scheme) (c : CodePoint) (t : Text) :
    s.encode (c :: t) = s.encode [c] ++ s.encode t := by
  cases s <;> simp [encode, Utf8.encodePassing, Utf16.encode, Utf32.encode]

end Scheme

/-- A text that begins with ASCII, and with no null in the first two places. -/
def OpensPlainly (t : Text) : Prop :=
  ∃ c rest, t = c :: rest ∧ (0 < c.val ∧ c.val < 0x80) ∧ ∀ d ∈ rest.head?, 0 < d.val

/-- A byte that is an ASCII character, but no null. -/
def IsAscii (b : UInt8) : Prop := 0 < b.toNat ∧ b.toNat < 0x80

variable {a b : UInt8} {rest : Bytes}

theorem isAscii_ofNat {n : Nat} (h : 0 < n ∧ n < 0x80) : IsAscii (UInt8.ofNat n) := by
  rw [IsAscii, Utf8.toNat_ofNat (by omega)]
  exact h

namespace IsAscii

theorem ne_zero (h : IsAscii b) : b ≠ 0 := by
  rintro rfl
  exact absurd h.1 (by decide)

theorem ne_of_large (h : IsAscii b) (ha : 0x80 ≤ a.toNat) : a ≠ b := by
  rintro rfl
  exact absurd h.2 (Nat.not_lt.mpr ha)

end IsAscii

/-! No text of that kind begins like a mark. -/

theorem ofMark?_ascii (h : IsAscii b) (rest : Bytes) : ofMark? (b :: rest) = none := by
  have hzero : ¬ 0 = b := h.ne_zero.symm
  have hfe : ¬ 0xFE = b := h.ne_of_large (by decide)
  have hff : ¬ 0xFF = b := h.ne_of_large (by decide)
  have hef : ¬ 0xEF = b := h.ne_of_large (by decide)
  simp [ofMark?, hzero, hfe, hff, hef]

theorem ofMark?_zero_ascii (h : IsAscii b) (rest : Bytes) : ofMark? (0 :: b :: rest) = none := by
  have hzero : ¬ 0 = b := h.ne_zero.symm
  simp [ofMark?, hzero]

theorem ofMark?_zeros (rest : Bytes) : ofMark? (0 :: 0 :: 0 :: rest) = none := by
  simp [ofMark?]

/-! Where the zeros are -/

theorem ofZeros_utf8 (h : IsAscii a) (hrest : ∀ x ∈ rest.head?, x ≠ 0) : ofZeros (a :: rest) = .utf8 := by
  match rest, hrest with
  | [], _ => rfl
  | [x], hrest => simp [ofZeros, h.ne_zero, hrest x rfl]
  | [x, y], _ => rfl
  | x :: y :: z :: rest, hrest => simp [ofZeros, h.ne_zero, hrest x rfl]

/-- Two by two the bytes are not both zero, as far as the first two go. -/
def PairNonzero : Bytes → Prop
  | x :: y :: _ => ¬ (x = 0 ∧ y = 0)
  | [_] => False
  | [] => True

theorem ofZeros_utf16_little (h : IsAscii a) (hrest : PairNonzero rest) :
    ofZeros (a :: 0 :: rest) = .utf16 .little := by
  match rest, hrest with
  | [], _ => simp [ofZeros, h.ne_zero]
  | x :: y :: rest, hrest => simp only [ofZeros, h.ne_zero, if_false, if_true, if_neg hrest]

theorem ofZeros_utf16_big (h : IsAscii a) (hrest : PairNonzero rest) :
    ofZeros (0 :: a :: rest) = .utf16 .big := by
  match rest, hrest with
  | [], _ => simp [ofZeros]
  | x :: y :: rest, _ => simp [ofZeros, h.ne_zero]

/-! What follows the first code point -/

theorem head_encodePoint_ne_zero {c : CodePoint} (hc : 0 < c.val) :
    ∃ b rest, Utf8.encodePoint c = b :: rest ∧ b ≠ 0 := by
  have hbound := c.val_lt
  have hne {n : Nat} (h : 0 < n ∧ n < 256) : UInt8.ofNat n ≠ 0 := by
    intro hn
    have hval := Utf8.toNat_ofNat h.2
    rw [hn] at hval
    exact absurd h.1 (hval ▸ by decide)
  rcases Nat.lt_or_ge c.val 0x80 with h1 | h1
  · exact ⟨_, _, Utf8.encodePoint_ascii h1, hne (by omega)⟩
  rcases Nat.lt_or_ge c.val 0x800 with h2 | h2
  · exact ⟨_, _, Utf8.encodePoint_two h1 h2, hne (by omega)⟩
  rcases Nat.lt_or_ge c.val 0x10000 with h3 | h3
  · exact ⟨_, _, Utf8.encodePoint_three h2 h3, hne (by omega)⟩
  · exact ⟨_, _, Utf8.encodePoint_four h3, hne (by omega)⟩

theorem head_encodePassing_ne_zero {t : Text} (h : ∀ d ∈ t.head?, 0 < d.val) :
    ∀ x ∈ (Utf8.encodePassing t).head?, x ≠ 0 := by
  cases t with
  | nil => simp [Utf8.encodePassing]
  | cons d t =>
    obtain ⟨b, more, hbytes, hb⟩ := head_encodePoint_ne_zero (h d rfl)
    simpa [Utf8.encodePassing, hbytes] using hb

theorem pairNonzero_spell (o : ByteOrder) {n : Nat} (hn : 0 < n ∧ n < 0x10000) (rest : Bytes) :
    PairNonzero (o.spell 2 n ++ rest) := by
  obtain ⟨x, y, hbytes⟩ := o.spell_two n
  have hvalue := o.value_spell 2 hn.2
  rw [hbytes] at hvalue ⊢
  rintro ⟨rfl, rfl⟩
  have hzero : o.value [0, 0] = 0 := by cases o <;> rfl
  omega

theorem pairNonzero_encode (o : ByteOrder) {t : Text} (h : ∀ d ∈ t.head?, 0 < d.val) :
    PairNonzero (Utf16.encode o t) := by
  cases t with
  | nil => trivial
  | cons d t =>
    have hd := h d rfl
    rw [Utf16.encode, List.flatMap_cons, List.flatMap_append, Utf16.unitsOf]
    split_ifs with hsmall
    · rw [List.flatMap_singleton]
      exact pairNonzero_spell o ⟨hd, hsmall⟩ _
    · have hhigh := (Json.isHighSurrogate_splitSurrogates (Nat.not_lt.mp hsmall)).1
      simp only [CodePoint.isHighSurrogate, Bool.and_eq_true, decide_eq_true_eq] at hhigh
      have hunit : 0 < d.splitSurrogates.1.val ∧ d.splitSurrogates.1.val < 0x10000 :=
        ⟨Nat.lt_of_lt_of_le (by decide) hhigh.1, Nat.lt_trans hhigh.2 (by decide)⟩
      rw [List.flatMap_cons, List.append_assoc]
      exact pairNonzero_spell o hunit _

/-! Detection -/

/-- The bytes of a character of ASCII. -/
def Scheme.asciiBytes : Scheme → UInt8 → Bytes
  | utf8, b => [b]
  | utf16 .little, b => [b, 0]
  | utf16 .big, b => [0, b]
  | utf32 .little, b => [b, 0, 0, 0]
  | utf32 .big, b => [0, 0, 0, b]

theorem Scheme.encode_ascii (s : Scheme) {c : CodePoint} (hc : c.val < 0x80) :
    s.encode [c] = s.asciiBytes (UInt8.ofNat c.val) := by
  have hlow : c.val % 256 = c.val := by omega
  have hhigh : c.val / 256 = 0 := by omega
  have hunits : Utf16.unitsOf c = [c] := if_pos (by omega)
  match s with
  | utf8 => simp [encode, asciiBytes, Utf8.encodePassing, Utf8.encodePoint_ascii hc]
  | utf16 .little | utf16 .big =>
    simp [encode, asciiBytes, Utf16.encode, hunits, ByteOrder.spell, ByteOrder.bigEndian, hlow, hhigh]
  | utf32 .little | utf32 .big =>
    simp [encode, asciiBytes, Utf32.encode, ByteOrder.spell, ByteOrder.bigEndian, hlow, hhigh]

/-- Without a mark the zeros tell the encoding. -/
theorem detect_encode (s : Scheme) {t : Text} (h : OpensPlainly t) : detect (s.encode t) = (s, 0) := by
  obtain ⟨c, rest, rfl, hc, hrest⟩ := h
  have hascii := isAscii_ofNat hc
  rw [Scheme.encode_cons, Scheme.encode_ascii s hc.2, detect]
  match s with
  | .utf8 =>
    rw [Scheme.asciiBytes, List.singleton_append, ofMark?_ascii hascii]
    exact congrArg (·, 0) (ofZeros_utf8 hascii (head_encodePassing_ne_zero hrest))
  | .utf16 .little =>
    rw [Scheme.asciiBytes, List.cons_append, List.singleton_append, ofMark?_ascii hascii]
    exact congrArg (·, 0) (ofZeros_utf16_little hascii (pairNonzero_encode .little hrest))
  | .utf16 .big =>
    rw [Scheme.asciiBytes, List.cons_append, List.singleton_append, ofMark?_zero_ascii hascii]
    exact congrArg (·, 0) (ofZeros_utf16_big hascii (pairNonzero_encode .big hrest))
  | .utf32 .little =>
    rw [Scheme.asciiBytes, List.cons_append, ofMark?_ascii hascii]
    simp [ofZeros, hascii.ne_zero]
  | .utf32 .big =>
    rw [Scheme.asciiBytes, List.cons_append, List.cons_append, List.cons_append, ofMark?_zeros]
    simp [ofZeros]

/-- A mark tells the encoding. That of UTF-16 is not taken for the longer one of UTF-32, as no null
follows it. -/
theorem detect_mark (s : Scheme) {t : Text} (h : OpensPlainly t) :
    detect (s.mark ++ s.encode t) = (s, s.mark.length) := by
  obtain ⟨c, rest, rfl, hc, -⟩ := h
  have hzero := (isAscii_ofNat hc).ne_zero.symm
  rw [Scheme.encode_cons, Scheme.encode_ascii s hc.2, detect]
  match s with
  | .utf8 => rfl
  | .utf16 .little =>
    have hmark : Scheme.mark (.utf16 .little) = [0xFF, 0xFE] := rfl
    simp [hmark, Scheme.asciiBytes, ofMark?, hzero]
  | .utf16 .big => rfl
  | .utf32 .little => rfl
  | .utf32 .big => rfl

/-- A text comes back from its bytes, with or without a mark. -/
theorem decodeDetected_encode (s : Scheme) {t : Text} (h : OpensPlainly t) (hpaired : t.Unpaired) :
    decodeDetected (s.encode t) = .ok t ∧ decodeDetected (s.mark ++ s.encode t) = .ok t := by
  have hbody : ∀ {bytes : Bytes} {n : Nat}, detect bytes = (s, n) → bytes.drop n = s.encode t →
      decodeDetected bytes = .ok t := by
    intro bytes n hdetect hdrop
    rw [decodeDetected, hdetect]
    dsimp only
    rw [hdrop]
    cases s with
    | utf8 => exact Utf8.decodePassing_encodePassing t
    | utf16 o => simp only [Scheme.encode, Utf16.decode_encode o hpaired, Except.mapError]
    | utf32 o => simp only [Scheme.encode, Utf32.decode_encode o t, Except.mapError]
  exact ⟨hbody (detect_encode s h) rfl, hbody (detect_mark s h) (List.drop_left)⟩

end JsonTypings.Encoding
