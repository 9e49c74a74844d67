import JsonTypings.Encoding.Wide
import JsonTypings.Proofs.Json.Escaping

/-! Writing UTF-16 and UTF-32 in both byte orders, which reading undoes. In UTF-16 two surrogates in a
row may look like a pair, so there must be none that do. -/
namespace JsonTypings.Encoding

namespace ByteOrder

/-- The bytes of a number, the one that counts most first. -/
def bigEndian : (width n : Nat) → Bytes
  | 0, _ => []
  | width + 1, n => bigEndian width (n / 256) ++ [UInt8.ofNat (n % 256)]

/-- The bytes of a number in some order. -/
def spell (o : ByteOrder) (width n : Nat) : Bytes :=
  match o with
  | little => (bigEndian width n).reverse
  | big => bigEndian width n

theorem foldl_bigEndian {width n : Nat} (h : n < Nat.pow 256 width) :
    (bigEndian width n).foldl (fun n b => n * 256 + b.toNat) 0 = n := by
  induction width generalizing n with
  | zero =>
    have hn : n < 1 := h
    obtain rfl : n = 0 := by omega
    rfl
  | succ width ih =>
    have hquotient : n / 256 < Nat.pow 256 width := Nat.div_lt_of_lt_mul (Nat.mul_comm _ 256 ▸ h)
    have hbyte : (UInt8.ofNat (n % 256)).toNat = n % 256 := by
      rw [UInt8.toNat_ofNat', Nat.mod_eq_of_lt (Nat.mod_lt n (by decide))]
    rw [bigEndian, List.foldl_append, ih hquotient, List.foldl_cons, List.foldl_nil, hbyte]
    omega

/-- The number of the bytes of a number. -/
theorem value_spell (o : ByteOrder) (width : Nat) {n : Nat} (h : n < Nat.pow 256 width) :
    o.value (o.spell width n) = n := by
  cases o with
  | little => rw [spell, value, List.reverse_reverse, foldl_bigEndian h]
  | big => exact foldl_bigEndian h

theorem spell_two (o : ByteOrder) (n : Nat) : ∃ a b, o.spell 2 n = [a, b] := by
  cases o <;> exact ⟨_, _, rfl⟩

theorem spell_four (o : ByteOrder) (n : Nat) : ∃ a b c d, o.spell 4 n = [a, b, c, d] := by
  cases o <;> exact ⟨_, _, _, _, rfl⟩

end ByteOrder

namespace Utf16

/-- The units of a code point: itself, or a surrogate pair beyond U+FFFF. -/
def unitsOf (c : CodePoint) : Text :=
  if c.val < 0x10000 then [c] else [c.splitSurrogates.1, c.splitSurrogates.2]

/-- The bytes of a text. Surrogates are written like other code points. -/
def encode (o : ByteOrder) (t : Text) : Bytes := (t.flatMap unitsOf).flatMap fun u => o.spell 2 u.val

theorem units_flatMap_spell (o : ByteOrder) {us : Text} (h : ∀ u ∈ us, u.val < 0x10000)
    (offset : Nat) : units o offset (us.flatMap fun u => o.spell 2 u.val) = .ok us := by
  induction us generalizing offset with
  | nil => rfl
  | cons u us ih =>
    obtain ⟨hu, hus⟩ := List.forall_mem_cons.mp h
    obtain ⟨a, b, hbytes⟩ := o.spell_two u.val
    have hvalue := o.value_spell 2 hu
    rw [hbytes] at hvalue
    rw [List.flatMap_cons, hbytes, List.cons_append, List.singleton_append, units, ih hus]
    simp only [hvalue, CodePoint.ofNat_self]

theorem val_lt_of_mem_unitsOf {c u : CodePoint} (h : u ∈ unitsOf c) : u.val < 0x10000 := by
  unfold unitsOf at h
  split_ifs at h with hc
  · rwa [List.mem_singleton.mp h]
  · obtain ⟨hhigh, hlow⟩ := Json.isHighSurrogate_splitSurrogates (Nat.not_lt.mp hc)
    simp only [CodePoint.isHighSurrogate, CodePoint.isLowSurrogate, Bool.and_eq_true,
      decide_eq_true_eq] at hhigh hlow
    simp only [List.mem_cons, List.not_mem_nil, or_false] at h
    rcases h with h | h <;> rw [h]
    · exact Nat.lt_trans hhigh.2 (by decide)
    · exact Nat.lt_trans hlow.2 (by decide)

/-- The units of a text begin with a low surrogate only if the text does. -/
theorem isLowSurrogate_of_head_units {t : Text} {d : CodePoint}
    (hd : d ∈ (t.flatMap unitsOf).head?) (hlow : d.isLowSurrogate = true) :
    ∃ e ∈ t.head?, e.isLowSurrogate = true := by
  cases t with
  | nil => cases hd
  | cons c t =>
    refine ⟨c, rfl, ?_⟩
    rw [List.flatMap_cons, unitsOf] at hd
    split_ifs at hd with hc
    · obtain rfl : c = d := by simpa using hd
      exact hlow
    · obtain rfl : c.splitSurrogates.1 = d := by simpa using hd
      have hhigh := (Json.isHighSurrogate_splitSurrogates (Nat.not_lt.mp hc)).1
      simp only [CodePoint.isHighSurrogate, CodePoint.isLowSurrogate, Bool.and_eq_true,
        decide_eq_true_eq] at hhigh hlow
      omega

theorem joinPairs_cons {c : CodePoint} {us : Text}
    (h : ∀ d ∈ us.head?, ¬ (c.isHighSurrogate = true ∧ d.isLowSurrogate = true)) :
    joinPairs (c :: us) = c :: joinPairs us := by
  cases us with
  | nil => rfl
  | cons d us =>
    rw [joinPairs, if_neg]
    simpa using h d rfl

/-- Joining the pairs of the units gives the text, where no other surrogates look like a pair. -/
theorem joinPairs_flatMap_unitsOf {t : Text} (h : t.Unpaired) : joinPairs (t.flatMap unitsOf) = t := by
  induction t with
  | nil => rfl
  | cons c t ih =>
    rw [List.flatMap_cons, unitsOf]
    split_ifs with hc
    · have halone : ∀ d ∈ (t.flatMap unitsOf).head?,
          ¬ (c.isHighSurrogate = true ∧ d.isLowSurrogate = true) := by
        rintro d hd ⟨hhigh, hlow⟩
        obtain ⟨e, he, helow⟩ := isLowSurrogate_of_head_units hd hlow
        exact (List.isChain_cons.mp h).1 e he ⟨hhigh, helow⟩
      rw [List.singleton_append, joinPairs_cons halone, ih h.tail]
    · have hlarge : 0x10000 ≤ c.val := Nat.not_lt.mp hc
      obtain ⟨hhigh, hlow⟩ := Json.isHighSurrogate_splitSurrogates hlarge
      rw [List.cons_append, List.singleton_append, joinPairs, if_pos (by simp [hhigh, hlow]),
        CodePoint.joinSurrogates_splitSurrogates c hlarge, ih h.tail]

/-- A text without such surrogates is read from its bytes. -/
theorem decode_encode (o : ByteOrder) {t : Text} (h : t.Unpaired) : decode o (encode o t) = .ok t := by
  have hunits : ∀ u ∈ t.flatMap unitsOf, u.val < 0x10000 := by
    intro u hu
    obtain ⟨c, -, hc⟩ := List.mem_flatMap.mp hu
    exact val_lt_of_mem_unitsOf hc
  rw [decode, encode, units_flatMap_spell o hunits, Except.map, joinPairs_flatMap_unitsOf h]

end Utf16

namespace Utf32

/-- The bytes of a text. Surrogates are written like other code points. -/
def encode (o : ByteOrder) (t : Text) : Bytes := t.flatMap fun c => o.spell 4 c.val

theorem decodeFrom_encode (o : ByteOrder) (offset : Nat) (t : Text) :
    decodeFrom o offset (encode o t) = .ok t := by
  induction t generalizing offset with
  | nil => rfl
  | cons c t ih =>
    have hbound : c.val < 0x110000 := c.val_lt
    obtain ⟨b₁, b₂, b₃, b₄, hbytes⟩ := o.spell_four c.val
    have hvalue := o.value_spell 4 (Nat.lt_trans hbound (by decide))
    rw [hbytes] at hvalue
    rw [encode, List.flatMap_cons, ← encode, hbytes]
    simp only [List.cons_append, List.nil_append, decodeFrom, hvalue, hbound, if_true, ih,
      CodePoint.ofNat_self]

/-- Any text is read from its bytes. -/
theorem decode_encode (o : ByteOrder) (t : Text) : decode o (encode o t) = .ok t :=
  decodeFrom_encode o 0 t

end Utf32

end JsonTypings.Encoding
