import JsonTypings.Json.Writer
import JsonTypings.Proofs.CodePoint.Digits
import JsonTypings.Proofs.Json.Grammar
import Mathlib.Data.List.Chain

/-! A quoted text is a string that stands for the text, as long as no two of its code points could
be taken for a surrogate pair. -/
namespace JsonTypings

/-- No high surrogate stands directly before a low one. -/
def Text.Unpaired (t : Text) : Prop :=
  t.IsChain fun c d => ¬ (c.isHighSurrogate = true ∧ d.isLowSurrogate = true)

instance (t : Text) : Decidable t.Unpaired :=
  inferInstanceAs (Decidable (t.IsChain fun c d => ¬ (c.isHighSurrogate = true ∧ d.isLowSurrogate = true)))

/-- A text without surrogates, as every ASCII text is one. -/
theorem Text.unpaired_of_ascii {t : Text} (h : ∀ c ∈ t, c.val < 0x80) : t.Unpaired := by
  induction t with
  | nil => exact List.isChain_nil
  | cons c t ih =>
    obtain ⟨hc, ht⟩ := List.forall_mem_cons.mp h
    refine List.IsChain.cons (ih ht) fun d _ hboth => ?_
    simp only [CodePoint.isHighSurrogate, Bool.and_eq_true, decide_eq_true_eq] at hboth
    omega

namespace Json

/-- The units that stand for one code point: a single one, or two escaped halves of it. -/
inductive Spells : CodePoint → List StringUnit → Prop
  | one (u : StringUnit) : Spells u.codePoint [u]
  | pair {high low : StringUnit} (h : high.joins low = true) :
    Spells (high.codePoint.joinSurrogates low.codePoint) [high, low]

/-- Any code point below U+10000 has an escape of four digits. -/
theorem exists_unicode {c : CodePoint} (hc : c.val < 0x10000) :
    ∃ u : StringUnit, u.isUnicode = true ∧ u.text = unicodeEscape c ∧ u.codePoint = c := by
  have hmod (n : Nat) : n % 16 < 16 := Nat.mod_lt n (by decide)
  let values : List (Fin 16) :=
    [⟨c.val / 16 / 16 / 16 % 16, hmod _⟩, ⟨c.val / 16 / 16 % 16, hmod _⟩,
      ⟨c.val / 16 % 16, hmod _⟩, ⟨c.val % 16, hmod _⟩]
  have hspelled : (Text.hex 4 c.val).map CodePoint.hexDigit? = values.map fun d => some d.val := by
    simp [Text.hex, values, CodePoint.hexDigit?_ofHexDigit, hmod]
  refine ⟨.unicode (Text.hex 4 c.val) values rfl hspelled, rfl, rfl, ?_⟩
  have hvalue : Nat.ofDigits 16 (values.reverse.map Fin.val) = c.val := by
    simp only [values, List.reverse_cons, List.reverse_nil, List.nil_append, List.cons_append,
      List.map_cons, List.map_nil, Nat.ofDigits_cons, Nat.ofDigits_nil]
    omega
  rw [StringUnit.codePoint, hvalue, CodePoint.ofNat_self]

theorem isHighSurrogate_splitSurrogates {c : CodePoint} (hc : 0x10000 ≤ c.val) :
    c.splitSurrogates.1.isHighSurrogate = true ∧ c.splitSurrogates.2.isLowSurrogate = true := by
  have hbound := c.val_lt
  have hhigh : 0xD800 + (c.val - 0x10000) / 0x400 < 0x110000 := by omega
  have hlow : 0xDC00 + (c.val - 0x10000) % 0x400 < 0x110000 := by omega
  simp only [CodePoint.isHighSurrogate, CodePoint.isLowSurrogate, CodePoint.splitSurrogates,
    CodePoint.ofNat_val hhigh,
    CodePoint.ofNat_val hlow, Bool.and_eq_true, decide_eq_true_eq]
  omega

/-- A code point is written as a letter behind a backslash, as itself, or by one or two escapes of
four digits. -/
theorem escape_cases (c : CodePoint) :
    (∃ letter, (letter, c) ∈ shortEscapes ∧ escape c = [CodePoint.ofChar '\\', letter]) ∨
    (0x20 ≤ c.val ∧ c.val < 0x7F ∧ (c ≠ '"' ∧ c ≠ '\\') ∧ escape c = [c]) ∨
    (c.val < 0x10000 ∧ escape c = unicodeEscape c) ∨
    (0x10000 ≤ c.val ∧
      escape c = unicodeEscape c.splitSurrogates.1 ++ unicodeEscape c.splitSurrogates.2) := by
  have hshort {meaning : CodePoint} (hc : c = meaning) (letter : CodePoint)
      (h : (letter, meaning) ∈ shortEscapes) :
      ∃ l, (l, c) ∈ shortEscapes ∧ [CodePoint.ofChar '\\', letter] = [CodePoint.ofChar '\\', l] :=
    ⟨letter, by rwa [hc], rfl⟩
  generalize hescape : escape c = t
  unfold escape at hescape
  split_ifs at hescape with hquote hbackslash hfeed hreturn htab hback hform hvisible hsmall
  all_goals subst hescape
  · exact .inl (hshort hquote '"' (by decide))
  · exact .inl (hshort hbackslash '\\' (by decide))
  · exact .inl (hshort hfeed 'n' (by decide))
  · exact .inl (hshort hreturn 'r' (by decide))
  · exact .inl (hshort htab 't' (by decide))
  · exact .inl (hshort hback 'b' (by decide))
  · exact .inl (hshort hform 'f' (by decide))
  · simp only [Bool.and_eq_true, decide_eq_true_eq] at hvisible
    exact .inr (.inl ⟨hvisible.1, hvisible.2, ⟨hquote, hbackslash⟩, rfl⟩)
  · exact .inr (.inr (.inl ⟨hsmall, rfl⟩))
  · exact .inr (.inr (.inr ⟨Nat.not_lt.mp hsmall, rfl⟩))

/-- The escape of a code point is made of units that stand for it. -/
theorem exists_spells (c : CodePoint) :
    ∃ us, Spells c us ∧ us.flatMap StringUnit.text = escape c := by
  obtain ⟨letter, hletter, hescape⟩ | ⟨hvisible, -, hunquoted, hescape⟩ | ⟨hsmall, hescape⟩ |
    ⟨hlarge, hescape⟩ := escape_cases c
  all_goals rw [hescape]
  · exact ⟨_, .one (.short letter c hletter), rfl⟩
  · exact ⟨_, .one (.plain c hvisible hunquoted), rfl⟩
  · obtain ⟨u, -, htext, hu⟩ := exists_unicode hsmall
    have hspells := Spells.one u
    rw [hu] at hspells
    exact ⟨_, hspells, by simpa using htext⟩
  · obtain ⟨hhigh, hlow⟩ := isHighSurrogate_splitSurrogates hlarge
    have hsurrogate {d : CodePoint} (hd : d.isHighSurrogate = true ∨ d.isLowSurrogate = true) :
        d.val < 0x10000 := by
      simp only [CodePoint.isHighSurrogate, CodePoint.isLowSurrogate, Bool.and_eq_true,
        decide_eq_true_eq] at hd
      omega
    obtain ⟨u, hu, hutext, hucode⟩ := exists_unicode (hsurrogate (.inl hhigh))
    obtain ⟨w, hw, hwtext, hwcode⟩ := exists_unicode (hsurrogate (.inr hlow))
    have hjoins : u.joins w = true := by
      simp [StringUnit.joins, hu, hw, hucode, hwcode, hhigh, hlow]
    have hspells := Spells.pair hjoins
    rw [hucode, hwcode, CodePoint.joinSurrogates_splitSurrogates c hlarge] at hspells
    exact ⟨_, hspells, by simp [hutext, hwtext]⟩

/-- Two units that do not join stand for their own code points. -/
theorem contents_cons {u : StringUnit} {us : List StringUnit}
    (h : ∀ w ∈ us.head?, u.joins w = false) :
    StringUnit.contents (u :: us) = u.codePoint :: StringUnit.contents us := by
  cases us with
  | nil => rfl
  | cons w us => simp [StringUnit.contents, h w rfl]

/-- What a text is written as between quotes stands for the text. Its first unit is half of a pair
that began before only if the first code point is. -/
theorem exists_units {t : Text} (h : t.Unpaired) :
    ∃ us, us.flatMap StringUnit.text = t.flatMap escape ∧ StringUnit.contents us = t ∧
      ∀ w ∈ us.head?, w.codePoint.isLowSurrogate = true → ∃ d ∈ t.head?, d.isLowSurrogate = true := by
  induction t with
  | nil => exact ⟨[], rfl, rfl, by simp⟩
  | cons c t ih =>
    obtain ⟨us, htext, hcontents, hhead⟩ := ih h.tail
    obtain ⟨first, hspells, hfirst⟩ := exists_spells c
    refine ⟨first ++ us, by simp [htext, hfirst], ?_⟩
    cases hspells with
    | one u =>
      have hjoins : ∀ w ∈ us.head?, u.joins w = false := by
        intro w hw
        rw [Bool.eq_false_iff]
        intro hj
        simp only [StringUnit.joins, Bool.and_eq_true] at hj
        obtain ⟨d, hd, hlow⟩ := hhead w hw hj.2
        exact (List.isChain_cons.mp h).1 d hd ⟨hj.1.2, hlow⟩
      refine ⟨by rw [List.singleton_append, contents_cons hjoins, hcontents], ?_⟩
      intro w hw hlow
      obtain rfl : u = w := by simpa using hw
      exact ⟨_, rfl, hlow⟩
    | @pair high low hjoins =>
      refine ⟨by simp [StringUnit.contents, hjoins, hcontents], ?_⟩
      intro w hw hlow
      obtain rfl : high = w := by simpa using hw
      simp only [StringUnit.joins, Bool.and_eq_true, CodePoint.isHighSurrogate,
        decide_eq_true_eq] at hjoins
      simp only [CodePoint.isLowSurrogate, Bool.and_eq_true, decide_eq_true_eq] at hlow
      omega

theorem exists_quote {t : Text} (h : t.Unpaired) :
    ∃ us, quote t = stringText us ∧ StringUnit.contents us = t := by
  obtain ⟨us, htext, hcontents, -⟩ := exists_units h
  refine ⟨us, ?_, hcontents⟩
  rw [quote, stringText, htext]
  rfl

end Json

end JsonTypings
