import JsonTypings.CodePoint
import Mathlib.Data.Char

/-! Code points of characters, of decimal digits and of hexadecimal digits, and surrogates. -/
namespace JsonTypings.CodePoint

@[simp] theorem ofChar_inj {a b : Char} : ofChar a = ofChar b ↔ a = b := by
  constructor
  · intro h
    exact Char.toNat_inj.mp (congrArg val h)
  · rintro rfl
    rfl

/-- The digits are the numbers below ten. -/
theorem digit?_eq_some {c : CodePoint} {d : Nat} :
    c.digit? = some d ↔ ∃ e : Fin 10, c = ofDigit e ∧ d = e := by
  constructor
  · intro h
    unfold digit? at h
    split at h
    · rename_i hc
      simp only [Bool.and_eq_true, decide_eq_true_eq] at hc
      obtain rfl := Option.some.inj h
      refine ⟨⟨c.val - 0x30, by omega⟩, ?_, rfl⟩
      rw [ofDigit, Nat.add_sub_cancel' hc.1, ofNat_self]
    · cases h
  · rintro ⟨e, rfl, rfl⟩
    exact digit?_ofDigit e e.isLt

@[simp] theorem digit?_ofDigit_fin (e : Fin 10) : (ofDigit e).digit? = some e.val :=
  digit?_ofDigit e e.isLt

theorem exists_of_hexDigit? {c : CodePoint} {d : Nat} (h : c.hexDigit? = some d) :
    ∃ e : Fin 16, d = e := by
  unfold hexDigit? at h
  have hd : d < 16 := by
    repeat' split at h
    all_goals simp only [Option.some.injEq, Bool.and_eq_true, decide_eq_true_eq, reduceCtorEq] at *
    all_goals omega
  exact ⟨⟨d, hd⟩, rfl⟩

theorem isSurrogate_eq_false {c : CodePoint} :
    c.isSurrogate = false ↔ c.val < 0xD800 ∨ 0xE000 ≤ c.val := by
  simp only [isSurrogate, Bool.and_eq_false_iff, decide_eq_false_iff_not]
  omega

/-- A surrogate pair stands for no surrogate. -/
theorem not_isHighSurrogate_joinSurrogates {high low : CodePoint} (hhigh : high.isHighSurrogate)
    (hlow : low.isLowSurrogate) : (high.joinSurrogates low).isHighSurrogate = false := by
  simp only [isHighSurrogate, isLowSurrogate, Bool.and_eq_true, decide_eq_true_eq] at hhigh hlow
  have hbound : 0x10000 + (high.val - 0xD800) * 0x400 + (low.val - 0xDC00) < 0x110000 := by omega
  have hval := ofNat_val hbound
  simp only [isHighSurrogate, joinSurrogates, hval, Bool.and_eq_false_iff, decide_eq_false_iff_not]
  omega

end JsonTypings.CodePoint
