import JsonTypings.Proofs.CodePoint.Digits
import JsonTypings.Proofs.Json.Grammar

/-! Strings are read one code point at a time. Between two units the reader holds what the units so
far stand for, and it stops at a quote that no unit holds. -/
namespace JsonTypings.Json

theorem shortEscape?_eq_some {c d : CodePoint} :
    Quotation.shortEscape? c = some d ↔ (c, d) ∈ shortEscapes := by
  constructor
  · intro h
    unfold Quotation.shortEscape? at h
    repeat' split at h
    all_goals simp_all [shortEscapes]
  · intro h
    have hlisted : ∀ p ∈ shortEscapes, Quotation.shortEscape? p.1 = some p.2 := by decide
    exact hlisted _ h

namespace Quotation

/-- A string with one more unit. -/
def push (q : Quotation) (u : StringUnit) : Quotation :=
  if u.isUnicode then
    { q with content := addUnit q.endsInHighEscape q.content u.codePoint, phase := .afterUnicode }
  else { q with content := u.codePoint :: q.content, phase := .plain }

/-- A string that stands between two units. -/
def IsBetween (q : Quotation) : Prop := q.phase = .plain ∨ q.phase = .afterUnicode

theorem isBetween_push (q : Quotation) (u : StringUnit) : (q.push u).IsBetween := by
  unfold push
  split
  · exact .inr rfl
  · exact .inl rfl

theorem isBetween_foldl_push {q : Quotation} (h : q.IsBetween) (us : List StringUnit) :
    (us.foldl push q).IsBetween := by
  induction us generalizing q with
  | nil => exact h
  | cons u us ih => exact ih (isBetween_push q u)

theorem endsInHighEscape_push (q : Quotation) (u : StringUnit) :
    (q.push u).endsInHighEscape =
      (u.isUnicode && (q.push u).content.head?.any CodePoint.isHighSurrogate) := by
  unfold push
  split <;> simp_all [endsInHighEscape]

/-- A unit adds its code point, unless it is an escaped low surrogate behind an escaped high one. -/
theorem content_push {q : Quotation} {u : StringUnit}
    (h : q.endsInHighEscape = true → (u.isUnicode && u.codePoint.isLowSurrogate) = false) :
    (q.push u).content = u.codePoint :: q.content := by
  unfold push
  split
  · rename_i hu
    simp only [hu, Bool.true_and] at h
    unfold addUnit
    cases hcontent : q.content with
    | nil => rfl
    | cons high rest =>
      by_cases hq : q.endsInHighEscape = true
      · simp [hq, h hq]
      · simp [hq]
  · rfl

/-- What units add to a string that no surrogate pair connects with them. -/
theorem content_foldl_push (us : List StringUnit) {q : Quotation}
    (h : q.endsInHighEscape = true →
      ∀ u ∈ us.head?, (u.isUnicode && u.codePoint.isLowSurrogate) = false) :
    (us.foldl push q).content = (StringUnit.contents us).reverse ++ q.content := by
  fun_induction StringUnit.contents us generalizing q with
  | case1 => rfl
  | case2 u => simpa using content_push fun hq => h hq u rfl
  | case3 u w rest hjoins ih =>
    simp only [StringUnit.joins, Bool.and_eq_true] at hjoins
    obtain ⟨⟨⟨hu, hw⟩, hhigh⟩, hlow⟩ := hjoins
    have hcontent : (q.push u).content = u.codePoint :: q.content :=
      content_push fun hq => h hq u rfl
    have hends : (q.push u).endsInHighEscape = true := by
      simp [endsInHighEscape_push, hcontent, hu, hhigh]
    have hpair : ((q.push u).push w).content = u.codePoint.joinSurrogates w.codePoint :: q.content := by
      rw [push, if_pos hw]
      simp [addUnit, hcontent, hends, hlow]
    -- A pair is no high surrogate itself, so nothing joins with it.
    have hdone : ((q.push u).push w).endsInHighEscape = false := by
      have hjoined := CodePoint.not_isHighSurrogate_joinSurrogates hhigh hlow
      rw [endsInHighEscape_push, hpair, List.head?_cons, Option.any_some, hjoined, Bool.and_false]
    have hrest := ih (q := (q.push u).push w) (by simp [hdone])
    simp [hrest, hpair]
  | case4 u w rest hjoins ih =>
    have hcontent : (q.push u).content = u.codePoint :: q.content :=
      content_push fun hq => h hq u rfl
    have hrest := ih (q := q.push u) (by
      intro hends x hx
      obtain rfl : w = x := by simpa using hx
      rw [endsInHighEscape_push, hcontent] at hends
      simp only [StringUnit.joins] at hjoins
      simp_all)
    rw [List.foldl_cons, hrest, hcontent]
    simp

/-- What a string of some units holds when it is closed. -/
theorem content_units (opened : Nat) (us : List StringUnit) :
    (us.foldl push (start opened)).content.reverse = StringUnit.contents us := by
  rw [content_foldl_push us (q := start opened) (by intro h; cases h)]
  simp [start]

theorem step_quote {q : Quotation} (h : q.IsBetween) (offset : Nat) :
    q.step offset (CodePoint.ofChar '"') = .ok (.closed q.content.reverse) := by
  rcases h with h | h <;> simp [step, h, stepPlain]

/-- What was read of a string behind its opening quote: some units, and perhaps the beginning of an
escape. -/
inductive IsRead (opened : Nat) : Text → Quotation → Prop
  | units (us : List StringUnit) :
    IsRead opened (us.flatMap StringUnit.text) (us.foldl push (start opened))
  | backslash (us : List StringUnit) :
    IsRead opened (us.flatMap StringUnit.text ++ [CodePoint.ofChar '\\'])
      { us.foldl push (start opened) with
        phase := .backslash (us.foldl push (start opened)).endsInHighEscape }
  | unicode (us : List StringUnit) {digits : Text} {values : List (Fin 16)} (hfour : values.length < 4)
    (hspelled : digits.map CodePoint.hexDigit? = values.map fun d => some d.val) :
    IsRead opened (us.flatMap StringUnit.text ++ CodePoint.ofChar '\\' :: CodePoint.ofChar 'u' :: digits)
      { us.foldl push (start opened) with
        phase := .unicode (us.foldl push (start opened)).endsInHighEscape (values.reverse.map Fin.val) }

/-- The number of hexadecimal digits that are kept last first. -/
theorem foldr_hex_eq_ofDigits (values : List (Fin 16)) :
    (values.reverse.map Fin.val).foldr (fun d n => d + 16 * n) 0 =
      Nat.ofDigits 16 (values.reverse.map Fin.val) := by
  induction values.reverse.map Fin.val with
  | nil => rfl
  | cons d rest ih => rw [Nat.ofDigits_cons, ← ih]; rfl

namespace IsRead

variable {opened offset : Nat} {t : Text} {q q' : Quotation} {c : CodePoint}

/-- A unit that has come to its end. -/
theorem concat (us : List StringUnit) (u : StringUnit) :
    IsRead opened (us.flatMap StringUnit.text ++ u.text) ((us.foldl push (start opened)).push u) := by
  have hread : IsRead opened _ _ := .units (us ++ [u])
  simpa using hread

/-- A text and a reader of it go on together. -/
theorem step (h : IsRead opened t q) (hs : q.step offset c = .ok (.still q')) :
    IsRead opened (t ++ [c]) q' := by
  cases h with
  | units us =>
    have hbetween : (us.foldl push (start opened)).IsBetween := isBetween_foldl_push (.inl rfl) us
    have hplain : (us.foldl push (start opened)).stepPlain offset c = .ok (.still q') := by
      rcases hbetween with h | h <;> simpa [Quotation.step, h] using hs
    unfold stepPlain at hplain
    split at hplain
    · cases hplain
    · split at hplain
      · rename_i hbackslash
        cases hplain
        subst hbackslash
        exact .backslash us
      · split at hplain
        · cases hplain
        · rename_i hquote hbackslash hvisible
          cases hplain
          exact concat us (.plain c (Nat.le_of_not_lt hvisible) ⟨hquote, hbackslash⟩)
  | backslash us =>
    simp only [Quotation.step] at hs
    rw [List.append_assoc]
    split at hs
    · rename_i hu
      cases hs
      subst hu
      exact @IsRead.unicode opened us [] [] (by decide) rfl
    · split at hs
      · rename_i d hd
        cases hs
        exact concat us (.short c d (shortEscape?_eq_some.mp hd))
      · cases hs
  | @unicode us digits values hfour hspelled =>
    simp only [Quotation.step, List.length_map, List.length_reverse] at hs
    rw [List.append_assoc]
    cases hc : c.hexDigit? with
    | none => simp [hc] at hs
    | some d =>
      obtain ⟨d, rfl⟩ := CodePoint.exists_of_hexDigit? hc
      have hspelled' :
          (digits ++ [c]).map CodePoint.hexDigit? = (values ++ [d]).map fun d => some d.val := by
        simp [hspelled, hc]
      have hvalues : d.val :: values.reverse.map Fin.val = (values ++ [d]).reverse.map Fin.val := by simp
      simp only [hc, hvalues, foldr_hex_eq_ofDigits] at hs
      split at hs
      · rename_i hthree
        cases hs
        exact .unicode us (by simp; omega) hspelled'
      · cases hs
        have hlength : (values ++ [d]).length = 4 := by simp; omega
        exact concat us (.unicode (digits ++ [c]) (values ++ [d]) hlength hspelled')

/-- Only a quote between two units closes a string. -/
theorem closed {content : Text} (h : IsRead opened t q)
    (hs : q.step offset c = .ok (.closed content)) :
    ∃ us : List StringUnit, t = us.flatMap StringUnit.text ∧ c = CodePoint.ofChar '"' ∧
      content = StringUnit.contents us := by
  cases h with
  | units us =>
    have hbetween : (us.foldl push (start opened)).IsBetween := isBetween_foldl_push (.inl rfl) us
    have hplain : (us.foldl push (start opened)).stepPlain offset c = .ok (.closed content) := by
      rcases hbetween with h | h <;> simpa [Quotation.step, h] using hs
    unfold stepPlain at hplain
    split at hplain
    · rename_i hquote
      cases hplain
      exact ⟨us, rfl, hquote, content_units opened us⟩
    · repeat' split at hplain
      all_goals cases hplain
  | backslash us =>
    simp only [Quotation.step] at hs
    repeat' split at hs
    all_goals cases hs
  | unicode us hfour hspelled =>
    simp only [Quotation.step] at hs
    repeat' split at hs
    all_goals cases hs

end IsRead

end Quotation

end JsonTypings.Json
