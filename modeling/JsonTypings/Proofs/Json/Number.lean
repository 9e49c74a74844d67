import JsonTypings.Proofs.CodePoint.Digits
import JsonTypings.Proofs.Json.Grammar
import Mathlib.Data.Nat.Digits.Lemmas

/-! Numbers are read one code point at a time. What was read is always the beginning of a number
literal, and a whole literal is read to its end. -/
namespace JsonTypings.Json

@[simp] theorem digitsText_nil : digitsText [] = [] := rfl

@[simp] theorem digitsText_cons (d : Fin 10) (ds : List (Fin 10)) :
    digitsText (d :: ds) = CodePoint.ofDigit d :: digitsText ds := rfl

@[simp] theorem digitsText_append (ds es : List (Fin 10)) :
    digitsText (ds ++ es) = digitsText ds ++ digitsText es := List.map_append

/-- Digits as they are kept while a number is read, last first. -/
def kept (ds : List (Fin 10)) : List Nat := ds.reverse.map Fin.val

@[simp] theorem kept_singleton (d : Fin 10) : kept [d] = [d.val] := rfl

theorem kept_concat (ds : List (Fin 10)) (d : Fin 10) : kept (ds ++ [d]) = d.val :: kept ds := by
  simp [kept]

@[simp] theorem kept_append (ds es : List (Fin 10)) : kept (ds ++ es) = kept es ++ kept ds := by
  simp [kept]

theorem kept_eq_nil {ds : List (Fin 10)} : kept ds = [] ↔ ds = [] := by simp [kept]

@[simp] theorem length_kept (ds : List (Fin 10)) : (kept ds).length = ds.length := by simp [kept]

theorem ofDigits_kept (ds : List (Fin 10)) : Numeral.ofDigits (kept ds) = digitsNumber ds := by
  have h (l : List Nat) : Numeral.ofDigits l = Nat.ofDigits 10 l := by
    induction l with
    | nil => rfl
    | cons d rest ih => rw [Nat.ofDigits_cons, ← ih]; rfl
  exact h _

namespace NumberLiteral

/-- A literal as it is kept when it has been read. -/
def numeral (n : NumberLiteral) : Numeral :=
  ⟨n.negative, kept n.whole, kept n.fraction, n.exponent.any fun e => e.sign = Text.ofString "-",
    (n.exponent.map fun e => kept e.digits).getD []⟩

/-- How far a number has been read at the end of a literal. -/
def phase (n : NumberLiteral) : Numeral.Phase :=
  if n.exponent.isSome then .exponent
  else if n.fraction ≠ [] then .fraction
  else if n.whole = [0] then .zero
  else .whole

theorem isInteger_numeral (n : NumberLiteral) : n.numeral.isInteger = true ↔ n.IsInteger := by
  have hdigits (e : ExponentLiteral) : kept e.digits ≠ [] :=
    fun h => e.digits_ne_nil (kept_eq_nil.mp h)
  cases he : n.exponent with
  | none => simp [Numeral.isInteger, IsInteger, numeral, he, kept_eq_nil]
  | some e => simp [Numeral.isInteger, IsInteger, numeral, he, hdigits e]

/-- An integer has its value unless it is too long. -/
theorem value_numeral_of_isInteger {n : NumberLiteral} (h : n.IsInteger) :
    n.numeral.value =
      if digitLimit < n.whole.length then .error n.whole.length else .ok (.int n.integer) := by
  have hinteger : n.numeral.integer = n.integer := by
    simp [Numeral.integer, integer, numeral, ofDigits_kept]
  rw [Numeral.value, if_pos (n.isInteger_numeral.mpr h), hinteger]
  simp [numeral]

theorem value_numeral_of_not_isInteger {n : NumberLiteral} (h : ¬ n.IsInteger) :
    n.numeral.value = .ok (.float n.float) := by
  have hpower : (if n.numeral.exponentNegative then -(Numeral.ofDigits n.numeral.exponent : Int)
      else Numeral.ofDigits n.numeral.exponent) = (n.exponent.map ExponentLiteral.power).getD 0 := by
    cases he : n.exponent with
    | none => simp [numeral, he, Numeral.ofDigits]
    | some e => simp [numeral, he, ofDigits_kept, ExponentLiteral.power]
  have hfloat : n.numeral.float = n.float := by
    rw [Numeral.float, hpower, float]
    simp [numeral, ← kept_append, ofDigits_kept]
  rw [Numeral.value, if_neg (mt n.isInteger_numeral.mp h), hfloat]

end NumberLiteral

namespace Numeral

/-- Reads several code points of a number. -/
def feed (s : Phase × Numeral) (t : Text) : Option (Phase × Numeral) :=
  t.foldlM (fun s c => s.2.extend? s.1 c) s

theorem feed_append (s : Phase × Numeral) (t u : Text) :
    feed s (t ++ u) = (feed s t).bind fun s => feed s u := by
  simp [feed]

/-- The phases in which more digits only make a part of the number longer. -/
def addDigits (m : Numeral) (ds : List (Fin 10)) : Phase → Numeral
  | .whole => { m with whole := kept ds ++ m.whole }
  | .fraction => { m with fraction := kept ds ++ m.fraction }
  | .exponent => { m with exponent := kept ds ++ m.exponent }
  | _ => m

theorem feed_digits {phase : Phase}
    (hphase : phase = .whole ∨ phase = .fraction ∨ phase = .exponent)
    (m : Numeral) (ds : List (Fin 10)) :
    feed (phase, m) (digitsText ds) = some (phase, m.addDigits ds phase) := by
  induction ds generalizing m with
  | nil => rcases hphase with rfl | rfl | rfl <;> rfl
  | cons d ds ih =>
    have hstep : m.extend? phase (CodePoint.ofDigit d) = some (phase, m.addDigits [d] phase) := by
      rcases hphase with rfl | rfl | rfl <;> simp [extend?, addDigits, kept]
    have hrest := ih (m.addDigits [d] phase)
    have hadd : (m.addDigits [d] phase).addDigits ds phase = m.addDigits (d :: ds) phase := by
      rcases hphase with rfl | rfl | rfl <;> simp [addDigits, kept]
    rw [hadd] at hrest
    simpa [feed, hstep] using hrest

theorem feed_fraction {phase : Phase} (hphase : phase = .zero ∨ phase = .whole) (m : Numeral)
    (hm : m.fraction = []) (ds : List (Fin 10)) :
    feed (phase, m) (NumberLiteral.fractionText ds) =
      some (if ds = [] then phase else .fraction, { m with fraction := kept ds }) := by
  obtain ⟨negative, whole, fraction, exponentNegative, exponent⟩ := m
  obtain rfl : fraction = [] := hm
  cases ds with
  | nil => rfl
  | cons d ds =>
    have hpoint (m : Numeral) : m.extend? phase '.' = some (.point, m) := by
      rcases hphase with rfl | rfl <;> rfl
    have hdigit (m : Numeral) :
        m.extend? .point (CodePoint.ofDigit d) = some (.fraction, { m with fraction := [d.val] }) := by
      simp [extend?]
    have hdigits := feed_digits (.inr (.inl rfl))
      ⟨negative, whole, [d.val], exponentNegative, exponent⟩ ds
    simp only [addDigits] at hdigits
    simp only [feed, NumberLiteral.fractionText, List.cons_ne_nil, if_false, digitsText_cons,
      List.foldlM_cons, hpoint, Option.bind_eq_bind, Option.bind_some, hdigit]
    rw [feed] at hdigits
    simp [hdigits, kept]

theorem feed_exponent {phase : Phase} (hphase : phase = .zero ∨ phase = .whole ∨ phase = .fraction)
    (m : Numeral) (hnegative : m.exponentNegative = false) (e : ExponentLiteral) :
    feed (phase, m) e.text =
      some (.exponent,
        { m with exponentNegative := e.sign = Text.ofString "-", exponent := kept e.digits }) := by
  obtain ⟨negative, whole, fraction, exponentNegative, exponent⟩ := m
  obtain rfl : exponentNegative = false := hnegative
  obtain ⟨d, ds, hds⟩ := List.exists_cons_of_ne_nil e.digits_ne_nil
  have hmark (m : Numeral) : m.extend? phase e.mark = some (.mark, m) := by
    rcases hphase with rfl | rfl | rfl <;> rcases e.mark_mem with h | h <;> rw [h] <;> rfl
  have hdigit (m : Numeral) (phase : Phase) (h : phase = .mark ∨ phase = .markSign) :
      m.extend? phase (CodePoint.ofDigit d) = some (.exponent, { m with exponent := [d.val] }) := by
    have hplus : ∀ d : Fin 10, CodePoint.ofDigit d ≠ '+' ∧ CodePoint.ofDigit d ≠ '-' := by decide
    rcases h with rfl | rfl <;> simp [extend?, hplus d]
  have hdigits (exponentNegative : Bool) := feed_digits (.inr (.inr rfl))
    ⟨negative, whole, fraction, exponentNegative, [d.val]⟩ ds
  simp only [addDigits, feed] at hdigits
  rcases e.sign_mem with hsign | hsign | hsign
  · simp [feed, ExponentLiteral.text, hsign, hds, hmark, hdigit, hdigits, kept, Text.ofString]
  · have hplus (m : Numeral) : m.extend? .mark '+' = some (.markSign, m) := rfl
    have hne : CodePoint.ofChar '+' ≠ CodePoint.ofChar '-' := by decide
    simp [feed, ExponentLiteral.text, hsign, hds, hmark, hdigit, hdigits, kept, Text.ofString,
      hplus, hne]
  · have hminus (m : Numeral) :
        m.extend? .mark '-' = some (.markSign, { m with exponentNegative := true }) := rfl
    simp [feed, ExponentLiteral.text, hsign, hds, hmark, hdigit, hdigits, kept, Text.ofString,
      hminus]

end Numeral

namespace NumberLiteral

/-- A literal without its fraction and its exponent. -/
def wholePhase (n : NumberLiteral) : Numeral.Phase := if n.whole = [0] then .zero else .whole

theorem feed_whole {n : NumberLiteral} {d : Fin 10} {ds : List (Fin 10)} (h : n.whole = d :: ds) :
    Numeral.feed (Numeral.start n.negative d) (digitsText ds) =
      some (n.wholePhase, ⟨n.negative, kept n.whole, [], false, []⟩) := by
  by_cases hd : d = 0
  · subst hd
    have hwhole : n.whole = [0] := n.leading_zero (by rw [h]; rfl)
    obtain rfl : ds = [] := by simpa [hwhole] using h.symm
    simp [Numeral.feed, Numeral.start, wholePhase, hwhole, kept]
  · have hne : n.whole ≠ [0] := by
      rw [h]
      exact fun heq => hd (List.cons.inj heq).1
    have hval : d.val ≠ 0 := fun h0 => hd (Fin.ext h0)
    have hdigits := Numeral.feed_digits (.inl rfl) ⟨n.negative, [d.val], [], false, []⟩ ds
    simpa [Numeral.start, hval, hd, wholePhase, h, kept, Numeral.addDigits] using hdigits

/-- The text of a literal begins with its sign and a digit; what follows is read to the end. -/
theorem exists_feed (n : NumberLiteral) : ∃ (d : Fin 10) (rest : Text),
    n.text = signText n.negative ++ CodePoint.ofDigit d :: rest ∧
      Numeral.feed (Numeral.start n.negative d) rest = some (n.phase, n.numeral) := by
  obtain ⟨d, ds, hds⟩ := List.exists_cons_of_ne_nil n.whole_ne_nil
  refine ⟨d, digitsText ds ++ fractionText n.fraction ++ (n.exponent.map ExponentLiteral.text).getD [],
    by simp [text, hds], ?_⟩
  have hphase : n.wholePhase = .zero ∨ n.wholePhase = .whole := by
    unfold wholePhase
    split <;> simp
  rw [Numeral.feed_append, Numeral.feed_append, feed_whole hds, Option.bind_some,
    Numeral.feed_fraction hphase _ rfl, Option.bind_some]
  cases he : n.exponent with
  | none => simp [Numeral.feed, phase, he, numeral, wholePhase]
  | some e =>
    have hphase' : (if n.fraction = [] then n.wholePhase else .fraction) = .zero ∨
        (if n.fraction = [] then n.wholePhase else .fraction) = .whole ∨
        (if n.fraction = [] then n.wholePhase else .fraction) = Numeral.Phase.fraction := by
      rcases hphase with h | h <;> rw [h] <;> split <;> simp
    have hexponent := Numeral.feed_exponent hphase'
      ⟨n.negative, kept n.whole, kept n.fraction, false, []⟩ rfl e
    simpa [phase, numeral, he] using hexponent

/-- A literal ends in a phase in which nothing is missing. -/
theorem pending_phase (n : NumberLiteral) : n.phase.pending = 0 := by
  unfold phase
  split
  · rfl
  · split
    · rfl
    · split <;> rfl

/-- A literal of one digit. -/
def ofDigit (negative : Bool) (d : Fin 10) : NumberLiteral where
  negative := negative
  whole := [d]
  fraction := []
  exponent := none
  whole_ne_nil := by simp
  leading_zero := by simp

/-- The literal with one more digit in its whole part. -/
def addWhole (n : NumberLiteral) (h : n.whole ≠ [0]) (d : Fin 10) : NumberLiteral where
  negative := n.negative
  whole := n.whole ++ [d]
  fraction := n.fraction
  exponent := n.exponent
  whole_ne_nil := by simp
  leading_zero := by
    obtain ⟨e, es, he⟩ := List.exists_cons_of_ne_nil n.whole_ne_nil
    have hzero := n.leading_zero
    rw [he] at hzero ⊢ h
    intro hhead
    exact absurd (hzero hhead) h

/-- The literal with one more digit in its fraction. -/
def addFraction (n : NumberLiteral) (d : Fin 10) : NumberLiteral :=
  { n with fraction := n.fraction ++ [d] }

/-- The literal with an exponent. -/
def withExponent (n : NumberLiteral) (e : ExponentLiteral) : NumberLiteral :=
  { n with exponent := some e }

theorem text_addWhole {n : NumberLiteral} (hn : n.IsInteger) (h : n.whole ≠ [0]) (d : Fin 10) :
    (n.addWhole h d).text = n.text ++ [CodePoint.ofDigit d] := by
  simp [text, addWhole, hn.1, hn.2, fractionText]

theorem text_addFraction_first {n : NumberLiteral} (hn : n.IsInteger) (d : Fin 10) :
    (n.addFraction d).text = n.text ++ [CodePoint.ofChar '.', CodePoint.ofDigit d] := by
  simp [text, addFraction, hn.1, hn.2, fractionText]

theorem text_addFraction {n : NumberLiteral} (hne : n.fraction ≠ []) (he : n.exponent = none)
    (d : Fin 10) :
    (n.addFraction d).text = n.text ++ [CodePoint.ofDigit d] := by
  simp [text, addFraction, he, fractionText, hne]

@[simp] theorem numeral_addWhole (n : NumberLiteral) (h : n.whole ≠ [0]) (d : Fin 10) :
    (n.addWhole h d).numeral = { n.numeral with whole := d.val :: n.numeral.whole } := by
  rw [numeral, addWhole, kept_concat]
  rfl

@[simp] theorem numeral_addFraction (n : NumberLiteral) (d : Fin 10) :
    (n.addFraction d).numeral = { n.numeral with fraction := d.val :: n.numeral.fraction } := by
  rw [numeral, addFraction, kept_concat]
  rfl

theorem text_withExponent {n : NumberLiteral} (he : n.exponent = none) (e : ExponentLiteral) :
    (n.withExponent e).text = n.text ++ e.text := by
  simp [text, withExponent, he]

end NumberLiteral

namespace ExponentLiteral

/-- An exponent of one digit. -/
def ofDigit (mark : CodePoint) (hmark : mark = 'e' ∨ mark = 'E') (sign : Text)
    (hsign : sign = [] ∨ sign = Text.ofString "+" ∨ sign = Text.ofString "-") (d : Fin 10) :
    ExponentLiteral where
  mark := mark
  sign := sign
  digits := [d]
  mark_mem := hmark
  sign_mem := hsign
  digits_ne_nil := by simp

/-- The exponent with one more digit. -/
def addDigit (e : ExponentLiteral) (d : Fin 10) : ExponentLiteral where
  mark := e.mark
  sign := e.sign
  digits := e.digits ++ [d]
  mark_mem := e.mark_mem
  sign_mem := e.sign_mem
  digits_ne_nil := by simp

@[simp] theorem text_addDigit (e : ExponentLiteral) (d : Fin 10) :
    (e.addDigit d).text = e.text ++ [CodePoint.ofDigit d] := by
  simp [text, addDigit]

end ExponentLiteral

namespace Numeral

/-- What was read of a number in some phase: a literal, with a point, a mark, or a mark and a sign
behind it where digits are missing. -/
inductive IsRead : Text → Numeral → Phase → Prop
  | zero {n : NumberLiteral} (hn : n.IsInteger) (hzero : n.whole = [0]) : IsRead n.text n.numeral .zero
  | whole {n : NumberLiteral} (hn : n.IsInteger) (hzero : n.whole ≠ [0]) : IsRead n.text n.numeral .whole
  | point {n : NumberLiteral} (hn : n.IsInteger) :
    IsRead (n.text ++ [CodePoint.ofChar '.']) n.numeral .point
  | fraction {n : NumberLiteral} (hne : n.fraction ≠ []) (he : n.exponent = none) :
    IsRead n.text n.numeral .fraction
  | mark {n : NumberLiteral} (he : n.exponent = none) {mark : CodePoint}
    (hmark : mark = 'e' ∨ mark = 'E') : IsRead (n.text ++ [mark]) n.numeral .mark
  | markSign {n : NumberLiteral} (he : n.exponent = none) {mark : CodePoint}
    (hmark : mark = 'e' ∨ mark = 'E') {sign : CodePoint} (hsign : sign = '+' ∨ sign = '-') :
    IsRead (n.text ++ [mark, sign]) { n.numeral with exponentNegative := sign = '-' } .markSign
  | exponent {n : NumberLiteral} {e : ExponentLiteral} (he : n.exponent = some e) :
    IsRead n.text n.numeral .exponent

theorem isRead_start (negative : Bool) (d : Fin 10) :
    IsRead (NumberLiteral.signText negative ++ [CodePoint.ofDigit d]) (start negative d).2
      (start negative d).1 := by
  have htext : (NumberLiteral.ofDigit negative d).text =
      NumberLiteral.signText negative ++ [CodePoint.ofDigit d] := by
    simp [NumberLiteral.text, NumberLiteral.ofDigit, NumberLiteral.fractionText]
  have hinteger : (NumberLiteral.ofDigit negative d).IsInteger := ⟨rfl, rfl⟩
  rw [← htext]
  by_cases hd : d = 0
  · subst hd
    exact .zero hinteger rfl
  · have hval : d.val ≠ 0 := fun h => hd (Fin.ext h)
    have hne : (NumberLiteral.ofDigit negative d).whole ≠ [0] := by simpa [NumberLiteral.ofDigit] using hd
    have hphase : (start negative d).1 = .whole := if_neg hval
    rw [hphase]
    exact .whole hinteger hne

namespace IsRead

variable {t : Text} {m m' : Numeral} {phase phase' : Phase} {c : CodePoint}

/-- The first digit of an exponent completes a literal. -/
theorem firstExponent {n : NumberLiteral} (he : n.exponent = none) {mark : CodePoint}
    (hmark : mark = 'e' ∨ mark = 'E') {sign : Text}
    (hsign : sign = [] ∨ sign = Text.ofString "+" ∨ sign = Text.ofString "-") (d : Fin 10) :
    IsRead (n.text ++ (mark :: (sign ++ [CodePoint.ofDigit d])))
      { n.numeral with exponentNegative := sign = Text.ofString "-", exponent := [d.val] } .exponent := by
  have hread : IsRead (n.withExponent (.ofDigit mark hmark sign hsign d)).text
      (n.withExponent (.ofDigit mark hmark sign hsign d)).numeral .exponent := .exponent rfl
  rw [NumberLiteral.text_withExponent he] at hread
  exact hread

/-- One more digit of an exponent leaves a literal. -/
theorem moreExponent {n : NumberLiteral} {e : ExponentLiteral} (he : n.exponent = some e)
    (d : Fin 10) :
    IsRead (n.text ++ [CodePoint.ofDigit d]) { n.numeral with exponent := d.val :: n.numeral.exponent }
      .exponent := by
  have hread : IsRead (n.withExponent (e.addDigit d)).text (n.withExponent (e.addDigit d)).numeral
      .exponent := .exponent rfl
  have htext : (n.withExponent (e.addDigit d)).text = n.text ++ [CodePoint.ofDigit d] := by
    simp [NumberLiteral.text, NumberLiteral.withExponent, he]
  have hnumeral : (n.withExponent (e.addDigit d)).numeral =
      { n.numeral with exponent := d.val :: n.numeral.exponent } := by
    simp [NumberLiteral.numeral, NumberLiteral.withExponent, he, ExponentLiteral.addDigit]
  rwa [htext, hnumeral] at hread

/-- What a digit is turned into comes of a digit. -/
theorem map_digit?_eq_some {α : Type} {f : Nat → α} {c : CodePoint} {a : α} :
    c.digit?.map f = some a ↔ ∃ d : Fin 10, c = CodePoint.ofDigit d ∧ f d = a := by
  simp only [Option.map_eq_some_iff, CodePoint.digit?_eq_some, ↓existsAndEq, and_true]

/-- What was read stays the beginning of a literal with each code point. -/
theorem extend (h : IsRead t m phase) (hc : m.extend? phase c = some (phase', m')) :
    IsRead (t ++ [c]) m' phase' := by
  cases h with
  | zero hn hzero =>
    simp only [extend?, Option.orElse_eq_orElse, Option.orElse_eq_or, Option.or_eq_some_iff,
      Option.ite_none_right_eq_some, Option.some.injEq, Prod.mk.injEq] at hc
    rcases hc with ⟨rfl, rfl, rfl⟩ | ⟨-, hmark, rfl, rfl⟩
    · exact .point hn
    · exact .mark hn.2 hmark
  | @whole n hn hzero =>
    simp only [extend?, Option.orElse_eq_orElse, Option.orElse_eq_or, Option.or_eq_some_iff,
      map_digit?_eq_some, Option.ite_none_right_eq_some, Option.some.injEq, Prod.mk.injEq] at hc
    rcases hc with ⟨d, rfl, rfl, rfl⟩ | ⟨-, ⟨rfl, rfl, rfl⟩ | ⟨-, hmark, rfl, rfl⟩⟩
    · have hlong : (n.addWhole hzero d).whole ≠ [0] := by
        intro h
        have hlength := congrArg List.length h
        simp [NumberLiteral.addWhole, n.whole_ne_nil] at hlength
      rw [← NumberLiteral.text_addWhole hn hzero, ← NumberLiteral.numeral_addWhole n hzero]
      exact .whole hn hlong
    · exact .point hn
    · exact .mark hn.2 hmark
  | @point n hn =>
    simp only [extend?, map_digit?_eq_some, Prod.mk.injEq] at hc
    obtain ⟨d, rfl, rfl, rfl⟩ := hc
    have hnone : n.numeral.fraction = [] := kept_eq_nil.mpr hn.1
    rw [List.append_assoc, ← hnone, ← NumberLiteral.numeral_addFraction]
    exact NumberLiteral.text_addFraction_first hn d ▸ .fraction (by simp [NumberLiteral.addFraction]) hn.2
  | @fraction n hne he =>
    simp only [extend?, Option.orElse_eq_orElse, Option.orElse_eq_or, Option.or_eq_some_iff,
      map_digit?_eq_some, Option.ite_none_right_eq_some, Option.some.injEq, Prod.mk.injEq] at hc
    rcases hc with ⟨d, rfl, rfl, rfl⟩ | ⟨-, hmark, rfl, rfl⟩
    · rw [← NumberLiteral.text_addFraction hne he, ← NumberLiteral.numeral_addFraction]
      exact .fraction (by simp [NumberLiteral.addFraction]) he
    · exact .mark he hmark
  | @mark n he mark hmark =>
    simp only [extend?] at hc
    rw [List.append_assoc]
    split at hc
    · rename_i hplus
      cases hc
      subst hplus
      have hread := IsRead.markSign he hmark (.inl rfl)
      have hne : CodePoint.ofChar '+' ≠ CodePoint.ofChar '-' := by decide
      simpa [NumberLiteral.numeral, he, hne] using hread
    · split at hc
      · rename_i hminus
        cases hc
        subst hminus
        exact .markSign he hmark (.inr rfl)
      · simp only [map_digit?_eq_some, Prod.mk.injEq] at hc
        obtain ⟨d, rfl, rfl, rfl⟩ := hc
        have hread := firstExponent he hmark (.inl rfl) d
        simpa [NumberLiteral.numeral, he, Text.ofString] using hread
  | @markSign n he mark hmark sign hsign =>
    simp only [extend?, map_digit?_eq_some, Prod.mk.injEq] at hc
    obtain ⟨d, rfl, rfl, rfl⟩ := hc
    rcases hsign with rfl | rfl
    · simpa [Text.ofString] using firstExponent he hmark (.inr (.inl rfl)) d
    · simpa [Text.ofString] using firstExponent he hmark (.inr (.inr rfl)) d
  | exponent he =>
    simp only [extend?, map_digit?_eq_some, Prod.mk.injEq] at hc
    obtain ⟨d, rfl, rfl, rfl⟩ := hc
    exact moreExponent he d

/-- A number to which nothing is missing is a literal. -/
theorem exists_literal (h : IsRead t m phase) (hphase : phase.pending = 0) :
    ∃ n : NumberLiteral, n.numeral = m ∧ t = n.text := by
  cases h with
  | point | mark | markSign => simp [Phase.pending] at hphase
  | zero | whole | fraction | exponent => exact ⟨_, rfl, rfl⟩

end IsRead

end Numeral

end JsonTypings.Json
