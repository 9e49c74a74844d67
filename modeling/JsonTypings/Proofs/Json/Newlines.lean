import JsonTypings.Proofs.Encoding.TextFile
import JsonTypings.Proofs.Json.Completeness
import JsonTypings.Proofs.Json.Soundness

/-! A text with its line ends changed to line feeds is read like the text itself. The two readings
stand at different offsets, but otherwise in the same states, as a line end of any kind is either
passed over or refused. -/
namespace JsonTypings.Json

/-- Two results of reading: both good and related, or bad in the same way, wherever that was found.
-/
inductive Agree {α : Type} (R : α → α → Prop) : Except Stop α → Except Stop α → Prop
  | ok {a b : α} (h : R a b) : Agree R (.ok a) (.ok b)
  | flaw (f g : Flaw) : Agree R (.error (.flaw f)) (.error (.flaw g))
  | tooManyDigits (n : Nat) : Agree R (.error (.tooManyDigits n)) (.error (.tooManyDigits n))

theorem agree_stop {α : Type} {R : α → α → Prop} (fault : Fault) (o o' : Nat) :
    Agree R (stop fault o) (stop fault o') := .flaw _ _

namespace State

/-- Two states that differ at most in where a string or a word began. -/
inductive Alike : State → State → Prop
  | refl (s : State) : Alike s s
  | string (o o' : Nat) (content : Text) (phase : QuotationPhase) (role : StringRole)
    (stack : List Frame) :
    Alike (string ⟨o, content, phase⟩ role stack) (string ⟨o', content, phase⟩ role stack)
  | word (o o' : Nat) (rest : Text) (v : Value) (stack : List Frame) :
    Alike (word o rest v stack) (word o' rest v stack)

variable {s s' s₁ : State} {c : CodePoint} {t : Text} {o o' : Nat}

/-! The same code point -/

theorem agree_stepValue (stack : List Frame) (o o' : Nat) (c : CodePoint) :
    Agree Alike (stepValue stack o c) (stepValue stack o' c) := by
  unfold stepValue
  split_ifs
  · exact .ok (.refl _)
  · exact .ok (.string o o' [] .plain .value stack)
  · exact .ok (.refl _)
  · exact .ok (.refl _)
  · exact .ok (.refl _)
  · split
    · exact .ok (.refl _)
    · exact .ok (.word o o' _ _ stack)
    · exact agree_stop _ _ _

theorem agree_stepKey (members : Members) (stack : List Frame) (o o' : Nat) (c : CodePoint) :
    Agree Alike (stepKey members stack o c) (stepKey members stack o' c) := by
  unfold stepKey
  split_ifs
  · exact .ok (.string o o' [] .plain (.key members) stack)
  · exact agree_stop _ _ _

theorem agree_stepItemEnd (items : List Value) (stack : List Frame) (o o' : Nat) (c : CodePoint) :
    Agree Alike (stepItemEnd items stack o c) (stepItemEnd items stack o' c) := by
  unfold stepItemEnd
  split_ifs
  · exact .ok (.refl _)
  · exact .ok (.refl _)
  · exact .ok (.refl _)
  · exact agree_stop _ _ _

theorem agree_stepMemberEnd (members : Members) (stack : List Frame) (o o' : Nat) (c : CodePoint) :
    Agree Alike (stepMemberEnd members stack o c) (stepMemberEnd members stack o' c) := by
  unfold stepMemberEnd
  split_ifs
  · exact .ok (.refl _)
  · exact .ok (.refl _)
  · exact .ok (.refl _)
  · exact agree_stop _ _ _

theorem agree_stepDone (v : Value) (o o' : Nat) (c : CodePoint) :
    Agree Alike (stepDone v o c) (stepDone v o' c) := by
  unfold stepDone
  split_ifs
  · exact .ok (.refl _)
  · exact agree_stop _ _ _

theorem agree_stepAfter (v : Value) (stack : List Frame) (o o' : Nat) (c : CodePoint) :
    Agree Alike (stepAfter v stack o c) (stepAfter v stack o' c) := by
  cases stack with
  | nil => exact agree_stepDone v o o' c
  | cons frame stack =>
    cases frame with
    | item before => exact agree_stepItemEnd (v :: before) stack o o' c
    | member before key => exact agree_stepMemberEnd (before.insert key v) stack o o' c

theorem agree_numberValue (phase : Numeral.Phase) (n : Numeral) (stack : List Frame) (o o' : Nat) :
    Agree Eq (numberValue phase n stack o) (numberValue phase n stack o') := by
  unfold numberValue
  split
  · exact .tooManyDigits _
  · split_ifs
    · exact .ok rfl
    · exact agree_stop _ _ _

/-- A string goes on in the same way wherever it began. -/
inductive SameProgress (o o' : Nat) :
    Except Flaw Quotation.Progress → Except Flaw Quotation.Progress → Prop
  | flaw (f g : Flaw) : SameProgress o o' (.error f) (.error g)
  | closed (t : Text) : SameProgress o o' (.ok (.closed t)) (.ok (.closed t))
  | still (content : Text) (phase : QuotationPhase) :
    SameProgress o o' (.ok (.still ⟨o, content, phase⟩)) (.ok (.still ⟨o', content, phase⟩))

theorem sameProgress_stepPlain (begun begun' : Nat) (content : Text) (phase : QuotationPhase)
    (o o' : Nat) (c : CodePoint) :
    SameProgress begun begun' (Quotation.stepPlain ⟨begun, content, phase⟩ o c)
      (Quotation.stepPlain ⟨begun', content, phase⟩ o' c) := by
  unfold Quotation.stepPlain
  split_ifs
  · exact .closed _
  · exact .still _ _
  · exact .flaw _ _
  · exact .still _ _

theorem sameProgress_step (begun begun' : Nat) (content : Text) (phase : QuotationPhase)
    (o o' : Nat) (c : CodePoint) :
    SameProgress begun begun' (Quotation.step ⟨begun, content, phase⟩ o c)
      (Quotation.step ⟨begun', content, phase⟩ o' c) := by
  cases phase with
  | plain => exact sameProgress_stepPlain begun begun' content .plain o o' c
  | afterUnicode => exact sameProgress_stepPlain begun begun' content .afterUnicode o o' c
  | backslash paired =>
    simp only [Quotation.step]
    split_ifs
    · exact .still _ _
    · split
      · exact .still _ _
      · exact .flaw _ _
  | unicode paired digits =>
    simp only [Quotation.step]
    split
    · exact .flaw _ _
    · split_ifs
      · exact .still _ _
      · exact .still _ _

theorem agree_step_string (begun begun' : Nat) (content : Text) (phase : QuotationPhase)
    (role : StringRole) (stack : List Frame) (o o' : Nat) (c : CodePoint) :
    Agree Alike ((string ⟨begun, content, phase⟩ role stack).step o c)
      ((string ⟨begun', content, phase⟩ role stack).step o' c) := by
  have hsame := sameProgress_step begun begun' content phase o o' c
  simp only [step]
  generalize Quotation.step ⟨begun, content, phase⟩ o c = r at hsame
  generalize Quotation.step ⟨begun', content, phase⟩ o' c = r' at hsame
  cases hsame with
  | flaw f g => exact .flaw f g
  | closed t => cases role <;> exact .ok (.refl _)
  | still content phase => exact .ok (.string begun begun' content phase role stack)

theorem agree_step_word (begun begun' : Nat) (rest : Text) (v : Value) (stack : List Frame)
    (o o' : Nat) (c : CodePoint) :
    Agree Alike ((word begun rest v stack).step o c) ((word begun' rest v stack).step o' c) := by
  simp only [step]
  split
  · exact agree_stop _ _ _
  · split_ifs
    · exact .ok (.refl _)
    · exact .ok (.word begun begun' _ v stack)
    · exact agree_stop _ _ _

/-- States that are alike stay so. -/
theorem Alike.step (h : Alike s s') (o o' : Nat) (c : CodePoint) :
    Agree Alike (s.step o c) (s'.step o' c) := by
  cases h with
  | string begun begun' content phase role stack =>
    exact agree_step_string begun begun' content phase role stack o o' c
  | word begun begun' rest v stack => exact agree_step_word begun begun' rest v stack o o' c
  | refl s =>
    cases s with
    | value stack => exact agree_stepValue stack o o' c
    | firstItem stack =>
      simp only [State.step]
      split_ifs
      · exact .ok (.refl _)
      · exact .ok (.refl _)
      · exact agree_stepValue _ o o' c
    | itemEnd items stack => exact agree_stepItemEnd items stack o o' c
    | firstKey stack =>
      simp only [State.step]
      split_ifs
      · exact .ok (.refl _)
      · exact .ok (.refl _)
      · exact agree_stepKey [] stack o o' c
    | nextKey members stack =>
      simp only [State.step]
      split_ifs
      · exact .ok (.refl _)
      · exact agree_stepKey members stack o o' c
    | colon members key stack =>
      simp only [State.step]
      split_ifs
      · exact .ok (.refl _)
      · exact .ok (.refl _)
      · exact agree_stop _ _ _
    | memberEnd members stack => exact agree_stepMemberEnd members stack o o' c
    | done v => exact agree_stepDone v o o' c
    | string q role stack => exact agree_step_string q.opened q.opened q.content q.phase role stack o o' c
    | word begun rest v stack => exact agree_step_word begun begun rest v stack o o' c
    | minus stack =>
      simp only [State.step]
      split
      · exact .ok (.refl _)
      · split_ifs
        · exact .ok (.word _ _ _ _ stack)
        · exact agree_stop _ _ _
    | number phase n stack =>
      have hvalue := agree_numberValue phase n stack o o'
      simp only [State.step]
      split
      · exact .ok (.refl _)
      · generalize numberValue phase n stack o = r at hvalue
        generalize numberValue phase n stack o' = r' at hvalue
        cases hvalue with
        | flaw f g => exact .flaw f g
        | tooManyDigits n => exact .tooManyDigits n
        | ok h =>
          subst h
          exact agree_stepAfter _ stack o o' c

theorem Alike.finish (h : Alike s s') (o o' : Nat) : Agree Eq (s.finish o) (s'.finish o') := by
  cases h with
  | string => exact .flaw _ _
  | word => exact agree_stop _ _ _
  | refl s =>
    cases s with
    | done v => exact .ok rfl
    | number phase n stack =>
      have hvalue := agree_numberValue phase n stack o o'
      simp only [State.finish]
      generalize numberValue phase n stack o = r at hvalue
      generalize numberValue phase n stack o' = r' at hvalue
      cases hvalue with
      | flaw f g => exact .flaw f g
      | tooManyDigits n => exact .tooManyDigits n
      | ok h =>
        subst h
        cases stack with
        | nil => exact .ok rfl
        | cons frame stack => exact agree_stop _ _ _
    | _ => exact .flaw _ _

/-! Line ends -/

/-- A carriage return or a line feed. -/
def IsLineEnd (c : CodePoint) : Prop := c = CodePoint.ofChar '\r' ∨ c = CodePoint.ofChar '\n'

theorem isSpace_of_isLineEnd (hc : IsLineEnd c) : isSpace c = true := by
  rcases hc with rfl | rfl <;> rfl

/-- What a line end of either kind does to a state: it is passed over from then on, or refused. -/
inductive AtLineEnd (s : State) : Prop
  | skipped (s₁ : State) (hskips : s₁.Skips) (h : ∀ o c, IsLineEnd c → s.step o c = .ok s₁)
  | flaw (h : ∀ o c, IsLineEnd c → ∃ f, s.step o c = .error (.flaw f))
  | tooManyDigits (n : Nat) (h : ∀ o c, IsLineEnd c → s.step o c = .error (.tooManyDigits n))

theorem Skips.atLineEnd (h : s.Skips) : s.AtLineEnd :=
  .skipped s h fun o c hc => h o c (isSpace_of_isLineEnd hc)

theorem atLineEnd_string (q : Quotation) (role : StringRole) (stack : List Frame) :
    (string q role stack).AtLineEnd := by
  refine .flaw fun o c hc => ?_
  have hflaw : ∃ f, q.step o c = .error f := by
    obtain ⟨begun, content, phase⟩ := q
    cases phase <;> rcases hc with rfl | rfl <;>
      simp [Quotation.step, Quotation.stepPlain, Quotation.shortEscape?, CodePoint.hexDigit?]
  obtain ⟨f, hf⟩ := hflaw
  exact ⟨f, by simp [step, hf]⟩

theorem extend?_lineEnd (n : Numeral) (phase : Numeral.Phase) (hc : IsLineEnd c) :
    n.extend? phase c = none := by
  have hother : c.digit? = none ∧ c ≠ '.' ∧ c ≠ 'e' ∧ c ≠ 'E' ∧ c ≠ '+' ∧ c ≠ '-' := by
    rcases hc with rfl | rfl <;> decide
  cases phase <;> simp [Numeral.extend?, hother]

theorem atLineEnd_number (phase : Numeral.Phase) (n : Numeral) (stack : List Frame) :
    (number phase n stack).AtLineEnd := by
  cases hvalue : n.value with
  | error digits =>
    refine .tooManyDigits digits fun o c hc => ?_
    simp [step, extend?_lineEnd n phase hc, numberValue, hvalue]
  | ok v =>
    by_cases hphase : phase.pending = 0
    · refine .skipped (give v stack) (skips_give v stack) fun o c hc => ?_
      have hskip := skips_give v stack o c (isSpace_of_isLineEnd hc)
      rw [← stepAfter_eq_step] at hskip
      simp [step, extend?_lineEnd n phase hc, numberValue, hvalue, hphase, hskip]
    · refine .flaw fun o c hc => ⟨⟨faultAfterValue stack, o - phase.pending⟩, ?_⟩
      simp [step, extend?_lineEnd n phase hc, numberValue, hvalue, hphase, stop]

theorem atLineEnd_word {begun : Text} {rest : Text} {v : Value} (hword : (begun ++ rest, v) ∈ words)
    (o : Nat) (stack : List Frame) : (word o rest v stack).AtLineEnd := by
  have hwords : ∀ p ∈ words, ∀ c ∈ p.1, ¬ IsLineEnd c := by
    simp only [words, List.forall_mem_cons, List.not_mem_nil, false_implies, implies_true, and_true,
      IsLineEnd]
    decide
  refine .flaw fun o' c hc => ⟨⟨.expectingValue, o⟩, ?_⟩
  cases rest with
  | nil => rfl
  | cons d rest =>
    have hne : c ≠ d := by
      rintro rfl
      exact hwords _ hword c (by simp) hc
    simp [step, hne, stop]

/-- A line end is passed over or refused at any time. -/
theorem Reached.atLineEnd {p : Text} (h : s.Reached p) : s.AtLineEnd := by
  cases h with
  | value => exact (skips_value _).atLineEnd
  | firstItem => exact (skips_firstItem _).atLineEnd
  | @itemEnd before stack _ _ v => exact (skips_give v (.item before :: stack)).atLineEnd
  | firstKey => exact (skips_firstKey _).atLineEnd
  | nextKey => exact (skips_nextKey _ _).atLineEnd
  | colon => exact (skips_colon _ _ _).atLineEnd
  | @memberEnd before key stack _ _ v =>
    exact (skips_give v (.member before key :: stack)).atLineEnd
  | @done _ v => exact (skips_give v []).atLineEnd
  | string => exact atLineEnd_string _ _ _
  | key => exact atLineEnd_string _ _ _
  | word _ hword => exact atLineEnd_word hword _ _
  | @minus stack =>
    refine .flaw fun o c hc => ⟨⟨.expectingValue, o - 1⟩, ?_⟩
    rcases hc with rfl | rfl <;> rfl
  | number => exact atLineEnd_number _ _ _

/-! Whole texts -/

theorem outcome_error {e : Stop} (h : s.step o c = .error e) (t : Text) :
    s.outcome o (c :: t) = .error e := by
  rw [outcome, run, h]

/-- One step of either reading, and then the rest. -/
theorem agree_outcome_cons {c' : CodePoint} {t' : Text}
    (hstep : Agree Alike (s.step o c) (s'.step o' c'))
    (hrest : ∀ s₁ s₁', s.step o c = .ok s₁ → Alike s₁ s₁' →
      Agree Eq (s₁.outcome (o + 1) t) (s₁'.outcome (o' + 1) t')) :
    Agree Eq (s.outcome o (c :: t)) (s'.outcome o' (c' :: t')) := by
  cases hs : s.step o c with
  | error e =>
    cases hs' : s'.step o' c' with
    | error e' =>
      rw [hs, hs'] at hstep
      rw [outcome_error hs, outcome_error hs']
      cases hstep with
      | flaw f g => exact .flaw f g
      | tooManyDigits n => exact .tooManyDigits n
    | ok s₁' =>
      rw [hs, hs'] at hstep
      cases hstep
  | ok s₁ =>
    cases hs' : s'.step o' c' with
    | error e' =>
      rw [hs, hs'] at hstep
      cases hstep
    | ok s₁' =>
      rw [hs, hs'] at hstep
      cases hstep with
      | ok halike =>
        rw [outcome_cons hs, outcome_cons hs']
        exact hrest s₁ s₁' hs halike

/-- A carriage return and a line feed do the same, and what they lead to passes over line ends. -/
theorem Alike.lineEnd {p : Text} {c' : CodePoint} (h : Alike s s') (hs : s.Reached p)
    (hc : IsLineEnd c) (hc' : IsLineEnd c') (o o' : Nat) :
    Agree Alike (s.step o c) (s'.step o' c') ∧ ∀ s₁, s.step o c = .ok s₁ → s₁.Skips := by
  have hstep := h.step o' o' c'
  cases hs.atLineEnd with
  | skipped s₁ hskips hboth =>
    rw [hboth o c hc]
    rw [hboth o' c' hc'] at hstep
    refine ⟨hstep, fun s₂ hs₂ => ?_⟩
    cases hs₂
    exact hskips
  | flaw hboth =>
    obtain ⟨f, hf⟩ := hboth o c hc
    obtain ⟨g, hg⟩ := hboth o' c' hc'
    rw [hg] at hstep
    rw [hf]
    refine ⟨?_, fun s₂ hs₂ => by cases hs₂⟩
    cases hs' : s'.step o' c' with
    | ok s₁' =>
      rw [hs'] at hstep
      cases hstep
    | error e =>
      rw [hs'] at hstep
      cases hstep
      exact .flaw _ _
  | tooManyDigits n hboth =>
    rw [hboth o' c' hc'] at hstep
    rw [hboth o c hc]
    exact ⟨hstep, fun s₂ hs₂ => by cases hs₂⟩

end State

open Encoding (newlinesFrom newlinesFrom_eq_append universalNewlines)
open State (Alike Reached IsLineEnd)

/-- Reading goes on alike behind line ends of any kind. Directly behind a carriage return the state
passes over a line feed, which the changed text no longer has. -/
theorem agree_newlinesFrom {s s' : State} {p : Text} (t : Text) (halike : Alike s s')
    (hs : s.Reached p) {afterReturn : Bool} (hskips : afterReturn = true → s.Skips) (o o' : Nat) :
    Agree Eq (s.outcome o t) (s'.outcome o' (newlinesFrom afterReturn [] t)) := by
  induction t generalizing s s' p afterReturn o o' with
  | nil => exact halike.finish _ _
  | cons c t ih =>
    have hsame (s₁ s₁' : State) (hstep : s.step o c = .ok s₁) (halike₁ : Alike s₁ s₁') :
        Agree Eq (s₁.outcome (o + 1) t) (s₁'.outcome (o' + 1) (newlinesFrom false [] t)) :=
      ih halike₁ (hs.step hstep) (by simp) _ _
    rw [newlinesFrom]
    split_ifs with hreturn hfeed
    -- A carriage return is read here, and a line feed in the changed text.
    · obtain ⟨hagree, hskips₁⟩ := halike.lineEnd hs (.inl hreturn) (.inr rfl) o o'
      rw [newlinesFrom_eq_append, List.reverse_singleton, List.singleton_append]
      exact State.agree_outcome_cons hagree fun s₁ s₁' hstep halike₁ =>
        ih halike₁ (hs.step hstep) (fun _ => hskips₁ s₁ hstep) _ _
    -- The line feed behind it is read only here, so the other side stands still.
    · have hpassed := hskips hfeed.2 o c (State.isSpace_of_isLineEnd (.inr hfeed.1))
      rw [State.outcome_cons hpassed]
      exact ih halike (hs.step hpassed) (by simp) _ _
    · rw [newlinesFrom_eq_append, List.reverse_singleton, List.singleton_append]
      exact State.agree_outcome_cons (halike.step o o' c) hsame

/-- Two readings of a text: the same value, a malformed text in both, or an integer that is too
long. -/
inductive SameReading : Except ReadError Value → Except ReadError Value → Prop
  | ok (v : Value) : SameReading (.ok v) (.ok v)
  | malformed (f f' : Fault) (p p' : Position) :
    SameReading (.error (.malformed f p)) (.error (.malformed f' p'))
  | tooManyDigits (n : Nat) : SameReading (.error (.tooManyDigits n)) (.error (.tooManyDigits n))

theorem SameReading.refl (r : Except ReadError Value) : SameReading r r := by
  match r with
  | .ok v => exact .ok v
  | .error (.malformed f p) => exact .malformed f f p p
  | .error (.tooManyDigits n) => exact .tooManyDigits n

theorem sameReading_readDecoded (t : Text) :
    SameReading (readDecoded t) (readDecoded (universalNewlines t)) := by
  have hstart : Reached (.value []) [] := .value (.nil isBlank_nil)
  have hagree : Agree Eq ((State.value []).outcome 0 t)
      ((State.value []).outcome 0 (universalNewlines t)) :=
    agree_newlinesFrom t (.refl _) hstart (by simp) 0 0
  rw [readDecoded, readDecoded, State.readDocument_eq_outcome, State.readDocument_eq_outcome]
  generalize (State.value []).outcome 0 t = r at hagree
  generalize (State.value []).outcome 0 (universalNewlines t) = r' at hagree
  cases hagree with
  | ok h =>
    subst h
    exact .ok _
  | flaw f g => exact .malformed _ _ _ _
  | tooManyDigits n => exact .tooManyDigits n

/-- The first code point of a text stays, unless it is a carriage return. -/
theorem exists_universalNewlines_cons (c : CodePoint) (t : Text) :
    ∃ d u, universalNewlines (c :: t) = d :: u ∧ (d.val = 0xFEFF ↔ c.val = 0xFEFF) := by
  rw [universalNewlines, newlinesFrom]
  by_cases hreturn : c = CodePoint.ofChar '\r'
  · subst hreturn
    rw [if_pos rfl, newlinesFrom_eq_append]
    exact ⟨_, _, rfl, by decide⟩
  · rw [if_neg hreturn, if_neg (by simp), newlinesFrom_eq_append]
    exact ⟨_, _, rfl, Iff.rfl⟩

/-- Line ends of any kind do not change what is read, and neither whether a text is malformed. -/
theorem sameReading_universalNewlines (t : Text) :
    SameReading (read t) (read (universalNewlines t)) := by
  cases t with
  | nil => exact sameReading_readDecoded []
  | cons c t =>
    have hdecoded := sameReading_readDecoded (c :: t)
    obtain ⟨d, u, htext, hmark⟩ := exists_universalNewlines_cons c t
    rw [htext] at hdecoded ⊢
    simp only [read]
    by_cases hc : c.val = 0xFEFF
    · rw [if_pos hc, if_pos (hmark.mpr hc)]
      exact .malformed _ _ _ _
    · rw [if_neg hc, if_neg (mt hmark.mp hc)]
      exact hdecoded

end JsonTypings.Json
