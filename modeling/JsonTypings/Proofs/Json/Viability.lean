import JsonTypings.Proofs.Json.Language

/-! The reader never goes too far. Whatever state it is in, some rest completes the text so far to a
document, and what it blames in the end lies at or before the place where it stopped. So the text
before a flaw is the beginning of a document. -/
namespace JsonTypings.Json

/-- The beginning of some document. -/
def Viable (t : Text) : Prop := ∃ rest v, Denotes (t ++ rest) v

theorem Viable.of_append {t u : Text} (h : Viable (t ++ u)) : Viable t := by
  obtain ⟨rest, v, hv⟩ := h
  rw [List.append_assoc] at hv
  exact ⟨u ++ rest, v, hv⟩

theorem Viable.mono {t u : Text} (h : Viable t) (hbegins : u <+: t) : Viable u := by
  obtain ⟨rest, rfl⟩ := hbegins
  exact h.of_append

theorem Numeral.exists_value {m : Numeral} (h : m.isInteger = false) : ∃ v, m.value = .ok v := by
  rw [value, h]
  exact ⟨.float m.float, rfl⟩

/-- With a zero behind its point or in its exponent a number is a float, however many digits it has. -/
theorem Numeral.exists_float (phase : Phase) (m : Numeral) : ∃ t phase' m',
    feed (phase, m) t = some (phase', m') ∧ phase'.pending = 0 ∧ ∃ v, m'.value = .ok v := by
  cases phase with
  | zero | whole => exact ⟨Text.ofString ".0", _, _, rfl, rfl, exists_value rfl⟩
  | point | fraction => exact ⟨Text.ofString "0", _, _, rfl, rfl, exists_value rfl⟩
  | mark | markSign | exponent =>
    exact ⟨Text.ofString "0", _, _, rfl, rfl, exists_value (Bool.and_false _)⟩

namespace Quotation

variable {q q' : Quotation} {offset : Nat} {c : CodePoint}

theorem opened_of_step (h : q.step offset c = .ok (.still q')) : q'.opened = q.opened := by
  unfold step stepPlain at h
  repeat' split at h
  all_goals cases h
  all_goals rfl

/-- A string blames the code point at hand, or the escape that it is in. -/
theorem offset_le_of_step {f : Flaw} (h : q.step offset c = .error f) : f.offset ≤ offset := by
  unfold step stepPlain at h
  repeat' split at h
  all_goals cases h
  · exact le_rfl
  · exact le_rfl
  · exact Nat.sub_le offset 1
  · exact (Nat.sub_le _ _).trans (Nat.sub_le offset 1)

/-- A string that has no end blames its beginning, or the escape that it is in. -/
theorem offset_unfinished_le (h : q.opened ≤ offset) : (q.unfinished offset).offset ≤ offset := by
  unfold unfinished
  split
  · exact h
  · exact h
  · exact Nat.sub_le offset 5
  · exact (Nat.sub_le _ _).trans (Nat.sub_le offset 1)

end Quotation

namespace State

/-- From some state, wherever it is reached, some rest leads to a document. -/
def Completes (s : State) : Prop := ∃ t v, s.Accepts t v

variable {s s' : State} {stack : List Frame} {offset : Nat} {c : CodePoint} {t : Text}

theorem Completes.of_moves (h : s'.Completes) (hmoves : s.Moves t s') : s.Completes := by
  obtain ⟨rest, v, haccepts⟩ := h
  exact ⟨t ++ rest, v, hmoves.accepts haccepts⟩

theorem Completes.of_step (h : s'.Completes) (c : CodePoint)
    (hstep : ∀ offset, s.step offset c = .ok s') : s.Completes :=
  h.of_moves (.single hstep)

/-- Closing all open containers completes the document around a value. -/
theorem exists_closing (v : Value) (stack : List Frame) :
    ∃ t w, Delimited t ∧ (give v stack).Accepts t w := by
  induction stack generalizing v with
  | nil => exact ⟨[], v, by simp [Delimited], fun offset => rfl⟩
  | cons frame stack ih =>
    cases frame with
    | item before =>
      obtain ⟨t, w, -, haccepts⟩ := ih (.array (v :: before).reverse)
      refine ⟨CodePoint.ofChar ']' :: t, w, delimited_cons (.inr (.inl rfl)) t, ?_⟩
      exact haccepts.cons fun offset => by simp [give, step, stepItemEnd, isSpace]
    | member before key =>
      obtain ⟨t, w, -, haccepts⟩ := ih (.object (before.insert key v))
      refine ⟨CodePoint.ofChar '\x7d' :: t, w, delimited_cons (.inr (.inr rfl)) t, ?_⟩
      exact haccepts.cons fun offset => by simp [give, step, stepMemberEnd, isSpace]

theorem completes_give (v : Value) (stack : List Frame) : (give v stack).Completes := by
  obtain ⟨t, w, -, haccepts⟩ := exists_closing v stack
  exact ⟨t, w, haccepts⟩

theorem completes_firstItem (stack : List Frame) : (firstItem stack).Completes :=
  (completes_give (.array []) stack).of_step ']' fun _ => rfl

theorem completes_value (stack : List Frame) : (value stack).Completes :=
  (completes_firstItem stack).of_step '[' fun _ => rfl

theorem completes_colon (members : Members) (key : Text) (stack : List Frame) :
    (colon members key stack).Completes :=
  (completes_value (.member members key :: stack)).of_step ':' fun _ => rfl

theorem completes_nextKey (members : Members) (stack : List Frame) :
    (nextKey members stack).Completes := by
  obtain ⟨t, v, haccepts⟩ := completes_colon members [] stack
  have hkey : (nextKey members stack).Accepts (stringText [] ++ t) v :=
    accepts_stringText [] (fun _ => rfl) (fun _ _ hq => by simp only [step, hq]; rfl) haccepts
  exact ⟨_, v, hkey⟩

theorem completes_firstKey (stack : List Frame) : (firstKey stack).Completes :=
  (completes_give (.object []) stack).of_step '\x7d' fun _ => rfl

theorem completes_itemEnd (items : List Value) (stack : List Frame) :
    (itemEnd items stack).Completes := by
  refine (completes_give (.array items.reverse) stack).of_step ']' fun offset => ?_
  simp [step, stepItemEnd, isSpace]

theorem completes_memberEnd (members : Members) (stack : List Frame) :
    (memberEnd members stack).Completes := by
  refine (completes_give (.object members) stack).of_step '\x7d' fun offset => ?_
  simp [step, stepMemberEnd, isSpace]

/-! Strings -/

variable {q : Quotation}

/-- Between two units a quote closes the string. -/
theorem completes_between (h : q.IsBetween) (role : StringRole) (stack : List Frame) :
    (string q role stack).Completes := by
  have hclose (offset : Nat) := Quotation.step_quote h offset
  cases role with
  | value =>
    refine (completes_give (.string q.content.reverse) stack).of_step '"' fun offset => ?_
    simp only [step, hclose]
  | key members =>
    refine (completes_colon members q.content.reverse stack).of_step '"' fun offset => ?_
    simp only [step, hclose]

/-- Zeros fill up the digits of an escape. -/
theorem completes_unicode {paired : Bool} {digits : List Nat} (h : q.phase = .unicode paired digits)
    (role : StringRole) (stack : List Frame) : (string q role stack).Completes := by
  have hzero : (CodePoint.ofChar '0').hexDigit? = some 0 := rfl
  -- On the number of digits that are missing in front of the last one.
  induction hmissing : 3 - digits.length generalizing q digits with
  | zero =>
    have hlast : ¬ digits.length < 3 := by omega
    have hbetween : Quotation.IsBetween { q with
        content := Quotation.addUnit paired q.content
          (.ofNat ((0 :: digits).foldr (fun d n => d + 16 * n) 0))
        phase := .afterUnicode } := .inr rfl
    refine (completes_between hbetween role stack).of_step '0' fun offset => step_string ?_
    simp only [Quotation.step, h, hzero, hlast, if_false]
  | succ missing ih =>
    have hmore : digits.length < 3 := by omega
    have hnext := @ih { q with phase := .unicode paired (0 :: digits) } (0 :: digits) rfl
      (by rw [List.length_cons]; omega)
    refine hnext.of_step '0' fun offset => step_string ?_
    simp only [Quotation.step, h, hzero, hmore, if_true]

theorem completes_string (q : Quotation) (role : StringRole) (stack : List Frame) :
    (string q role stack).Completes := by
  cases h : q.phase with
  | plain => exact completes_between (.inl h) role stack
  | afterUnicode => exact completes_between (.inr h) role stack
  | backslash paired =>
    have hbetween : Quotation.IsBetween
        { q with content := CodePoint.ofChar '\\' :: q.content, phase := .plain } := .inl rfl
    refine (completes_between hbetween role stack).of_step '\\' fun offset => step_string ?_
    simp only [Quotation.step, h]
    rfl
  | unicode paired digits => exact completes_unicode h role stack

/-! Words and numbers -/

theorem completes_word {rest : Text} (h : rest ≠ []) (opened : Nat) (v : Value) (stack : List Frame) :
    (word opened rest v stack).Completes := by
  obtain ⟨c, rest, rfl⟩ := List.exists_cons_of_ne_nil h
  exact (completes_give v stack).of_moves (moves_word opened c rest v stack)

/-- A number becomes a float, and so it is not too long. -/
theorem completes_number (phase : Numeral.Phase) (m : Numeral) (stack : List Frame) :
    (number phase m stack).Completes := by
  obtain ⟨t, phase', m', hfeed, hphase, v, hvalue⟩ := m.exists_float phase
  obtain ⟨rest, w, hdelimited, haccepts⟩ := exists_closing v stack
  exact ⟨t ++ rest, w, (moves_number hfeed).accepts (accepts_number hphase hvalue hdelimited haccepts)⟩

theorem completes_minus (stack : List Frame) : (minus stack).Completes :=
  (completes_number (Numeral.start true 0).1 (Numeral.start true 0).2 stack).of_step '0' fun _ => rfl

/-! Places -/

/-- What a state remembers of places lies before an offset, and something of a word is missing. -/
def Placed (offset : Nat) : State → Prop
  | .string q _ _ => q.opened < offset
  | .word opened rest _ _ => opened < offset ∧ rest ≠ []
  | _ => True

theorem Placed.completes (h : s.Placed offset) : s.Completes := by
  cases s with
  | value stack => exact completes_value stack
  | firstItem stack => exact completes_firstItem stack
  | itemEnd items stack => exact completes_itemEnd items stack
  | firstKey stack => exact completes_firstKey stack
  | nextKey members stack => exact completes_nextKey members stack
  | colon members key stack => exact completes_colon members key stack
  | memberEnd members stack => exact completes_memberEnd members stack
  | done v => exact completes_give v []
  | string q role stack => exact completes_string q role stack
  | word opened rest v stack => exact completes_word h.2 opened v stack
  | minus stack => exact completes_minus stack
  | number phase m stack => exact completes_number phase m stack

theorem placed_give (v : Value) (stack : List Frame) : (give v stack).Placed offset := by
  cases stack with
  | nil => trivial
  | cons frame stack => cases frame <;> trivial

/-- What may come of the code point at an offset: a state that is placed before the next one, or a
stop that blames no later place. -/
def Timely (offset : Nat) : Except Stop State → Prop
  | .ok s => s.Placed (offset + 1)
  | .error (.flaw f) => f.offset ≤ offset
  | .error (.tooManyDigits _) => True

theorem timely_stop {fault : Fault} {place : Nat} (h : place ≤ offset) :
    Timely offset (stop fault place) := h

theorem timely_stepValue (stack : List Frame) (offset : Nat) (c : CodePoint) :
    Timely offset (stepValue stack offset c) := by
  unfold stepValue
  split_ifs
  · trivial
  · exact Nat.lt_succ_self offset
  · trivial
  · trivial
  · trivial
  · split
    · trivial
    · rename_i hword
      exact ⟨Nat.lt_succ_self offset, (mem_words_of_word? hword).2⟩
    · exact timely_stop le_rfl

theorem timely_stepKey (members : Members) (stack : List Frame) (offset : Nat) (c : CodePoint) :
    Timely offset (stepKey members stack offset c) := by
  unfold stepKey
  split_ifs
  · exact Nat.lt_succ_self offset
  · exact timely_stop le_rfl

theorem timely_stepItemEnd (items : List Value) (stack : List Frame) (offset : Nat) (c : CodePoint) :
    Timely offset (stepItemEnd items stack offset c) := by
  unfold stepItemEnd
  split_ifs
  · trivial
  · trivial
  · exact placed_give _ stack
  · exact timely_stop le_rfl

theorem timely_stepMemberEnd (members : Members) (stack : List Frame) (offset : Nat) (c : CodePoint) :
    Timely offset (stepMemberEnd members stack offset c) := by
  unfold stepMemberEnd
  split_ifs
  · trivial
  · trivial
  · exact placed_give _ stack
  · exact timely_stop le_rfl

theorem timely_stepDone (v : Value) (offset : Nat) (c : CodePoint) :
    Timely offset (stepDone v offset c) := by
  unfold stepDone
  split_ifs
  · trivial
  · exact timely_stop le_rfl

theorem timely_stepAfter (v : Value) (stack : List Frame) (offset : Nat) (c : CodePoint) :
    Timely offset (stepAfter v stack offset c) := by
  cases stack with
  | nil => exact timely_stepDone v offset c
  | cons frame stack =>
    cases frame with
    | item before => exact timely_stepItemEnd (v :: before) stack offset c
    | member before key => exact timely_stepMemberEnd (before.insert key v) stack offset c

/-- A number that is no value blames a place in it. -/
theorem offset_le_of_numberValue {phase : Numeral.Phase} {m : Numeral} {f : Flaw}
    (h : numberValue phase m stack offset = .error (.flaw f)) : f.offset ≤ offset := by
  unfold numberValue at h
  split at h
  · cases h
  · split_ifs at h
    cases h
    exact Nat.sub_le offset phase.pending

theorem timely_number (phase : Numeral.Phase) (m : Numeral) (stack : List Frame) (offset : Nat)
    (c : CodePoint) : Timely offset ((number phase m stack).step offset c) := by
  simp only [step]
  split
  · trivial
  · cases hv : numberValue phase m stack offset with
    | ok v => exact timely_stepAfter v stack offset c
    | error e =>
      cases e with
      | flaw f => exact offset_le_of_numberValue hv
      | tooManyDigits digits => trivial

theorem timely_string (h : q.opened < offset) (role : StringRole) (stack : List Frame)
    (c : CodePoint) : Timely offset ((string q role stack).step offset c) := by
  cases hq : q.step offset c with
  | error f =>
    have hstep : (string q role stack).step offset c = .error (.flaw f) := by simp only [step, hq]
    rw [hstep]
    exact Quotation.offset_le_of_step hq
  | ok progress =>
    cases progress with
    | still q' =>
      rw [step_string hq]
      exact (Quotation.opened_of_step hq).trans_lt (h.trans (Nat.lt_succ_self offset))
    | closed t =>
      cases role with
      | value =>
        have hstep : (string q .value stack).step offset c = .ok (give (.string t) stack) := by
          simp only [step, hq]
        rw [hstep]
        exact placed_give _ stack
      | key members =>
        have hstep : (string q (.key members) stack).step offset c = .ok (colon members t stack) := by
          simp only [step, hq]
        rw [hstep]
        trivial

/-- The code point at an offset leads a state that is placed before it to one that is placed before
the next offset, or it stops the reader, which then blames no later place. -/
theorem Placed.timely (h : s.Placed offset) (c : CodePoint) : Timely offset (s.step offset c) := by
  cases s with
  | value stack => exact timely_stepValue stack offset c
  | firstItem stack =>
    simp only [step]
    split_ifs
    · trivial
    · exact placed_give _ stack
    · exact timely_stepValue (.item [] :: stack) offset c
  | itemEnd items stack => exact timely_stepItemEnd items stack offset c
  | firstKey stack =>
    simp only [step]
    split_ifs
    · trivial
    · exact placed_give _ stack
    · exact timely_stepKey [] stack offset c
  | nextKey members stack =>
    simp only [step]
    split_ifs
    · trivial
    · exact timely_stepKey members stack offset c
  | colon members key stack =>
    simp only [step]
    split_ifs
    · trivial
    · trivial
    · exact timely_stop le_rfl
  | memberEnd members stack => exact timely_stepMemberEnd members stack offset c
  | done v => exact timely_stepDone v offset c
  | string q role stack => exact timely_string h role stack c
  | word opened rest v stack =>
    obtain ⟨hopened, hrest⟩ := h
    obtain ⟨d, rest, rfl⟩ := List.exists_cons_of_ne_nil hrest
    simp only [step]
    split_ifs with hc hempty
    · exact placed_give v stack
    · exact ⟨hopened.trans (Nat.lt_succ_self offset), mt List.isEmpty_iff.mpr hempty⟩
    · exact timely_stop hopened.le
  | minus stack =>
    simp only [step]
    split
    · trivial
    · split_ifs
      · exact ⟨Nat.lt_succ_of_le (Nat.sub_le offset 1), by simp [Text.ofString]⟩
      · exact timely_stop (Nat.sub_le offset 1)
  | number phase m stack => exact timely_number phase m stack offset c

/-- A text that ends too early is told of a place in it. -/
theorem Placed.offset_le_of_finish {f : Flaw} (h : s.Placed offset)
    (hs : s.finish offset = .error (.flaw f)) : f.offset ≤ offset := by
  cases s with
  | done v => cases hs
  | string q role stack =>
    cases hs
    exact Quotation.offset_unfinished_le (Nat.le_of_lt h)
  | word opened rest v stack =>
    cases hs
    exact Nat.le_of_lt h.1
  | minus stack =>
    cases hs
    exact Nat.sub_le offset 1
  | number phase m stack =>
    simp only [finish] at hs
    cases hv : numberValue phase m stack offset with
    | error e =>
      simp only [hv] at hs
      cases hs
      exact offset_le_of_numberValue hv
    | ok v =>
      cases stack with
      | nil => simp [hv] at hs
      | cons frame stack =>
        simp only [hv] at hs
        cases hs
        exact le_rfl
  | _ =>
    cases hs
    exact le_rfl

/-- A whole text leads from state to state as each code point does. -/
theorem Placed.run (h : s.Placed offset) (hs : s.run offset t = .ok s') :
    s'.Placed (offset + t.length) := by
  induction t generalizing s offset with
  | nil =>
    cases hs
    exact h
  | cons c t ih =>
    have htimely := h.timely c
    rw [State.run] at hs
    cases hc : s.step offset c with
    | error e => simp [hc] at hs
    | ok s₁ =>
      rw [hc] at hs htimely
      have hrest := ih htimely hs
      rwa [Nat.add_assoc, Nat.add_comm 1] at hrest

/-- When the reader stops, it has come through the text before some code point, and it blames that
one or a place before it. -/
theorem Placed.exists_of_run {f : Flaw} (h : s.Placed offset)
    (hs : s.run offset t = .error (.flaw f)) :
    ∃ u s', u <+: t ∧ s.run offset u = .ok s' ∧ f.offset ≤ offset + u.length := by
  induction t generalizing s offset with
  | nil => cases hs
  | cons c t ih =>
    have htimely := h.timely c
    rw [State.run] at hs
    cases hc : s.step offset c with
    | error e =>
      rw [hc] at hs htimely
      cases hs
      exact ⟨[], s, List.nil_prefix, rfl, htimely⟩
    | ok s₁ =>
      rw [hc] at hs htimely
      obtain ⟨u, s', hbegins, hrun, hle⟩ := ih htimely hs
      refine ⟨c :: u, s', List.cons_prefix_cons.mpr ⟨rfl, hbegins⟩, ?_, ?_⟩
      · rw [State.run, hc]
        exact hrun
      · rw [List.length_cons]
        omega

end State

/-- Whatever the reader comes through is the beginning of a document. -/
theorem viable_of_run {t : Text} {s : State} (h : (State.value []).run 0 t = .ok s) : Viable t := by
  have hstart : (State.value []).Placed 0 := trivial
  obtain ⟨rest, v, haccepts⟩ := (hstart.run h).completes
  refine ⟨rest, v, readDocument_eq_ok.mp ?_⟩
  rw [State.readDocument_eq_outcome, State.outcome, State.run_append, h, List.length_append, ← Nat.add_assoc]
  exact haccepts (0 + t.length)

/-- The text before a flaw is the beginning of a document. -/
theorem viable_of_flaw {t : Text} {f : Flaw} (h : readDocument t = .error (.flaw f)) :
    f.offset ≤ t.length ∧ Viable (t.take f.offset) := by
  have hstart : (State.value []).Placed 0 := trivial
  obtain ⟨u, s, hbegins, hrun, hle⟩ : ∃ u s, u <+: t ∧ (State.value []).run 0 u = .ok s ∧
      f.offset ≤ u.length := by
    unfold readDocument at h
    cases hrun : (State.value []).run 0 t with
    | error e =>
      rw [hrun] at h
      cases h
      simpa using hstart.exists_of_run hrun
    | ok s =>
      rw [hrun] at h
      have hplaced := hstart.run hrun
      rw [Nat.zero_add] at hplaced
      exact ⟨t, s, List.prefix_rfl, hrun, hplaced.offset_le_of_finish h⟩
  refine ⟨hle.trans hbegins.length_le, (viable_of_run hrun).mono ?_⟩
  exact List.prefix_of_prefix_length_le (List.take_prefix _ t) hbegins
    ((List.length_take_le _ t).trans hle)

/-! Lines and columns -/

namespace Position

theorem locate_line (text : Text) (offset : Nat) :
    (locate text offset).line = 1 + (text.take offset).count (CodePoint.ofChar '\n') := by
  unfold locate
  induction text.take offset using List.reverseRecOn with
  | nil => rfl
  | append_singleton t c ih =>
    rw [List.foldl_append, List.count_append, ← Nat.add_assoc, ← ih]
    by_cases hc : c = CodePoint.ofChar '\n' <;> simp [advance, hc]

/-- A column counts from behind the last line feed. -/
theorem locate_column (text : Text) (offset : Nat) :
    (locate text offset).column =
      1 + ((text.take offset).reverse.takeWhile fun c => c ≠ CodePoint.ofChar '\n').length := by
  unfold locate
  induction text.take offset using List.reverseRecOn with
  | nil => rfl
  | append_singleton t c ih =>
    rw [List.foldl_append, List.reverse_append]
    by_cases hc : c = CodePoint.ofChar '\n'
    · simp [advance, hc]
    · simp [advance, hc, ih, Nat.add_assoc]

end Position

end JsonTypings.Json
