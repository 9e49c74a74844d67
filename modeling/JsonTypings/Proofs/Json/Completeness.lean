import JsonTypings.Proofs.Json.Number
import JsonTypings.Proofs.Json.Quotation

/-! Every text of the language is read, and as what it denotes. In front of the rest of a document
the text of a value leads to the state after the value, as long as the rest cannot belong to a
number. -/
namespace JsonTypings.Json

open Quotation

namespace State

/-- What reading a whole text from some state gives. -/
def outcome (s : State) (offset : Nat) (t : Text) : Except Stop Value :=
  match s.run offset t with
  | .ok s => s.finish (offset + t.length)
  | .error e => .error e

theorem readDocument_eq_outcome (t : Text) : readDocument t = (value []).outcome 0 t := by
  unfold outcome
  rw [Nat.zero_add]
  rfl

theorem outcome_cons {s s' : State} {offset : Nat} {c : CodePoint} (h : s.step offset c = .ok s')
    (t : Text) :
    s.outcome offset (c :: t) = s'.outcome (offset + 1) t := by
  simp only [outcome, run, h, List.length_cons]
  rw [Nat.add_assoc, Nat.add_comm 1]

/-- The first step decides. -/
theorem outcome_congr {s s' : State} {offset : Nat} {c : CodePoint}
    (h : s.step offset c = s'.step offset c)
    (t : Text) : s.outcome offset (c :: t) = s'.outcome offset (c :: t) := by
  rw [outcome, outcome, run, run, h]

/-- From some state, wherever it is reached, the rest of a document is read as a value. -/
def Accepts (s : State) (t : Text) (v : Value) : Prop := ∀ offset, s.outcome offset t = .ok v

/-- A text leads from one state to another, wherever the first is reached. -/
def Moves (s : State) (t : Text) (s' : State) : Prop := ∀ offset, s.run offset t = .ok s'

variable {s s' s'' : State} {t u : Text} {c : CodePoint} {v w : Value}

theorem accepts_cons (h : ∀ offset, ∃ s', s.step offset c = .ok s' ∧ s'.Accepts t v) :
    s.Accepts (c :: t) v := by
  intro offset
  obtain ⟨s', hstep, haccepts⟩ := h offset
  rw [outcome_cons hstep, haccepts]

theorem Accepts.cons (h : s'.Accepts t v) (hstep : ∀ offset, s.step offset c = .ok s') :
    s.Accepts (c :: t) v :=
  accepts_cons fun offset => ⟨s', hstep offset, h⟩

theorem Moves.refl (s : State) : s.Moves [] s := fun _ => rfl

theorem Moves.cons (h : s'.Moves t s'') (hstep : ∀ offset, s.step offset c = .ok s') :
    s.Moves (c :: t) s'' := by
  intro offset
  rw [run, hstep]
  exact h (offset + 1)

theorem Moves.single (hstep : ∀ offset, s.step offset c = .ok s') : s.Moves [c] s' :=
  (Moves.refl s').cons hstep

theorem Moves.append (h : s.Moves t s') (h' : s'.Moves u s'') : s.Moves (t ++ u) s'' := by
  intro offset
  rw [run_append, h offset]
  exact h' (offset + t.length)

theorem Moves.accepts (h : s.Moves t s') (h' : s'.Accepts u v) : s.Accepts (t ++ u) v := by
  intro offset
  have hu := h' (offset + t.length)
  rw [outcome] at hu ⊢
  rw [run_append, h offset, List.length_append, ← Nat.add_assoc]
  exact hu

/-! Strings -/

variable {q : Quotation} {role : StringRole} {stack : List Frame}

theorem step_string {q' : Quotation} {offset : Nat} (h : q.step offset c = .ok (.still q')) :
    (string q role stack).step offset c = .ok (string q' role stack) := by
  cases role <;> simp [step, h]

/-- The digits of an escape are kept, all but the last one. -/
theorem moves_hexDigits (paired : Bool) {digits : Text} {values : List (Fin 16)}
    (hspelled : digits.map CodePoint.hexDigit? = values.map fun d => some d.val) (before : List Nat)
    (hshort : values.length + before.length < 4) :
    (string { q with phase := .unicode paired before } role stack).Moves digits
      (string { q with phase := .unicode paired (values.reverse.map Fin.val ++ before) } role stack) := by
  induction values generalizing digits before with
  | nil =>
    obtain rfl : digits = [] := by simpa using hspelled
    exact .refl _
  | cons d values ih =>
    obtain ⟨c, digits, rfl⟩ : ∃ c rest, digits = c :: rest := by
      cases digits with
      | nil => simp at hspelled
      | cons c rest => exact ⟨c, rest, rfl⟩
    simp only [List.map_cons, List.cons.injEq] at hspelled
    rw [List.length_cons] at hshort
    have hbefore : before.length < 3 := by omega
    have hrest := ih hspelled.2 (d.val :: before) (by rw [List.length_cons]; omega)
    rw [List.reverse_cons, List.map_append, List.append_assoc]
    refine Moves.cons hrest fun offset => step_string ?_
    simp [Quotation.step, hspelled.1, hbefore]

/-- A whole unit is read. -/
theorem moves_unit (h : q.IsBetween) (u : StringUnit) :
    (string q role stack).Moves u.text (string (q.push u) role stack) := by
  have hbackslash (offset : Nat) : q.step offset (CodePoint.ofChar '\\') =
      .ok (.still { q with phase := .backslash q.endsInHighEscape }) := by
    rcases h with h | h <;> simp [Quotation.step, h, stepPlain]
  cases u with
  | plain c hvisible hunquoted =>
    refine .single fun offset => step_string ?_
    have hcontrol : ¬ c.val < 0x20 := Nat.not_lt.mpr hvisible
    rcases h with h | h <;>
      simp [Quotation.step, h, stepPlain, hunquoted, hcontrol, push, StringUnit.isUnicode,
        StringUnit.codePoint]
  | short letter meaning hlisted =>
    refine .cons (.single fun offset => step_string ?_) fun offset => step_string (hbackslash offset)
    have hmeaning := shortEscape?_eq_some.mpr hlisted
    have hletter : letter ≠ CodePoint.ofChar 'u' := by
      rintro rfl
      cases hmeaning
    simp [Quotation.step, hletter, hmeaning, push, StringUnit.isUnicode, StringUnit.codePoint]
  | unicode digits values hfour hspelled =>
    obtain ⟨init, last, rfl⟩ : ∃ init last, values = init ++ [last] := by
      rcases List.eq_nil_or_concat' values with rfl | h
      · simp at hfour
      · exact h
    have hthree : init.length = 3 := by simpa using hfour
    obtain ⟨digits', c, rfl, hinit, hlast⟩ : ∃ digits' c, digits = digits' ++ [c] ∧
        digits'.map CodePoint.hexDigit? = init.map (fun d => some d.val) ∧
          c.hexDigit? = some last.val := by
      have hparts := hspelled
      rw [List.map_append, List.map_eq_append_iff] at hparts
      obtain ⟨digits', final, rfl, hinit, hfinal⟩ := hparts
      obtain ⟨c, rfl, hc⟩ := List.map_eq_singleton_iff.mp hfinal
      exact ⟨digits', c, rfl, hinit, hc⟩
    have hfirst : (string { q with phase := .unicode q.endsInHighEscape [] } role stack).Moves digits' _ :=
      moves_hexDigits q.endsInHighEscape hinit [] (by rw [hthree]; decide)
    refine .cons (.cons (hfirst.append (.single fun offset => step_string ?_)) fun offset => step_string ?_)
      fun offset => step_string (hbackslash offset)
    · have hvalue := foldr_hex_eq_ofDigits (init ++ [last])
      simp only [List.reverse_append, List.reverse_singleton, List.cons_append, List.nil_append,
        List.map_cons] at hvalue
      rw [Quotation.step]
      simp only [hlast, List.append_nil, List.length_map, List.length_reverse, hthree,
        Nat.lt_irrefl, if_false, hvalue]
      simp [push, StringUnit.isUnicode, StringUnit.codePoint]
    · simp [Quotation.step]

theorem moves_units (h : q.IsBetween) (us : List StringUnit) :
    (string q role stack).Moves (us.flatMap StringUnit.text) (string (us.foldl push q) role stack) := by
  induction us generalizing q with
  | nil => exact .refl _
  | cons u us ih => exact (moves_unit h u).append (ih (isBetween_push q u))

/-- A whole string is read where one may begin. -/
theorem accepts_stringText (us : List StringUnit)
    (hopen : ∀ offset, s.step offset (CodePoint.ofChar '"') = .ok (string (start offset) role stack))
    (hclose : ∀ offset q, q.step offset (CodePoint.ofChar '"') = .ok (.closed (StringUnit.contents us)) →
      (string q role stack).step offset (CodePoint.ofChar '"') = .ok s')
    (h : s'.Accepts u w) : s.Accepts (stringText us ++ u) w := by
  rw [stringText, List.cons_append, List.append_assoc]
  refine accepts_cons fun offset => ⟨_, hopen offset, ?_⟩
  refine (moves_units (.inl rfl) us).accepts (h.cons fun offset' => hclose offset' _ ?_)
  rw [step_quote (isBetween_foldl_push (.inl rfl) us), content_units]

/-! Words -/

theorem moves_word (opened : Nat) (c : CodePoint) (rest : Text) (v : Value) (stack : List Frame) :
    (word opened (c :: rest) v stack).Moves (c :: rest) (give v stack) := by
  induction rest generalizing c with
  | nil => exact .single fun offset => by simp [step]
  | cons d rest ih => exact (ih d).cons fun offset => by simp [step]

theorem accepts_word (h : (t, v) ∈ words) (hu : (give v stack).Accepts u w) :
    (value stack).Accepts (t ++ u) w := by
  simp only [words, List.mem_cons, List.not_mem_nil, or_false, Prod.mk.injEq] at h
  rcases h with ⟨rfl, rfl⟩ | ⟨rfl, rfl⟩ | ⟨rfl, rfl⟩ | ⟨rfl, rfl⟩ | ⟨rfl, rfl⟩ | ⟨rfl, rfl⟩
  case inr.inr.inr.inr.inr =>
    have hminus : (minus stack).Accepts (Text.ofString "Infinity" ++ u) w :=
      accepts_cons fun offset => ⟨_, rfl, (moves_word _ _ _ _ _).accepts hu⟩
    exact hminus.cons fun offset => rfl
  all_goals exact accepts_cons fun offset => ⟨_, rfl, (moves_word _ _ _ _ _).accepts hu⟩

/-! White space -/

/-- A state that white space does not change. -/
def Skips (s : State) : Prop := ∀ offset c, isSpace c = true → s.step offset c = .ok s

theorem Skips.moves (h : s.Skips) (ht : IsBlank t) : s.Moves t s := by
  induction t with
  | nil => exact .refl s
  | cons c t ih =>
    rw [IsBlank, List.forall_mem_cons] at ht
    exact (ih ht.2).cons fun offset => h offset c ht.1

theorem skips_value (stack : List Frame) : (value stack).Skips :=
  fun _ _ hc => by simp [step, stepValue, hc]

theorem skips_firstItem (stack : List Frame) : (firstItem stack).Skips :=
  fun _ _ hc => by simp [step, hc]

theorem skips_firstKey (stack : List Frame) : (firstKey stack).Skips :=
  fun _ _ hc => by simp [step, hc]

theorem skips_nextKey (members : Members) (stack : List Frame) : (nextKey members stack).Skips :=
  fun _ _ hc => by simp [step, hc]

theorem skips_colon (members : Members) (key : Text) (stack : List Frame) :
    (colon members key stack).Skips :=
  fun _ _ hc => by simp [step, hc]

theorem skips_give (v : Value) (stack : List Frame) : (give v stack).Skips := by
  intro offset c hc
  cases stack with
  | nil => simp [give, step, stepDone, hc]
  | cons frame stack => cases frame <;> simp [give, step, stepItemEnd, stepMemberEnd, hc]

/-! Numbers -/

/-- A text that does not go on with a number that ends before it. -/
def Delimited (t : Text) : Prop :=
  ∀ c ∈ t.head?, isSpace c = true ∨ c = ',' ∨ c = ']' ∨ c = '\x7d'

theorem delimited_cons {c : Char} (h : c = ',' ∨ c = ']' ∨ c = '\x7d') (t : Text) :
    Delimited (CodePoint.ofChar c :: t) := by
  intro d hd
  obtain rfl : CodePoint.ofChar c = d := by simpa using hd
  rcases h with rfl | rfl | rfl <;> simp

theorem Delimited.append (h : Delimited u) (ht : IsBlank t) : Delimited (t ++ u) := by
  cases t with
  | nil => exact h
  | cons c t =>
    intro d hd
    obtain rfl : c = d := by simpa using hd
    exact .inl (ht c List.mem_cons_self)

theorem moves_number {m m' : Numeral.Phase × Numeral} (h : Numeral.feed m t = some m') :
    (number m.1 m.2 stack).Moves t (number m'.1 m'.2 stack) := by
  induction t generalizing m with
  | nil =>
    cases h
    exact .refl _
  | cons c t ih =>
    rw [Numeral.feed, List.foldlM_cons] at h
    obtain ⟨m₁, hc, hrest⟩ := Option.bind_eq_some_iff.mp h
    exact (ih hrest).cons fun offset => by simp [step, hc]

theorem extend?_eq_none (m : Numeral) {phase : Numeral.Phase} (hphase : phase.pending = 0)
    (hc : isSpace c = true ∨ c = ',' ∨ c = ']' ∨ c = '\x7d') : m.extend? phase c = none := by
  have hdelimiter : c.digit? = none ∧ c ≠ '.' ∧ c ≠ 'e' ∧ c ≠ 'E' := by
    simp only [isSpace, Bool.or_eq_true, decide_eq_true_eq] at hc
    rcases hc with (((rfl | rfl) | rfl) | rfl) | rfl | rfl | rfl <;> decide
  cases phase <;> simp_all [Numeral.extend?, Numeral.Phase.pending]

theorem stepAfter_eq_step (v : Value) (stack : List Frame) (offset : Nat) (c : CodePoint) :
    stepAfter v stack offset c = (give v stack).step offset c := by
  cases stack with
  | nil => rfl
  | cons frame stack => cases frame <;> rfl

/-- A whole number stands for its value when no code point behind it belongs to it. -/
theorem accepts_number {phase : Numeral.Phase} {m : Numeral} (hphase : phase.pending = 0)
    (hvalue : m.value = .ok v) (hdelimited : Delimited u) (hu : (give v stack).Accepts u w) :
    (number phase m stack).Accepts u w := by
  have hnumber (offset : Nat) : numberValue phase m stack offset = .ok v := by
    simp [numberValue, hvalue, hphase]
  cases u with
  | nil =>
    intro offset
    have hend := hu offset
    cases stack with
    | nil => simpa [outcome, run, finish, hnumber, give] using hend
    | cons frame stack => cases frame <;> simp [outcome, run, finish, give, stop] at hend
  | cons c u =>
    have hnone := extend?_eq_none m hphase (hdelimited c rfl)
    have hstep (offset : Nat) : (number phase m stack).step offset c = (give v stack).step offset c := by
      simp only [step, hnone, hnumber]
      exact stepAfter_eq_step v stack offset c
    intro offset
    rw [outcome_congr (hstep offset)]
    exact hu offset

/-- The text of a number leads from the place of a value to the number. -/
theorem moves_literal (n : NumberLiteral) (stack : List Frame) :
    (value stack).Moves n.text (number n.phase n.numeral stack) := by
  obtain ⟨d, rest, htext, hfeed⟩ := n.exists_feed
  have hnumber : (number _ _ stack).Moves rest (number n.phase n.numeral stack) := moves_number hfeed
  rw [htext]
  cases hsign : n.negative with
  | false =>
    rw [hsign] at hnumber
    refine hnumber.cons fun offset => ?_
    have hstart : ∀ d : Fin 10, isSpace (CodePoint.ofDigit d) = false ∧ CodePoint.ofDigit d ≠ '"' ∧
        CodePoint.ofDigit d ≠ '\x7b' ∧ CodePoint.ofDigit d ≠ '[' ∧ CodePoint.ofDigit d ≠ '-' := by decide
    simp [step, stepValue, hstart d]
  | true =>
    rw [hsign] at hnumber
    exact Moves.cons (hnumber.cons fun offset => by simp [step]) fun offset => rfl

theorem accepts_literal (n : NumberLiteral) (hvalue : n.numeral.value = .ok v)
    (hdelimited : Delimited u)
    (hu : (give v stack).Accepts u w) : (value stack).Accepts (n.text ++ u) w :=
  (moves_literal n stack).accepts (accepts_number n.pending_phase hvalue hdelimited hu)

/-! Containers -/

/-- In front of anything that ends a number, a text is read as some value. -/
def ReadsAs (t : Text) (v : Value) : Prop :=
  ∀ {stack : List Frame} {u : Text} {w : Value}, Delimited u → (give v stack).Accepts u w →
    (value stack).Accepts (t ++ u) w

/-- What may follow a comma of an array may follow its opening bracket. -/
theorem outcome_firstItem {offset : Nat}
    (h : (value (.item [] :: stack)).outcome offset t = .ok w) :
    (firstItem stack).outcome offset t = .ok w := by
  induction t generalizing offset with
  | nil => simp [outcome, run, finish, stop] at h
  | cons c t ih =>
    by_cases hspace : isSpace c = true
    · rw [outcome_cons (skips_value _ offset c hspace)] at h
      rw [outcome_cons (skips_firstItem stack offset c hspace)]
      exact ih h
    · have hclose : c ≠ ']' := by
        rintro rfl
        simp [outcome, run, step, stepValue, isSpace, word?, stop, CodePoint.digit?] at h
      have hstep : (firstItem stack).step offset c = (value (.item [] :: stack)).step offset c := by
        simp [step, hspace, hclose]
      rwa [outcome_congr hstep]

/-- What may follow a comma of an object may follow its opening brace. -/
theorem outcome_firstKey {offset : Nat} (h : (nextKey [] stack).outcome offset t = .ok w) :
    (firstKey stack).outcome offset t = .ok w := by
  induction t generalizing offset with
  | nil => simp [outcome, run, finish, stop] at h
  | cons c t ih =>
    by_cases hspace : isSpace c = true
    · rw [outcome_cons (skips_nextKey [] stack offset c hspace)] at h
      rw [outcome_cons (skips_firstKey stack offset c hspace)]
      exact ih h
    · have hclose : c ≠ '\x7d' := by
        rintro rfl
        simp [outcome, run, step, stepKey, isSpace, stop] at h
      have hstep : (firstKey stack).step offset c = (nextKey [] stack).step offset c := by
        simp [step, hspace, hclose]
      rwa [outcome_congr hstep]

/-- The items of an array are read behind those that came before. -/
theorem accepts_items {items : List (Text × Value)} (hne : items ≠ [])
    (h : ∀ i ∈ items, ReadsAs i.1 i.2) (before : List Value) (hdelimited : Delimited u)
    (hu : (itemEnd ((items.map Prod.snd).reverse ++ before) stack).Accepts u w) :
    (value (.item before :: stack)).Accepts (commaSeparated (items.map Prod.fst) ++ u) w := by
  induction items generalizing before with
  | nil => exact absurd rfl hne
  | cons i items ih =>
    obtain ⟨hi, hitems⟩ := List.forall_mem_cons.mp h
    cases items with
    | nil =>
      rw [List.map_singleton, commaSeparated_singleton]
      exact @hi (.item before :: stack) _ _ hdelimited hu
    | cons j items =>
      rw [List.map_cons, List.reverse_cons, List.append_assoc] at hu
      have hrest := ih (by simp) hitems (i.2 :: before) hu
      rw [List.map_cons, commaSeparated_cons (by simp), List.append_assoc, List.cons_append]
      refine hi (delimited_cons (.inl rfl) _) (hrest.cons fun offset => ?_)
      simp [give, step, stepItemEnd, isSpace]

theorem accepts_member {m : MemberText} (h : ReadsAs m.text m.value) (before : List (Text × Value))
    (hdelimited : Delimited u)
    (hu : (memberEnd (Members.ofPairs (before ++ [m.member])) stack).Accepts u w) :
    (nextKey (Members.ofPairs before) stack).Accepts (m.spelling ++ u) w := by
  rw [MemberText.member, Members.ofPairs_concat] at hu
  have hvalue := @h (.member (Members.ofPairs before) (StringUnit.contents m.key) :: stack) _ _ hdelimited hu
  have hcolon := ((skips_colon (Members.ofPairs before) (StringUnit.contents m.key) stack).moves
    m.between_blank).accepts (hvalue.cons (c := CodePoint.ofChar ':') fun offset => by simp [step, isSpace])
  have hopen (offset : Nat) : (nextKey (Members.ofPairs before) stack).step offset (CodePoint.ofChar '"') =
      .ok (string (start offset) (.key (Members.ofPairs before)) stack) := by
    simp [step, stepKey, isSpace]
  have hkey := accepts_stringText m.key hopen (fun offset q hq => by simp [step, hq]) hcolon
  have hbefore := ((skips_nextKey _ stack).moves m.before_blank).accepts hkey
  simpa [MemberText.spelling] using hbefore

/-- The members of an object are read behind those that came before. -/
theorem accepts_members {members : List MemberText} (hne : members ≠ [])
    (h : ∀ m ∈ members, ReadsAs m.text m.value) (before : List (Text × Value))
    (hdelimited : Delimited u)
    (hu : (memberEnd (Members.ofPairs (before ++ members.map MemberText.member)) stack).Accepts u w) :
    (nextKey (Members.ofPairs before) stack).Accepts
      (commaSeparated (members.map MemberText.spelling) ++ u) w := by
  induction members generalizing before with
  | nil => exact absurd rfl hne
  | cons m members ih =>
    obtain ⟨hm, hmembers⟩ := List.forall_mem_cons.mp h
    cases members with
    | nil =>
      rw [List.map_singleton, commaSeparated_singleton]
      exact accepts_member hm before hdelimited hu
    | cons n members =>
      rw [List.map_cons, List.append_cons] at hu
      have hrest := ih (by simp) hmembers (before ++ [m.member]) hu
      rw [List.map_cons, commaSeparated_cons (by simp), List.append_assoc, List.cons_append]
      refine accepts_member hm before (delimited_cons (.inl rfl) _) (hrest.cons fun offset => ?_)
      simp [step, stepMemberEnd, isSpace]

end State

open State

/-- A text of the language is read in front of anything that ends a number. -/
theorem Denotes.readsAs {t : Text} {v : Value} (h : Denotes t v) : ReadsAs t v := by
  intro stack u w hdelimited hu
  -- On the derivation. The stack and the rest vary, as a nested value is read above a longer stack
  -- and in front of what follows it in its container.
  induction h generalizing stack u w with
  | padded hbefore hafter _ ih =>
    have hrest := ((skips_give _ stack).moves hafter).accepts hu
    rw [List.append_assoc, List.append_assoc]
    exact ((skips_value stack).moves hbefore).accepts (ih (hdelimited.append hafter) hrest)
  | word h => exact accepts_word h hu
  | integer h hlimit =>
    refine accepts_literal _ ?_ hdelimited hu
    rw [NumberLiteral.value_numeral_of_isInteger h, if_neg (Nat.not_lt.mpr hlimit)]
  | float h => exact accepts_literal _ (NumberLiteral.value_numeral_of_not_isInteger h) hdelimited hu
  | string units =>
    have hopen (offset : Nat) : (value stack).step offset (CodePoint.ofChar '"') =
        .ok (State.string (start offset) .value stack) := rfl
    exact accepts_stringText units hopen (fun offset q hq => by simp [State.step, hq]) hu
  | emptyArray h =>
    rw [List.cons_append, List.append_assoc]
    have hclose : (firstItem stack).Accepts (CodePoint.ofChar ']' :: u) w :=
      hu.cons fun offset => rfl
    exact (((skips_firstItem stack).moves h).accepts hclose).cons fun offset => rfl
  | @array items hne _ ih =>
    rw [List.cons_append, List.append_assoc]
    have hclose :
        (itemEnd ((items.map Prod.snd).reverse ++ []) stack).Accepts (CodePoint.ofChar ']' :: u) w :=
      hu.cons fun offset => by simp [State.step, stepItemEnd, isSpace]
    have hitems := accepts_items hne (fun i hi {_ _ _} => ih i hi) []
      (delimited_cons (.inr (.inl rfl)) u) hclose
    have hfirst : (firstItem stack).Accepts _ w := fun offset => outcome_firstItem (hitems offset)
    exact hfirst.cons fun offset => rfl
  | emptyObject h =>
    rw [List.cons_append, List.append_assoc]
    have hclose : (firstKey stack).Accepts (CodePoint.ofChar '\x7d' :: u) w :=
      hu.cons fun offset => rfl
    exact (((skips_firstKey stack).moves h).accepts hclose).cons fun offset => rfl
  | @object members hne _ ih =>
    rw [List.cons_append, List.append_assoc]
    have hclose : (memberEnd (Members.ofPairs ([] ++ members.map MemberText.member)) stack).Accepts
        (CodePoint.ofChar '\x7d' :: u) w :=
      hu.cons fun offset => by simp [State.step, stepMemberEnd, isSpace]
    have hmembers := accepts_members hne (fun m hm {_ _ _} => ih m hm) []
      (delimited_cons (.inr (.inr rfl)) u) hclose
    have hfirst : (firstKey stack).Accepts _ w := fun offset => outcome_firstKey (hmembers offset)
    exact hfirst.cons fun offset => rfl

/-- Every text of the language is read as what it denotes. -/
theorem readDocument_of_denotes {t : Text} {v : Value} (h : Denotes t v) :
    readDocument t = .ok v := by
  have hend : (give v []).Accepts [] v := fun offset => rfl
  have haccepts := h.readsAs (by intro c hc; cases hc) hend
  rw [readDocument_eq_outcome, ← List.append_nil t]
  exact haccepts 0

/-- An integer that is too long is refused for that. -/
theorem readDocument_of_tooLong {n : NumberLiteral} (h : n.IsInteger)
    (hlong : digitLimit < n.whole.length) :
    readDocument n.text = .error (.tooManyDigits n.whole.length) := by
  have hvalue : n.numeral.value = .error n.whole.length := by
    rw [NumberLiteral.value_numeral_of_isInteger h, if_pos hlong]
  rw [readDocument, State.moves_literal n [] 0]
  simp [State.finish, State.numberValue, hvalue]

/-- A text denotes at most one value. -/
theorem Denotes.unique {t : Text} {v w : Value} (hv : Denotes t v) (hw : Denotes t w) : v = w :=
  Except.ok.inj ((readDocument_of_denotes hv).symm.trans (readDocument_of_denotes hw))

end JsonTypings.Json
