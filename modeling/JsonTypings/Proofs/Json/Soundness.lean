import JsonTypings.Proofs.Json.Number
import JsonTypings.Proofs.Json.Quotation

/-! Whatever is read belongs to the language, and denotes what was read. At any time the text so far
is the beginning of a document: the open containers, outermost first, with the items and members
that were read in each, and then what the state tells. -/
namespace JsonTypings.Json

namespace State

/-- What was read when the containers of a stack are open and a value may follow. -/
inductive Opened : List Frame → Text → Prop
  | nil {sp : Text} (hsp : IsBlank sp) : Opened [] sp
  | item {stack : List Frame} {p sp : Text} {items : List (Text × Value)} (h : Opened stack p)
    (hitems : ∀ i ∈ items, Denotes i.1 i.2) (hsp : IsBlank sp) :
    Opened (.item (items.map Prod.snd).reverse :: stack)
      (p ++ CodePoint.ofChar '[' :: (commaEnded (items.map Prod.fst) ++ sp))
  | member {stack : List Frame} {p before between sp : Text} {members : List MemberText}
    {key : List StringUnit} (h : Opened stack p) (hmembers : ∀ m ∈ members, Denotes m.text m.value)
    (hbefore : IsBlank before) (hbetween : IsBlank between) (hsp : IsBlank sp) :
    Opened (.member (Members.ofPairs (members.map MemberText.member)) (StringUnit.contents key) :: stack)
      (p ++ CodePoint.ofChar '\x7b' :: (commaEnded (members.map MemberText.spelling) ++
        (before ++ (stringText key ++ (between ++ CodePoint.ofChar ':' :: sp)))))

/-- What was read when an object of a stack is open and a key may follow. -/
inductive InObject : Members → List Frame → Text → Prop
  | mk {stack : List Frame} {p sp : Text} {members : List MemberText} (h : Opened stack p)
    (hmembers : ∀ m ∈ members, Denotes m.text m.value) (hsp : IsBlank sp) :
    InObject (Members.ofPairs (members.map MemberText.member)) stack
      (p ++ CodePoint.ofChar '\x7b' :: (commaEnded (members.map MemberText.spelling) ++ sp))

/-- What was read when a state is reached. -/
inductive Reached : State → Text → Prop
  | value {stack : List Frame} {p : Text} (h : Opened stack p) : Reached (value stack) p
  | firstItem {stack : List Frame} {p sp : Text} (h : Opened stack p) (hsp : IsBlank sp) :
    Reached (firstItem stack) (p ++ CodePoint.ofChar '[' :: sp)
  | itemEnd {before : List Value} {stack : List Frame} {p t : Text} {v : Value}
    (h : Opened (.item before :: stack) p) (ht : Denotes t v) :
    Reached (itemEnd (v :: before) stack) (p ++ t)
  | firstKey {stack : List Frame} {p sp : Text} (h : Opened stack p) (hsp : IsBlank sp) :
    Reached (firstKey stack) (p ++ CodePoint.ofChar '\x7b' :: sp)
  | nextKey {before : Members} {stack : List Frame} {p : Text} (h : InObject before stack p) :
    Reached (nextKey before stack) p
  | colon {before : Members} {stack : List Frame} {p sp : Text} (h : InObject before stack p)
    (key : List StringUnit) (hsp : IsBlank sp) :
    Reached (colon before (StringUnit.contents key) stack) (p ++ (stringText key ++ sp))
  | memberEnd {before : Members} {key : Text} {stack : List Frame} {p t : Text} {v : Value}
    (h : Opened (.member before key :: stack) p) (ht : Denotes t v) :
    Reached (memberEnd (before.insert key v) stack) (p ++ t)
  | done {t : Text} {v : Value} (ht : Denotes t v) : Reached (done v) t
  | string {stack : List Frame} {p t : Text} {q : Quotation} {opened : Nat} (h : Opened stack p)
    (hq : q.IsRead opened t) : Reached (string q .value stack) (p ++ CodePoint.ofChar '"' :: t)
  | key {before : Members} {stack : List Frame} {p t : Text} {q : Quotation} {opened : Nat}
    (h : InObject before stack p) (hq : q.IsRead opened t) :
    Reached (string q (.key before) stack) (p ++ CodePoint.ofChar '"' :: t)
  | word {stack : List Frame} {p begun rest : Text} {v : Value} {opened : Nat} (h : Opened stack p)
    (hword : (begun ++ rest, v) ∈ words) (hrest : rest ≠ []) :
    Reached (word opened rest v stack) (p ++ begun)
  | minus {stack : List Frame} {p : Text} (h : Opened stack p) :
    Reached (minus stack) (p ++ [CodePoint.ofChar '-'])
  | number {stack : List Frame} {p t : Text} {phase : Numeral.Phase} {m : Numeral} (h : Opened stack p)
    (hm : m.IsRead t phase) : Reached (number phase m stack) (p ++ t)

variable {stack : List Frame} {p t : Text} {v : Value} {c : CodePoint} {offset : Nat} {s s' : State}

/-- A value that was read is given to the container around it. -/
theorem Opened.give (h : Opened stack p) (ht : Denotes t v) : Reached (give v stack) (p ++ t) := by
  cases h with
  | nil hsp => exact .done (ht.blank_append hsp)
  | item h hitems hsp => exact .itemEnd (.item h hitems hsp) ht
  | member h hmembers hbefore hbetween hsp =>
    exact .memberEnd (.member h hmembers hbefore hbetween hsp) ht

theorem Opened.blank (h : Opened stack p) (hc : isSpace c = true) : Opened stack (p ++ [c]) := by
  have hblank := isBlank_singleton hc
  cases h with
  | nil hsp => exact .nil (hsp.append hblank)
  | item h hitems hsp => simpa using Opened.item h hitems (hsp.append hblank)
  | member h hmembers hbefore hbetween hsp =>
    simpa using Opened.member h hmembers hbefore hbetween (hsp.append hblank)

theorem InObject.blank {before : Members} (h : InObject before stack p) (hc : isSpace c = true) :
    InObject before stack (p ++ [c]) := by
  cases h with
  | mk h hmembers hsp => simpa using InObject.mk h hmembers (hsp.append (isBlank_singleton hc))

theorem InObject.first (h : Opened stack p) {sp : Text} (hsp : IsBlank sp) :
    InObject [] stack (p ++ CodePoint.ofChar '\x7b' :: sp) :=
  @InObject.mk stack p sp [] h (by simp) hsp

/-- A key and a colon open a place for a value. -/
theorem InObject.opened {before : Members} {sp : Text} (h : InObject before stack p)
    (key : List StringUnit) (hsp : IsBlank sp) :
    Opened (.member before (StringUnit.contents key) :: stack)
      (p ++ (stringText key ++ (sp ++ [CodePoint.ofChar ':']))) := by
  cases h with
  | mk h hmembers hbefore => simpa using Opened.member h hmembers hbefore hsp isBlank_nil

/-- An item with those before it. -/
theorem Opened.exists_items {before : List Value} (h : Opened (.item before :: stack) p)
    (ht : Denotes t v) :
    ∃ q, ∃ items : List (Text × Value), Opened stack q ∧ (∀ i ∈ items, Denotes i.1 i.2) ∧
      v :: before = (items.map Prod.snd).reverse ∧ items ≠ [] ∧
      p ++ t = q ++ CodePoint.ofChar '[' :: commaSeparated (items.map Prod.fst) := by
  cases h with
  | @item _ p sp items h hitems hsp =>
    refine ⟨p, items ++ [(sp ++ t, v)], h, ?_, by simp, by simp, ?_⟩
    · rw [List.forall_mem_append]
      exact ⟨hitems, by simpa using ht.blank_append hsp⟩
    · rw [List.map_append, List.map_singleton, commaSeparated_concat]
      simp

/-- One more item, with the comma behind it. -/
theorem Opened.nextItem {before : List Value} (h : Opened (.item before :: stack) p)
    (ht : Denotes t v) :
    Opened (.item (v :: before) :: stack) (p ++ t ++ [CodePoint.ofChar ',']) := by
  obtain ⟨q, items, hq, hitems, heq, hne, htext⟩ := h.exists_items ht
  have hopened := Opened.item hq hitems isBlank_nil
  rw [commaEnded_of_ne_nil (by simpa using hne)] at hopened
  rw [heq, htext]
  simpa using hopened

/-- The last item, and the end of the array. -/
theorem Opened.array {before : List Value} (h : Opened (.item before :: stack) p)
    (ht : Denotes t v) :
    ∃ q u, p ++ t ++ [CodePoint.ofChar ']'] = q ++ u ∧ Opened stack q ∧
      Denotes u (.array (v :: before).reverse) := by
  obtain ⟨q, items, hq, hitems, heq, hne, htext⟩ := h.exists_items ht
  have harray := Denotes.array hne hitems
  rw [heq, List.reverse_reverse, htext, List.append_assoc]
  exact ⟨q, _, rfl, hq, harray⟩

/-- A member with those before it. -/
theorem Opened.exists_members {before : Members} {key : Text}
    (h : Opened (.member before key :: stack) p)
    (ht : Denotes t v) : ∃ q, ∃ members : List MemberText, Opened stack q ∧
      (∀ m ∈ members, Denotes m.text m.value) ∧
      before.insert key v = Members.ofPairs (members.map MemberText.member) ∧ members ≠ [] ∧
      p ++ t = q ++ CodePoint.ofChar '\x7b' :: commaSeparated (members.map MemberText.spelling) := by
  cases h with
  | @member _ p blank between sp members key h hmembers hbefore hbetween hsp =>
    let m : MemberText := ⟨blank, key, between, sp ++ t, v, hbefore, hbetween⟩
    refine ⟨p, members ++ [m], h, ?_, ?_, by simp, ?_⟩
    · rw [List.forall_mem_append]
      exact ⟨hmembers, by simpa [m] using ht.blank_append hsp⟩
    · rw [List.map_append, List.map_singleton, MemberText.member, Members.ofPairs_concat]
    · rw [List.map_append, List.map_singleton, commaSeparated_concat]
      simp [m, MemberText.spelling]

/-- One more member, with the comma behind it. -/
theorem Opened.nextMember {before : Members} {key : Text}
    (h : Opened (.member before key :: stack) p)
    (ht : Denotes t v) : InObject (before.insert key v) stack (p ++ t ++ [CodePoint.ofChar ',']) := by
  obtain ⟨q, members, hq, hmembers, heq, hne, htext⟩ := h.exists_members ht
  have hobject := InObject.mk hq hmembers isBlank_nil
  rw [commaEnded_of_ne_nil (by simpa using hne)] at hobject
  rw [heq, htext]
  simpa using hobject

/-- The last member, and the end of the object. -/
theorem Opened.object {before : Members} {key : Text} (h : Opened (.member before key :: stack) p)
    (ht : Denotes t v) : ∃ q u, p ++ t ++ [CodePoint.ofChar '\x7d'] = q ++ u ∧ Opened stack q ∧
      Denotes u (.object (before.insert key v)) := by
  obtain ⟨q, members, hq, hmembers, heq, hne, htext⟩ := h.exists_members ht
  rw [heq, htext, List.append_assoc]
  exact ⟨q, _, rfl, hq, Denotes.object hne hmembers⟩

/-! Steps -/

theorem mem_words_of_word? {rest : Text} (h : word? c = some (rest, v)) :
    (c :: rest, v) ∈ words ∧ rest ≠ [] := by
  unfold word? at h
  split_ifs at h with hc hc hc hc hc
  all_goals
    cases h
    subst hc
    simp [words, Text.ofString]

theorem reached_stepValue (h : Opened stack p) (hs : stepValue stack offset c = .ok s') :
    Reached s' (p ++ [c]) := by
  unfold stepValue at hs
  split_ifs at hs with hspace hquote hbrace hbracket hminus
  · cases hs
    exact .value (h.blank hspace)
  · cases hs
    subst hquote
    have hread : (Quotation.start offset).IsRead offset [] := .units []
    exact .string h hread
  · cases hs
    subst hbrace
    exact .firstKey h isBlank_nil
  · cases hs
    subst hbracket
    exact .firstItem h isBlank_nil
  · cases hs
    subst hminus
    exact .minus h
  · cases hdigit : c.digit? with
    | some d =>
      rw [hdigit] at hs
      cases hs
      obtain ⟨e, rfl, rfl⟩ := CodePoint.digit?_eq_some.mp hdigit
      exact .number h (Numeral.isRead_start false e)
    | none =>
      cases hword : word? c with
      | none => simp [hdigit, hword, stop] at hs
      | some w =>
        obtain ⟨rest, v⟩ := w
        simp only [hdigit, hword] at hs
        cases hs
        obtain ⟨hmem, hrest⟩ := mem_words_of_word? hword
        exact .word h hmem hrest

theorem reached_stepKey {before : Members} (h : InObject before stack p)
    (hs : stepKey before stack offset c = .ok s') : Reached s' (p ++ [c]) := by
  unfold stepKey at hs
  split_ifs at hs with hquote
  · cases hs
    subst hquote
    have hread : (Quotation.start offset).IsRead offset [] := .units []
    exact .key h hread
  · cases hs

theorem reached_stepItemEnd {before : List Value} (h : Opened (.item before :: stack) p)
    (ht : Denotes t v)
    (hs : stepItemEnd (v :: before) stack offset c = .ok s') : Reached s' (p ++ t ++ [c]) := by
  unfold stepItemEnd at hs
  split_ifs at hs with hspace hcomma hbracket
  · cases hs
    rw [List.append_assoc]
    exact .itemEnd h (ht.append_blank (isBlank_singleton hspace))
  · cases hs
    subst hcomma
    exact .value (h.nextItem ht)
  · cases hs
    subst hbracket
    obtain ⟨q, u, htext, hq, hu⟩ := h.array ht
    rw [htext]
    exact hq.give hu
  · cases hs

theorem reached_stepMemberEnd {before : Members} {key : Text}
    (h : Opened (.member before key :: stack) p)
    (ht : Denotes t v) (hs : stepMemberEnd (before.insert key v) stack offset c = .ok s') :
    Reached s' (p ++ t ++ [c]) := by
  unfold stepMemberEnd at hs
  split_ifs at hs with hspace hcomma hbrace
  · cases hs
    rw [List.append_assoc]
    exact .memberEnd h (ht.append_blank (isBlank_singleton hspace))
  · cases hs
    subst hcomma
    exact .nextKey (h.nextMember ht)
  · cases hs
    subst hbrace
    obtain ⟨q, u, htext, hq, hu⟩ := h.object ht
    rw [htext]
    exact hq.give hu
  · cases hs

theorem reached_stepDone (ht : Denotes t v) (hs : stepDone v offset c = .ok s') :
    Reached s' (t ++ [c]) := by
  unfold stepDone at hs
  split_ifs at hs with hspace
  · cases hs
    exact .done (ht.append_blank (isBlank_singleton hspace))
  · cases hs

theorem reached_stepAfter (h : Opened stack p) (ht : Denotes t v)
    (hs : stepAfter v stack offset c = .ok s') :
    Reached s' (p ++ t ++ [c]) := by
  cases h with
  | nil hsp => exact reached_stepDone (ht.blank_append hsp) hs
  | item h hitems hsp => exact reached_stepItemEnd (.item h hitems hsp) ht hs
  | member h hmembers hbefore hbetween hsp =>
    exact reached_stepMemberEnd (.member h hmembers hbefore hbetween hsp) ht hs

/-- A number that ends denotes its value. -/
theorem denotes_of_numberValue {phase : Numeral.Phase} {m : Numeral} (hm : m.IsRead t phase)
    (hv : numberValue phase m stack offset = .ok v) : Denotes t v := by
  unfold numberValue at hv
  split at hv
  · cases hv
  · rename_i w hvalue
    split_ifs at hv with hphase
    · cases hv
      obtain ⟨n, rfl, rfl⟩ := hm.exists_literal hphase
      by_cases hinteger : n.IsInteger
      · rw [NumberLiteral.value_numeral_of_isInteger hinteger] at hvalue
        split_ifs at hvalue with hlimit
        cases hvalue
        exact .integer hinteger (Nat.not_lt.mp hlimit)
      · rw [NumberLiteral.value_numeral_of_not_isInteger hinteger] at hvalue
        cases hvalue
        exact .float hinteger
    · cases hv

theorem reached_string {role : StringRole} {q : Quotation} (h : Reached (string q role stack) p)
    (hs : (string q role stack).step offset c = .ok s') : Reached s' (p ++ [c]) := by
  cases hq : q.step offset c with
  | error flaw => simp [step, hq] at hs
  | ok progress =>
    cases progress with
    | still q' =>
      obtain rfl : string q' role stack = s' := by cases role <;> simpa [step, hq] using hs
      cases h with
      | string h hread =>
        rw [List.append_assoc]
        exact .string h (hread.step hq)
      | key h hread =>
        rw [List.append_assoc]
        exact .key h (hread.step hq)
    | closed content =>
      cases h with
      | string h hread =>
        obtain ⟨us, rfl, rfl, rfl⟩ := hread.closed hq
        obtain rfl : give (.string (StringUnit.contents us)) stack = s' := by simpa [step, hq] using hs
        rw [List.append_assoc]
        exact h.give (.string us)
      | @key before _ _ _ _ _ h hread =>
        obtain ⟨us, rfl, rfl, rfl⟩ := hread.closed hq
        obtain rfl : colon before (StringUnit.contents us) stack = s' := by simpa [step, hq] using hs
        have hcolon := Reached.colon h us isBlank_nil
        rw [List.append_assoc]
        rwa [List.append_nil] at hcolon

theorem reached_firstItem {sp : Text} (h : Opened stack p) (hsp : IsBlank sp)
    (hs : (firstItem stack).step offset c = .ok s') :
    Reached s' (p ++ CodePoint.ofChar '[' :: sp ++ [c]) := by
  simp only [State.step] at hs
  split_ifs at hs with hspace hbracket
  · cases hs
    rw [List.append_assoc]
    exact .firstItem h (hsp.append (isBlank_singleton hspace))
  · cases hs
    subst hbracket
    rw [List.append_assoc]
    exact h.give (.emptyArray hsp)
  · refine reached_stepValue ?_ hs
    simpa [commaEnded] using @Opened.item stack p sp [] h (by simp) hsp

theorem reached_firstKey {sp : Text} (h : Opened stack p) (hsp : IsBlank sp)
    (hs : (firstKey stack).step offset c = .ok s') :
    Reached s' (p ++ CodePoint.ofChar '\x7b' :: sp ++ [c]) := by
  simp only [State.step] at hs
  split_ifs at hs with hspace hbrace
  · cases hs
    rw [List.append_assoc]
    exact .firstKey h (hsp.append (isBlank_singleton hspace))
  · cases hs
    subst hbrace
    rw [List.append_assoc]
    exact h.give (.emptyObject hsp)
  · exact reached_stepKey (.first h hsp) hs

theorem reached_nextKey {before : Members} (h : InObject before stack p)
    (hs : (nextKey before stack).step offset c = .ok s') : Reached s' (p ++ [c]) := by
  simp only [State.step] at hs
  split_ifs at hs with hspace
  · cases hs
    exact .nextKey (h.blank hspace)
  · exact reached_stepKey h hs

theorem reached_colon {before : Members} {sp : Text} (h : InObject before stack p)
    (key : List StringUnit)
    (hsp : IsBlank sp) (hs : (colon before (StringUnit.contents key) stack).step offset c = .ok s') :
    Reached s' (p ++ (stringText key ++ sp) ++ [c]) := by
  rw [List.append_assoc, List.append_assoc]
  simp only [State.step] at hs
  split_ifs at hs with hspace hcolon
  · cases hs
    exact .colon h key (hsp.append (isBlank_singleton hspace))
  · cases hs
    subst hcolon
    exact .value (h.opened key hsp)
  · cases hs

/-- Each code point of a word but the last leads on in it, and the last one gives its value. -/
theorem reached_word {begun rest : Text} {opened : Nat} (h : Opened stack p)
    (hword : (begun ++ rest, v) ∈ words)
    (hrest : rest ≠ []) (hs : (word opened rest v stack).step offset c = .ok s') :
    Reached s' (p ++ begun ++ [c]) := by
  obtain ⟨d, rest, rfl⟩ := List.exists_cons_of_ne_nil hrest
  rw [List.append_assoc]
  simp only [State.step] at hs
  split_ifs at hs with hc hempty
  · cases hs
    subst hc
    obtain rfl : rest = [] := List.isEmpty_iff.mp hempty
    exact h.give (.word hword)
  · cases hs
    subst hc
    exact .word h (by simpa using hword) (mt List.isEmpty_iff.mpr hempty)
  · cases hs

/-- A minus sign begins a number, or the one word that has a sign. -/
theorem reached_minus (h : Opened stack p) (hs : (minus stack).step offset c = .ok s') :
    Reached s' (p ++ [CodePoint.ofChar '-'] ++ [c]) := by
  rw [List.append_assoc]
  simp only [State.step] at hs
  split at hs
  · rename_i hdigit
    cases hs
    obtain ⟨e, rfl, rfl⟩ := CodePoint.digit?_eq_some.mp hdigit
    exact .number h (Numeral.isRead_start true e)
  · split_ifs at hs with hc
    · cases hs
      subst hc
      exact .word h (by simp [words, Text.ofString]) (by simp [Text.ofString])
    · cases hs

/-- A number goes on as long as it can, and what ends it comes behind its value. -/
theorem reached_number {phase : Numeral.Phase} {m : Numeral} (h : Opened stack p)
    (hm : m.IsRead t phase)
    (hs : (number phase m stack).step offset c = .ok s') : Reached s' (p ++ t ++ [c]) := by
  simp only [State.step] at hs
  split at hs
  · rename_i hextend
    cases hs
    rw [List.append_assoc]
    exact .number h (hm.extend hextend)
  · split at hs
    · cases hs
    · rename_i hv
      exact reached_stepAfter h (denotes_of_numberValue hm hv) hs

/-- One code point more keeps what was read the beginning of a document. -/
theorem Reached.step (h : Reached s p) (hs : s.step offset c = .ok s') : Reached s' (p ++ [c]) := by
  cases h with
  | value h => exact reached_stepValue h hs
  | firstItem h hsp => exact reached_firstItem h hsp hs
  | itemEnd h ht => exact reached_stepItemEnd h ht hs
  | firstKey h hsp => exact reached_firstKey h hsp hs
  | nextKey h => exact reached_nextKey h hs
  | colon h key hsp => exact reached_colon h key hsp hs
  | memberEnd h ht => exact reached_stepMemberEnd h ht hs
  | done ht => exact reached_stepDone ht hs
  | string h hq => exact reached_string (.string h hq) hs
  | key h hq => exact reached_string (.key h hq) hs
  | word h hword hrest => exact reached_word h hword hrest hs
  | minus h => exact reached_minus h hs
  | number h hm => exact reached_number h hm hs

/-- A whole text that was read is the beginning of a document. -/
theorem Reached.run (h : Reached s p) (hs : s.run offset t = .ok s') : Reached s' (p ++ t) := by
  induction t generalizing s p offset with
  | nil =>
    cases hs
    rwa [List.append_nil]
  | cons c t ih =>
    rw [State.run] at hs
    cases hc : s.step offset c with
    | error e => simp [hc] at hs
    | ok s₁ =>
      rw [hc] at hs
      have hrest := ih (h.step hc) hs
      rwa [List.append_assoc] at hrest

/-- A text may only end where the document is complete. -/
theorem Reached.denotes_of_finish (h : Reached s p) (hs : s.finish offset = .ok v) :
    Denotes p v := by
  cases h with
  | done ht =>
    cases hs
    exact ht
  | @number stack p t phase m h hm =>
    simp only [finish] at hs
    cases hv : numberValue phase m stack offset with
    | error e => simp [hv] at hs
    | ok w =>
      cases h with
      | nil hsp =>
        rw [hv] at hs
        cases hs
        exact (denotes_of_numberValue hm hv).blank_append hsp
      | _ => simp [hv, stop] at hs
  | _ => simp [finish, stop] at hs

end State

/-- What is read from a text is what the text denotes. -/
theorem denotes_of_readDocument {t : Text} {v : Value} (h : readDocument t = .ok v) :
    Denotes t v := by
  unfold readDocument at h
  cases hrun : (State.value []).run 0 t with
  | error e => simp [hrun] at h
  | ok s =>
    rw [hrun] at h
    have hstart : State.Reached (.value []) [] := .value (.nil isBlank_nil)
    exact (hstart.run hrun).denotes_of_finish h

end JsonTypings.Json
