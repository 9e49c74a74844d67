import JsonTypings.Proofs.Json.Grammar
import Mathlib.Tactic.SplitIfs

/-! What a document begins with: its first code point is of ASCII. No null stands in it. -/
namespace JsonTypings.Json

/-- A text without nulls. -/
def NullFree (t : Text) : Prop := ∀ c ∈ t, 0 < c.val

instance (t : Text) : Decidable (NullFree t) := inferInstanceAs (Decidable (∀ c ∈ t, 0 < c.val))

variable {t : Text} {v : Value}

theorem ascii_of_isSpace {c : CodePoint} (hc : isSpace c = true) : 0 < c.val ∧ c.val < 0x80 := by
  simp only [isSpace, Bool.or_eq_true, decide_eq_true_eq] at hc
  rcases hc with ((rfl | rfl) | rfl) | rfl <;> decide

theorem IsBlank.nullFree (h : IsBlank t) : NullFree t := fun c hc => (ascii_of_isSpace (h c hc)).1

theorem nullFree_commaSeparated {ts : List Text} (h : ∀ t ∈ ts, NullFree t) :
    NullFree (commaSeparated ts) := by
  induction ts with
  | nil => exact List.forall_mem_nil _
  | cons t ts ih =>
    obtain ⟨ht, hts⟩ := List.forall_mem_cons.mp h
    by_cases hne : ts = []
    · subst hne
      rwa [commaSeparated_singleton]
    · rw [commaSeparated_cons hne]
      exact List.forall_mem_append.mpr ⟨ht, List.forall_mem_cons.mpr ⟨by decide, ih hts⟩⟩

theorem nullFree_bracketed {a b : CodePoint} (hbrackets : 0 < a.val ∧ 0 < b.val) (h : NullFree t) :
    NullFree (a :: (t ++ [b])) := by
  simp only [NullFree, List.forall_mem_cons, List.forall_mem_append]
  exact ⟨hbrackets.1, h, hbrackets.2, List.forall_mem_nil _⟩

theorem nullFree_digitsText (ds : List (Fin 10)) : NullFree (digitsText ds) := by
  have hdigits : ∀ d : Fin 10, 0 < (CodePoint.ofDigit d.val).val := by decide
  exact List.forall_mem_map.mpr fun d _ => hdigits d

theorem ExponentLiteral.nullFree_text (e : ExponentLiteral) : NullFree e.text := by
  have hmark : 0 < e.mark.val := by
    rcases e.mark_mem with h | h <;> rw [h] <;> decide
  have hsign : NullFree e.sign := by
    rcases e.sign_mem with h | h | h <;> rw [h] <;> decide
  exact List.forall_mem_cons.mpr
    ⟨hmark, List.forall_mem_append.mpr ⟨hsign, nullFree_digitsText e.digits⟩⟩

theorem NumberLiteral.nullFree_text (n : NumberLiteral) : NullFree n.text := by
  have hsign : NullFree (signText n.negative) := by
    cases n.negative <;> decide
  have hfraction : NullFree (fractionText n.fraction) := by
    rw [fractionText]
    split_ifs
    · exact List.forall_mem_nil _
    · exact List.forall_mem_cons.mpr ⟨by decide, nullFree_digitsText n.fraction⟩
  have hexponent : NullFree ((n.exponent.map ExponentLiteral.text).getD []) := by
    cases n.exponent with
    | none => exact List.forall_mem_nil _
    | some e => exact e.nullFree_text
  simp only [NullFree, text, List.forall_mem_append]
  exact ⟨⟨⟨hsign, nullFree_digitsText n.whole⟩, hfraction⟩, hexponent⟩

theorem StringUnit.nullFree_text (u : StringUnit) : NullFree u.text := by
  cases u with
  | plain c visible unquoted =>
    simp only [NullFree, text, List.mem_singleton, forall_eq]
    omega
  | short letter meaning listed =>
    have hletters : ∀ p ∈ shortEscapes, 0 < p.1.val := by decide
    simp only [NullFree, text, List.forall_mem_cons]
    exact ⟨by decide, hletters _ listed, List.forall_mem_nil _⟩
  | unicode digits values four spelled =>
    simp only [NullFree, text, List.forall_mem_cons]
    refine ⟨by decide, by decide, fun c hc => Nat.pos_of_ne_zero fun hzero => ?_⟩
    have hdigit : c.hexDigit? ∈ values.map fun d => some d.val := spelled ▸ List.mem_map_of_mem hc
    simp [CodePoint.hexDigit?, hzero] at hdigit

theorem nullFree_stringText (units : List StringUnit) : NullFree (stringText units) := by
  refine nullFree_bracketed (by decide) fun c hc => ?_
  obtain ⟨u, -, hu⟩ := List.mem_flatMap.mp hc
  exact u.nullFree_text c hu

theorem MemberText.nullFree_spelling {m : MemberText} (h : NullFree m.text) : NullFree m.spelling := by
  simp only [NullFree, spelling, List.forall_mem_append, List.forall_mem_cons]
  exact ⟨⟨⟨m.before_blank.nullFree, nullFree_stringText m.key⟩, m.between_blank.nullFree⟩, by decide, h⟩

theorem Denotes.nullFree (h : Denotes t v) : NullFree t := by
  induction h with
  | padded hbefore hafter _ ih =>
    simp only [NullFree, List.forall_mem_append]
    exact ⟨⟨hbefore.nullFree, ih⟩, hafter.nullFree⟩
  | word h =>
    have hwords : ∀ w ∈ words, NullFree w.1 := by
      simp only [words, List.forall_mem_cons]
      decide
    exact hwords _ h
  | @integer n => exact n.nullFree_text
  | @float n => exact n.nullFree_text
  | string units => exact nullFree_stringText units
  | emptyArray h => exact nullFree_bracketed (by decide) h.nullFree
  | emptyObject h => exact nullFree_bracketed (by decide) h.nullFree
  | array _ _ ih =>
    exact nullFree_bracketed (by decide) (nullFree_commaSeparated (List.forall_mem_map.mpr ih))
  | object _ _ ih =>
    have hspellings : ∀ t ∈ _, NullFree t :=
      List.forall_mem_map.mpr fun m hm => MemberText.nullFree_spelling (ih m hm)
    exact nullFree_bracketed (by decide) (nullFree_commaSeparated hspellings)

/-- A text that begins with ASCII. -/
def BeginsAscii (t : Text) : Prop := ∃ c ∈ t.head?, c.val < 0x80

instance (t : Text) : Decidable (BeginsAscii t) :=
  inferInstanceAs (Decidable (∃ c ∈ t.head?, c.val < 0x80))

theorem beginsAscii_cons {c : CodePoint} (hc : c.val < 0x80) (t : Text) : BeginsAscii (c :: t) :=
  ⟨c, rfl, hc⟩

theorem BeginsAscii.append (h : BeginsAscii t) (u : Text) : BeginsAscii (t ++ u) := by
  obtain ⟨c, hhead, hc⟩ := h
  exact ⟨c, List.mem_head?_append_of_mem_head? hhead, hc⟩

theorem NumberLiteral.beginsAscii_text (n : NumberLiteral) : BeginsAscii n.text := by
  have hdigits : ∀ d : Fin 10, (CodePoint.ofDigit d.val).val < 0x80 := by decide
  obtain ⟨d, ds, hwhole⟩ := List.exists_cons_of_ne_nil n.whole_ne_nil
  rw [text, hwhole]
  cases n.negative with
  | true => exact beginsAscii_cons (by decide) _
  | false => exact beginsAscii_cons (hdigits d) _

/-- A document begins with white space, a bracket, a quote, a digit, a sign or a letter. -/
theorem Denotes.beginsAscii (h : Denotes t v) : BeginsAscii t := by
  induction h with
  | @padded before t after v hbefore hafter _ ih =>
    cases before with
    | nil => exact ih.append after
    | cons c before => exact beginsAscii_cons (ascii_of_isSpace (hbefore c List.mem_cons_self)).2 _
  | word h =>
    have hwords : ∀ w ∈ words, BeginsAscii w.1 := by
      simp only [words, List.forall_mem_cons]
      decide
    exact hwords _ h
  | @integer n => exact n.beginsAscii_text
  | @float n => exact n.beginsAscii_text
  | string | emptyArray | array | emptyObject | object => exact beginsAscii_cons (by decide) _

end JsonTypings.Json
