import JsonTypings.Proofs.Encoding.TextFile
import JsonTypings.Proofs.Json.Printing

/-! Written values are ASCII, so they come back from a text file as they were written. -/
namespace JsonTypings.Json

open Encoding (IsPlain isPlain_append isPlain_cons isPlain_nil isPlain_flatMap isPlain_intercalate)

theorem isPlain_digitsText (ds : List (Fin 10)) : IsPlain (digitsText ds) := by
  have hdigit : ∀ d : Fin 10,
      (CodePoint.ofDigit d).val < 0x80 ∧ CodePoint.ofDigit d ≠ CodePoint.ofChar '\r' := by
    decide
  intro c hc
  obtain ⟨d, -, rfl⟩ := List.mem_map.mp hc
  exact hdigit d

theorem isPlain_ofNat (n : Nat) : IsPlain (Text.ofNat n) := by
  obtain ⟨ds, htext, -⟩ := exists_digits n
  exact htext ▸ isPlain_digitsText ds

theorem isPlain_ofInt (n : Int) : IsPlain (Text.ofInt n) := by
  cases n with
  | ofNat k => exact isPlain_ofNat k
  | negSucc k => exact isPlain_cons.mpr ⟨by decide, isPlain_ofNat (k + 1)⟩

theorem isPlain_exponent (e : ExponentLiteral) : IsPlain e.text := by
  have hmark : e.mark.val < 0x80 ∧ e.mark ≠ CodePoint.ofChar '\r' := by
    rcases e.mark_mem with h | h <;> rw [h] <;> decide
  have hsign : IsPlain e.sign := by
    rcases e.sign_mem with h | h | h <;> rw [h]
    · exact isPlain_nil
    · exact isPlain_cons.mpr ⟨by decide, isPlain_nil⟩
    · exact isPlain_cons.mpr ⟨by decide, isPlain_nil⟩
  exact isPlain_cons.mpr ⟨hmark, isPlain_append.mpr ⟨hsign, isPlain_digitsText e.digits⟩⟩

theorem isPlain_literal (n : NumberLiteral) : IsPlain n.text := by
  have hsign : IsPlain (NumberLiteral.signText n.negative) := by
    cases n.negative with
    | false => exact isPlain_nil
    | true => exact isPlain_cons.mpr ⟨by decide, isPlain_nil⟩
  have hfraction : IsPlain (NumberLiteral.fractionText n.fraction) := by
    unfold NumberLiteral.fractionText
    split_ifs
    · exact isPlain_nil
    · exact isPlain_cons.mpr ⟨by decide, isPlain_digitsText n.fraction⟩
  have hexponent : IsPlain ((n.exponent.map ExponentLiteral.text).getD []) := by
    cases n.exponent with
    | none => exact isPlain_nil
    | some e => exact isPlain_exponent e
  simp only [NumberLiteral.text, isPlain_append]
  exact ⟨⟨⟨hsign, isPlain_digitsText n.whole⟩, hfraction⟩, hexponent⟩

theorem isPlain_word : ∀ p ∈ words, IsPlain p.1 := by
  simp only [words, List.forall_mem_cons, List.not_mem_nil, false_implies, implies_true, and_true]
  exact ⟨by decide, by decide, by decide, by decide, by decide, by decide⟩

theorem isPlain_textOfFloat {x : Float} (h : IsFloatToken x) :
    IsPlain (Decimal.textOfFloat floatNames x) := by
  rcases h with h | ⟨n, -, htext, -⟩
  · exact isPlain_word _ h
  · exact htext ▸ isPlain_literal n

theorem isPlain_hex (width n : Nat) : IsPlain (Text.hex width n) := by
  have hdigit : ∀ d < 16,
      (CodePoint.ofHexDigit d).val < 0x80 ∧ CodePoint.ofHexDigit d ≠ CodePoint.ofChar '\r' := by
    decide
  induction width generalizing n with
  | zero => exact isPlain_nil
  | succ width ih =>
    exact isPlain_append.mpr ⟨ih _, isPlain_cons.mpr ⟨hdigit _ (Nat.mod_lt n (by decide)), isPlain_nil⟩⟩

theorem isPlain_escape (c : CodePoint) : IsPlain (escape c) := by
  have hunicode (d : CodePoint) : IsPlain (unicodeEscape d) :=
    isPlain_cons.mpr ⟨by decide, isPlain_cons.mpr ⟨by decide, isPlain_hex 4 d.val⟩⟩
  obtain ⟨letter, hletter, hescape⟩ | ⟨hvisible, hascii, -, hescape⟩ | ⟨-, hescape⟩ | ⟨-, hescape⟩ :=
    escape_cases c
  all_goals rw [hescape]
  · have hletters : ∀ p ∈ shortEscapes, IsPlain [CodePoint.ofChar '\\', p.1] := by decide
    exact hletters _ hletter
  · refine isPlain_cons.mpr ⟨⟨by omega, ?_⟩, isPlain_nil⟩
    -- A carriage return is below the code points that stand for themselves.
    rintro rfl
    exact absurd hvisible (by decide)
  · exact hunicode c
  · exact isPlain_append.mpr ⟨hunicode _, hunicode _⟩

theorem isPlain_quote (t : Text) : IsPlain (quote t) :=
  isPlain_append.mpr ⟨isPlain_append.mpr ⟨by decide, isPlain_flatMap fun c _ => isPlain_escape c⟩, by decide⟩

theorem isPlain_commaSeparated {ts : List Text} (h : ∀ t ∈ ts, IsPlain t) :
    IsPlain (commaSeparated ts) :=
  isPlain_intercalate (by decide) h

theorem isPlain_indentation (n : Nat) :
    IsPlain (CodePoint.ofChar '\n' :: List.replicate n (CodePoint.ofChar ' ')) := by
  intro c hc
  simp only [List.mem_cons, List.mem_replicate] at hc
  rcases hc with rfl | ⟨-, rfl⟩ <;> decide

theorem isPlain_opening (l : Layout) (depth : Nat) : IsPlain (l.opening depth) := by
  cases l with
  | line => exact isPlain_nil
  | indented step => exact isPlain_indentation _

theorem isPlain_gap (l : Layout) (depth : Nat) : IsPlain (l.gap depth) := by
  cases l with
  | line => exact isPlain_cons.mpr ⟨by decide, isPlain_nil⟩
  | indented step => exact isPlain_indentation _

theorem isPlain_closing (l : Layout) (depth : Nat) : IsPlain (l.closing depth) := by
  cases l with
  | line => exact isPlain_nil
  | indented step => exact isPlain_indentation _

theorem isPlain_memberText {l : Layout} {depth : Nat} {sp : Text} {m : Text × Value}
    (hsp : IsPlain sp)
    (hm : IsPlain (writeAt l (depth + 1) m.2)) : IsPlain (memberText l depth sp m) := by
  simp only [memberText, isPlain_append]
  exact ⟨⟨⟨hsp, isPlain_quote m.1⟩, by decide⟩, hm⟩

/-- A written value is ASCII and has no carriage return. -/
theorem isPlain_writeAt (l : Layout) (depth : Nat) {v : Value} (h : Printable v) :
    IsPlain (writeAt l depth v) := by
  have hends (first last : CodePoint) (depth : Nat) (hfirst : IsPlain [first])
      (hlast : IsPlain [last]) {ts : List Text}
      (hts : ∀ t ∈ ts, IsPlain t) :
      IsPlain (first :: (commaSeparated ts ++ l.closing depth ++ [last])) :=
    isPlain_append.mpr ⟨hfirst, isPlain_append.mpr
      ⟨isPlain_append.mpr ⟨isPlain_commaSeparated hts, isPlain_closing l depth⟩, hlast⟩⟩
  induction v using Value.induction generalizing depth with
  | null => exact (by decide : IsPlain (Text.ofString "null"))
  | bool b =>
    cases b with
    | false => exact (by decide : IsPlain (Text.ofString "false"))
    | true => exact (by decide : IsPlain (Text.ofString "true"))
  | int n => exact isPlain_ofInt n
  | float x => exact isPlain_textOfFloat (h.floats x (by simp [Value.parts]))
  | string t => exact isPlain_quote t
  | array items ih =>
    cases items with
    | nil => exact (by decide : IsPlain (Text.ofString "[]"))
    | cons v rest =>
      have hitems : ∀ w ∈ v :: rest, IsPlain (writeAt l (depth + 1) w) :=
        fun w hw => ih w hw (depth + 1) (h.item hw)
      rw [List.forall_mem_cons] at hitems
      rw [writeAt_array]
      refine hends _ _ depth (by decide) (by decide) ?_
      rw [List.forall_mem_cons, List.forall_mem_map]
      exact ⟨isPlain_append.mpr ⟨isPlain_opening l depth, hitems.1⟩, fun w hw =>
        isPlain_append.mpr ⟨isPlain_gap l depth, hitems.2 w hw⟩⟩
  | object members ih =>
    cases members with
    | nil => exact (by decide : IsPlain (Text.ofString "\x7b\x7d"))
    | cons m rest =>
      have hmembers : ∀ w ∈ m :: rest, IsPlain (writeAt l (depth + 1) w.2) := fun w hw =>
        ih w hw (depth + 1) (h.member hw)
      rw [List.forall_mem_cons] at hmembers
      rw [writeAt_object]
      refine hends _ _ depth (by decide) (by decide) ?_
      rw [List.forall_mem_cons, List.forall_mem_map]
      exact ⟨isPlain_memberText (isPlain_opening l depth) hmembers.1, fun w hw =>
        isPlain_memberText (isPlain_gap l depth) (hmembers.2 w hw)⟩

theorem unmarked_of_isPlain {t : Text} (h : IsPlain t) : Unmarked t := by
  intro c hc
  have hascii := (h c (List.mem_of_mem_head? hc)).1
  omega

/-- Reading a written value gives it back, in either layout. -/
theorem read_writeAt (l : Layout) {v : Value} (h : Printable v) : read (writeAt l 0 v) = .ok v :=
  read_eq_ok.mpr ⟨unmarked_of_isPlain (isPlain_writeAt l 0 h), denotes_writeAt l 0 h⟩

end JsonTypings.Json
