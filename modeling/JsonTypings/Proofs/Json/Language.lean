import JsonTypings.Proofs.Json.Completeness
import JsonTypings.Proofs.Json.Opening
import JsonTypings.Proofs.Json.Soundness

/-! The texts that are read are those of the language. -/
namespace JsonTypings.Json

/-- A text that does not begin with a byte order mark. -/
def Unmarked (t : Text) : Prop := ∀ c ∈ t.head?, c.val ≠ 0xFEFF

theorem readDocument_eq_ok {t : Text} {v : Value} : readDocument t = .ok v ↔ Denotes t v :=
  ⟨denotes_of_readDocument, readDocument_of_denotes⟩

theorem readDecoded_eq_ok {t : Text} {v : Value} : readDecoded t = .ok v ↔ Denotes t v := by
  rw [readDecoded, ← readDocument_eq_ok]
  cases readDocument t <;> simp [Except.mapError]

/-- A text is read as what it denotes, unless it begins with a byte order mark. -/
theorem read_eq_ok {t : Text} {v : Value} : read t = .ok v ↔ Unmarked t ∧ Denotes t v := by
  unfold read
  split
  · rename_i c rest
    split
    · rename_i hmark
      simp [Unmarked, hmark]
    · rename_i hmark
      simp [Unmarked, hmark, readDecoded_eq_ok]
  · simp [Unmarked, readDecoded_eq_ok]

theorem denotes_of_read {t : Text} {v : Value} (h : read t = .ok v) : Denotes t v :=
  (read_eq_ok.mp h).2

/-- A text that begins with ASCII has no byte order mark. -/
theorem BeginsAscii.unmarked {t : Text} (h : BeginsAscii t) : Unmarked t := by
  obtain ⟨c, hhead, hc⟩ := h
  intro d hd
  obtain rfl : c = d := Option.some.inj (hhead.symm.trans hd)
  omega

theorem unmarked_cons {c : CodePoint} (hc : c.val < 0x80) (t : Text) : Unmarked (c :: t) :=
  (beginsAscii_cons hc t).unmarked

theorem read_of_unmarked {t : Text} (h : Unmarked t) : read t = readDecoded t := by
  cases t with
  | nil => rfl
  | cons c t => rw [read, if_neg (h c rfl)]

/-- An integer that is too long is refused for that. -/
theorem read_of_tooLong {n : NumberLiteral} (h : n.IsInteger) (hlong : digitLimit < n.whole.length) :
    read n.text = .error (.tooManyDigits n.whole.length) := by
  rw [read_of_unmarked n.beginsAscii_text.unmarked, readDecoded, readDocument_of_tooLong h hlong]
  rfl

end JsonTypings.Json
