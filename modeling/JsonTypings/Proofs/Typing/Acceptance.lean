import JsonTypings.Proofs.Json.Viability
import JsonTypings.Proofs.Typing.Composition

/-! Which texts have interfaces, and which interfaces these are. A text that is malformed is refused
with a place in it, up to which nothing is wrong. -/
namespace JsonTypings

open Json (Denotes Unmarked Viable read_eq_ok)

/-- The interfaces of a document, from its reading on: the walk starts at the object to which first
elements lead, and each object that it finds is declared, with a blank line between two. -/
theorem describe_eq_iff {root out : Text} {document : Value} :
    describe root document = out ↔
      ∃ n found, (Value.firstElement^[n] document).firstElement = Value.firstElement^[n] document ∧
        Shape.discover #[] root (.object (Value.firstElement^[n] document).members) = (found, none) ∧
        out = List.intercalate (Text.ofString "\n\n")
          (found.toList.map fun s => (Declaration.ofMembers s.name s.node.members).render) := by
  constructor
  · rintro rfl
    obtain ⟨n, hend, -⟩ := document.exists_iterate_firstElement
    refine ⟨n, _, hend, rfl, ?_⟩
    rw [← Value.rootMembers_eq_of_firstElement hend, describe, declarations, Declaration.renderAll,
      List.map_map]
    rfl
  · rintro ⟨n, found, hend, hfound, rfl⟩
    rw [describe, declarations, Value.rootMembers_eq_of_firstElement hend, hfound, Declaration.renderAll,
      List.map_map]
    rfl

/-- A text has interfaces exactly when it begins with no byte order mark and belongs to the
language. They are the declarations of the objects that a walk finds, from the object to which first
elements lead in the one value that the text denotes. -/
theorem generate_eq_ok_iff_denotes (t root out : Text) :
    generate (.text t) root = .ok out ↔
      Unmarked t ∧ ∃ document, (Denotes t document ∧ ∀ v, Denotes t v → v = document) ∧
        ∃ n found, (Value.firstElement^[n] document).firstElement = Value.firstElement^[n] document ∧
          Shape.discover #[] root (.object (Value.firstElement^[n] document).members) = (found, none) ∧
          out = List.intercalate (Text.ofString "\n\n")
            (found.toList.map fun s => (Declaration.ofMembers s.name s.node.members).render) := by
  simp only [← describe_eq_iff]
  rw [generate_text_eq_ok]
  constructor
  · rintro ⟨document, hread, hout⟩
    obtain ⟨hunmarked, hdenotes⟩ := read_eq_ok.mp hread
    exact ⟨hunmarked, document, ⟨hdenotes, fun v hv => hv.unique hdenotes⟩, hout⟩
  · rintro ⟨hunmarked, document, ⟨hdenotes, -⟩, hout⟩
    exact ⟨document, read_eq_ok.mpr ⟨hunmarked, hdenotes⟩, hout⟩

/-- An object behind a bracket, with a repeated key, a key that is a surrogate pair in two escapes, and
an object within two arrays. -/
def nestedText : Text :=
  Text.ofString "\t[\x7b\"a-b\":\"\",\"geo\":[1],\"\\ud83d\\uDE00\":[[\x7b\"id\":1\x7d],2],\n" ++
    Text.ofString "\"c\":null,\"geo\":\x7b\"lat\":-0.5\x7d\x7d, 7]"

/-- The value of that text. -/
def nestedDocument : Value :=
  .array [.object [(Text.ofString "a-b", .string []),
    (Text.ofString "geo", .object [(Text.ofString "lat", .float (Binary64.ofDecimal true 5 2 (-1)))]),
    ([CodePoint.ofNat 0x1F600], .array [.array [.object [(Text.ofString "id", .int 1)]], .int 2]),
    (Text.ofString "c", .null)], .int 7]

/-- Three interfaces, the objects' in the order of their keys, and none behind a byte order mark. -/
theorem generate_eq_ok_nestedText :
    Denotes nestedText nestedDocument ∧
      generate (.text nestedText) (Text.ofString "Root") = .ok (
        Text.ofString "export interface Root \x7b\n  aB: string;\n  geo: Geo;\n  😀: 😀[][];\n  c?: any\n\x7d" ++
        Text.ofString "\n\nexport interface Geo \x7b\n  lat: number;\n\x7d" ++
        Text.ofString "\n\nexport interface 😀 \x7b\n  id: number;\n\x7d") ∧
      ∀ root out, generate (.text (CodePoint.ofNat 0xFEFF :: nestedText)) root ≠ .ok out := by
  have hread : Json.read nestedText = .ok nestedDocument := by rfl
  obtain ⟨hunmarked, hdenotes⟩ := read_eq_ok.mp hread
  refine ⟨hdenotes, ?_, fun root out hout => ?_⟩
  · refine (generate_eq_ok_iff_denotes _ _ _).mpr
      ⟨hunmarked, _, ⟨hdenotes, fun v hv => hv.unique hdenotes⟩, 1, _, rfl, rfl, ?_⟩
    decide +kernel
  · obtain ⟨hmarked, -⟩ := (generate_eq_ok_iff_denotes _ _ _).mp hout
    exact hmarked _ rfl rfl

/-- The beginning of a document can be completed to a text that has interfaces, under any name. -/
theorem exists_generate_of_viable {t : Text} (h : Viable t) :
    ∃ rest, ∀ root, ∃ out, generate (.text (t ++ rest)) root = .ok out := by
  obtain ⟨rest, document, hdenotes⟩ := h
  have hread : Json.read (t ++ rest) = .ok document :=
    read_eq_ok.mpr ⟨hdenotes.beginsAscii.unmarked, hdenotes⟩
  refine ⟨rest, ?_⟩
  intro root
  exact ⟨describe root document, generate_text_eq_ok.mpr ⟨document, hread, rfl⟩⟩

/-- The place of a refusal is that of an offset up to which the text is the beginning of a document. -/
theorem viable_of_malformed {t : Text} {fault : Json.Fault} {p : Json.Position}
    (h : Json.read t = .error (.malformed fault p)) :
    p.offset ≤ t.length ∧ p = .locate t p.offset ∧ Viable (t.take p.offset) := by
  have hempty : Viable [] := ⟨_, _, Denotes.word List.mem_cons_self⟩
  have hdecoded (h : Json.readDecoded t = .error (.malformed fault p)) :
      p.offset ≤ t.length ∧ p = .locate t p.offset ∧ Viable (t.take p.offset) := by
    rw [Json.readDecoded] at h
    cases hread : Json.readDocument t with
    | ok v => simp [hread, Except.mapError] at h
    | error e =>
      rw [hread] at h
      cases e with
      | tooManyDigits digits => cases h
      | flaw f =>
        cases h
        obtain ⟨hle, hviable⟩ := Json.viable_of_flaw hread
        rw [Json.Position.locate_offset t f.offset hle]
        exact ⟨hle, rfl, hviable⟩
  unfold Json.read at h
  split at h
  · split_ifs at h
    · cases h
      exact ⟨Nat.zero_le _, rfl, hempty⟩
    · exact hdecoded h
  · exact hdecoded h

/-- A malformed text is never blamed for anything behind its first error. The place that a refusal
tells is one in the text or its end, with the line and the column of the offset, and the text before
it is the beginning of a text that has interfaces. -/
theorem generate_malformed_viable {t root : Text} {fault : Json.Fault} {p : Json.Position}
    (h : generate (.text t) root = .error (.unreadable (.malformed fault p))) :
    p.offset ≤ t.length ∧
      p.line = 1 + (t.take p.offset).count (CodePoint.ofChar '\n') ∧
      p.column =
        1 + ((t.take p.offset).reverse.takeWhile fun c => c ≠ CodePoint.ofChar '\n').length ∧
      ∃ rest, ∀ name, ∃ out, generate (.text (t.take p.offset ++ rest)) name = .ok out := by
  obtain ⟨hle, hplace, hviable⟩ := viable_of_malformed (generate_text_eq_error.mp h)
  have hline := Json.Position.locate_line t p.offset
  have hcolumn := Json.Position.locate_column t p.offset
  rw [← hplace] at hline hcolumn
  exact ⟨hle, hline, hcolumn, exists_generate_of_viable hviable⟩

/-- The second half of a surrogate pair has a letter among its digits, in the second line, inside of a
string, an array and an object. -/
def halfEscape : Text := Text.ofString "\x7b\"a\": [null,\n \"x\\ud83d\\u12G4\"]\x7d"

/-- The refusal points at the letter of that escape. -/
theorem generate_malformed_viable_halfEscape :
    generate (.text halfEscape) defaultRootName =
        .error (.unreadable (.malformed .unicodeEscape ⟨23, 2, 11⟩)) ∧
      halfEscape.take 23 = Text.ofString "\x7b\"a\": [null,\n \"x\\ud83d\\" ∧
      ∃ rest, ∀ name, ∃ out, generate (.text (halfEscape.take 23 ++ rest)) name = .ok out := by
  have hrefused : generate (.text halfEscape) defaultRootName =
      .error (.unreadable (.malformed .unicodeEscape ⟨23, 2, 11⟩)) := rfl
  obtain ⟨-, -, -, hviable⟩ := generate_malformed_viable hrefused
  exact ⟨hrefused, rfl, hviable⟩

end JsonTypings
