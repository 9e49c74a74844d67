import JsonTypings.Proofs.Typing.Spelling
import JsonTypings.Proofs.Typing.References

/-! Reading declarations back. Blank lines part the declarations, line feeds the lines of one, and
spaces the parts of a line, so that nothing is lost as long as no name holds a space or a line feed. -/
namespace JsonTypings

/-- A text that can be told from what stands around it in a declaration. -/
def Text.Unspaced (t : Text) : Prop := CodePoint.ofChar ' ' ∉ t ∧ CodePoint.ofChar '\n' ∉ t

instance (t : Text) : Decidable t.Unspaced := inferInstanceAs (Decidable (_ ∧ _))

open Text

/-- What is written one by one is read one by one. -/
theorem mapM_map_eq_some {α β γ : Type} {write : α → β} {read : β → Option γ} {shown : α → γ}
    {l : List α} (h : ∀ a ∈ l, read (write a) = some (shown a)) :
    (l.map write).mapM read = some (l.map shown) := by
  induction l with
  | nil => rfl
  | cons a rest ih =>
    have hrest := ih fun b hb => h b (List.mem_cons_of_mem _ hb)
    rw [List.map_cons, List.mapM_cons, h a List.mem_cons_self, hrest]
    rfl

theorem Text.Unspaced.append {s t : Text} (hs : s.Unspaced) (ht : t.Unspaced) : (s ++ t).Unspaced :=
  ⟨by simp [hs.1, ht.1], by simp [hs.2, ht.2]⟩

theorem unspaced_pascal {key : Text} (h : key.Unspaced) : (Naming.pascal key).Unspaced :=
  ⟨fun hmem => h.1 (Naming.mem_of_mem_pascal (by decide) hmem),
    fun hmem => h.2 (Naming.mem_of_mem_pascal (by decide) hmem)⟩

theorem unspaced_camel {key : Text} (h : key.Unspaced) : (Naming.camel key).Unspaced :=
  ⟨fun hmem => h.1 (Naming.mem_of_mem_camel (by decide) hmem),
    fun hmem => h.2 (Naming.mem_of_mem_camel (by decide) hmem)⟩

theorem unspaced_token {key : Text} (h : key.Unspaced) (v : Value) : (FieldType.token key v).Unspaced :=
  FieldType.token_of_key (P := Unspaced) (unspaced_pascal h) (by decide) (fun _ ht => ht.append (by decide)) v

namespace FieldEntry

/-- Reads a line. What ends in a semicolon is not optional. -/
def ofLine? (t : Text) : Option FieldEntry :=
  match splitOn (CodePoint.ofChar ' ') t with
  | [[], [], label, ending] =>
    match List.isSuffixOf? (Text.ofString ";") ending with
    | some type => (List.isSuffixOf? (Text.ofString ":") label).map fun name => ⟨name, false, type⟩
    | none => (List.isSuffixOf? (Text.ofString "?:") label).map fun name => ⟨name, true, ending⟩
  | _ => none

/-- An entry that its line shows: its name and its type are clear, and an optional field does not
look like another. -/
structure Legible (e : FieldEntry) : Prop where
  name : e.name.Unspaced
  type : e.type.Unspaced
  optional : e.optional = true → ¬ Text.ofString ";" <:+ e.type

theorem legible_ofMember {m : Text × Value} (h : m.1.Unspaced) : (ofMember m).Legible where
  name := unspaced_camel h
  type := unspaced_token h m.2
  optional := by
    intro hnull
    have hany : (ofMember m).type = Text.ofString "any" := by
      obtain ⟨key, v⟩ := m
      cases v <;> first | rfl | cases hnull
    rw [hany]
    decide

variable {e : FieldEntry}

theorem Legible.label (h : e.Legible) : e.label.Unspaced :=
  h.name.append (by split <;> decide)

theorem Legible.ending (h : e.Legible) : e.ending.Unspaced := by
  unfold FieldEntry.ending
  split
  · exact h.type
  · exact h.type.append (by decide)

theorem Legible.line_ne_nil (_ : e.Legible) : e.line ≠ [] := by
  simp [line, Text.ofString]

theorem Legible.not_mem_line (h : e.Legible) : CodePoint.ofChar '\n' ∉ e.line := by
  have hspaces : CodePoint.ofChar '\n' ∉ Text.ofString "  " := by decide
  have hspace : CodePoint.ofChar '\n' ∉ Text.ofString " " := by decide
  simp [line, hspaces, hspace, h.label.2, h.ending.2]

theorem splitOn_line (h : e.Legible) :
    splitOn (CodePoint.ofChar ' ') e.line = [[], [], e.label, e.ending] := by
  have hline : e.line = CodePoint.ofChar ' ' :: CodePoint.ofChar ' ' ::
      (e.label ++ CodePoint.ofChar ' ' :: e.ending) := by simp [line, Text.ofString]
  rw [hline, splitOn_mark, splitOn_mark, splitOn_append, splitOn_of_not_mem h.label.1,
    splitOn_of_not_mem h.ending.1]
  rfl

/-- A line shows what was written into it. -/
theorem ofLine?_line (h : e.Legible) : ofLine? e.line = some e := by
  obtain ⟨name, optional, type⟩ := e
  rw [ofLine?, splitOn_line h]
  cases optional with
  | false =>
    have hending : List.isSuffixOf? (Text.ofString ";") (type ++ Text.ofString ";") = some type :=
      List.isSuffixOf?_eq_some_iff_append_eq.mpr rfl
    have hlabel : List.isSuffixOf? (Text.ofString ":") (name ++ Text.ofString ":") = some name :=
      List.isSuffixOf?_eq_some_iff_append_eq.mpr rfl
    simp [FieldEntry.ending, FieldEntry.label, hending, hlabel]
  | true =>
    have hending : List.isSuffixOf? (Text.ofString ";") type = none := by
      rw [Option.eq_none_iff_forall_ne_some]
      intro rest hrest
      exact h.optional rfl ⟨rest, List.isSuffixOf?_eq_some_iff_append_eq.mp hrest⟩
    have hlabel : List.isSuffixOf? (Text.ofString "?:") (name ++ Text.ofString "?:") = some name :=
      List.isSuffixOf?_eq_some_iff_append_eq.mpr rfl
    simp [FieldEntry.ending, FieldEntry.label, hending, hlabel]

end FieldEntry

namespace Declaration

/-- Reads the first line of a declaration. -/
def nameOfHeader? (t : Text) : Option Text :=
  match splitOn (CodePoint.ofChar ' ') t with
  | [_, _, name, _] => if t = header name then some name else none
  | _ => none

/-- Reads a declaration: its name and its fields. -/
def ofText? (t : Text) : Option (Text × List FieldEntry) :=
  match splitOn (CodePoint.ofChar '\n') t with
  | [] => none
  | first :: rest =>
    if rest.getLast? = some closing then
      (nameOfHeader? first).bind fun name =>
        (rest.dropLast.mapM FieldEntry.ofLine?).map fun entries => (name, entries)
    else none

/-- Reads all declarations of a document. -/
def ofOutput? (t : Text) : Option (List (Text × List FieldEntry)) := (blocks t).mapM ofText?

theorem not_mem_header {name : Text} (h : name.Unspaced) : CodePoint.ofChar '\n' ∉ header name := by
  have hfront : CodePoint.ofChar '\n' ∉ Text.ofString "export interface " := by decide
  have hback : CodePoint.ofChar '\n' ∉ Text.ofString " \x7b" := by decide
  simp [header, hfront, hback, h.2]

theorem header_ne_nil (name : Text) : header name ≠ [] := by
  simp [header, Text.ofString]

theorem nameOfHeader?_header {name : Text} (h : name.Unspaced) : nameOfHeader? (header name) = some name := by
  have hheader : header name = Text.ofString "export" ++ CodePoint.ofChar ' ' ::
      (Text.ofString "interface" ++ CodePoint.ofChar ' ' :: (name ++ CodePoint.ofChar ' ' ::
        Text.ofString "\x7b")) := by
    simp [header, Text.ofString]
  have hsplit : splitOn (CodePoint.ofChar ' ') (header name) =
      [Text.ofString "export", Text.ofString "interface", name, Text.ofString "\x7b"] := by
    rw [hheader, splitOn_append, splitOn_append, splitOn_append, splitOn_of_not_mem h.1]
    rfl
  simp [nameOfHeader?, hsplit]

/-- A name and entries that a declaration shows. -/
structure Legible (name : Text) (entries : List FieldEntry) : Prop where
  name : name.Unspaced
  entries : ∀ e ∈ entries, e.Legible

variable {name : Text} {entries : List FieldEntry}

theorem Legible.line (h : Legible name entries) {line : Text} (hline : line ∈ lines name entries) :
    line ≠ [] ∧ CodePoint.ofChar '\n' ∉ line := by
  rcases List.mem_cons.mp hline with rfl | hline
  · exact ⟨header_ne_nil name, not_mem_header h.name⟩
  · obtain ⟨e, he, rfl⟩ := List.mem_map.mp hline
    exact ⟨(h.entries e he).line_ne_nil, (h.entries e he).not_mem_line⟩

theorem closing_line : closing ≠ [] ∧ CodePoint.ofChar '\n' ∉ closing := by decide

/-- The lines of a declaration are its header, its fields and the closing brace. -/
theorem splitOn_spell (h : Legible name entries) :
    splitOn (CodePoint.ofChar '\n') (spell name entries) = lines name entries ++ [closing] :=
  splitOn_flatMap (fun _ hline => (h.line hline).2) closing_line.2

theorem unbroken_spell (h : Legible name entries) : Unbroken (spell name entries) :=
  unbroken_lines (fun _ hline => h.line hline) closing_line

theorem mapM_ofLine?_line (h : ∀ e ∈ entries, e.Legible) :
    (entries.map FieldEntry.line).mapM FieldEntry.ofLine? = some entries := by
  have hlines := mapM_map_eq_some fun e he => FieldEntry.ofLine?_line (h e he)
  rwa [List.map_id'] at hlines

/-- A declaration shows what was written into it. -/
theorem ofText?_spell (h : Legible name entries) : ofText? (spell name entries) = some (name, entries) := by
  simp [ofText?, splitOn_spell h, lines, nameOfHeader?_header h.name, mapM_ofLine?_line h.entries]

/-- Some text ends every output, and it is a closing brace. -/
theorem getLast?_renderAll {ds : List Declaration} (h : ds ≠ []) :
    (renderAll ds).getLast? = some (CodePoint.ofChar '\x7d') := by
  induction ds with
  | nil => contradiction
  | cons d rest ih =>
    cases rest with
    | nil =>
      rw [renderAll, List.map_singleton, List.intercalate_singleton, render, List.getLast?_append]
      rfl
    | cons e more =>
      have hmore := ih (by simp)
      simp only [renderAll, List.map_cons, List.intercalate_cons_cons] at hmore ⊢
      rw [List.getLast?_append, hmore]
      rfl

end Declaration

namespace Shape

variable {found : List Shape}

/-- A shape that its declaration shows. -/
def Legible (s : Shape) : Prop := Declaration.Legible s.name (s.node.members.map FieldEntry.ofMember)

theorem legible_of_mem_below {root : Text} {members : Members} (hroot : root.Unspaced)
    (hkeys : ∀ s ∈ below root (.object members), ∀ key ∈ s.node.members.keys, key.Unspaced) {s : Shape}
    (hs : s ∈ below root (.object members)) : s.Legible where
  name := name_of_keys (P := Unspaced) (fun _ => unspaced_pascal) hroot hkeys hs
  entries := by
    intro e he
    obtain ⟨m, hm, rfl⟩ := List.mem_map.mp he
    exact FieldEntry.legible_ofMember (hkeys s hs m.1 (List.mem_map_of_mem hm))

/-- The blocks of an output are its declarations. -/
theorem blocks_renderAll (hne : found ≠ []) (h : ∀ s ∈ found, s.Legible) :
    blocks (Declaration.renderAll (found.map Declaration.ofShape)) =
      found.map fun s => (Declaration.ofShape s).render := by
  have hblank : Text.ofString "\n\n" = [CodePoint.ofChar '\n', CodePoint.ofChar '\n'] := by decide
  rw [Declaration.renderAll, hblank, List.map_map]
  apply blocks_intercalate
  · simpa using hne
  · intro t ht
    obtain ⟨s, hs, rfl⟩ := List.mem_map.mp ht
    rw [Function.comp_apply, Declaration.render_ofShape]
    exact Declaration.unbroken_spell (h s hs)

/-- Each block shows its shape. -/
theorem mapM_ofText?_render (h : ∀ s ∈ found, s.Legible) :
    (found.map fun s => (Declaration.ofShape s).render).mapM Declaration.ofText? =
      some (found.map fun s => (s.name, s.node.members.map FieldEntry.ofMember)) := by
  apply mapM_map_eq_some
  intro s hs
  rw [Declaration.render_ofShape]
  exact Declaration.ofText?_spell (h s hs)

end Shape

open Declaration in
/-- An output can be read back. If neither the name of the root nor a key holds a space or a line
feed, the output shows for all shapes, in order, their names and for all their fields the name,
whether the value is a null, and the type. Its blocks are the declarations, one for each shape, and
their lines are a header, the fields and a closing brace; nothing stands behind the last brace. -/
theorem output_shows_shapes (t root out : Text) (h : generate (.text t) root = .ok out) :
    ∃ (document : Value) (found : Array Shape), Json.read t = .ok document ∧
      Shape.all root (.object document.rootMembers) = .ok found ∧
      (root.Unspaced → (∀ s ∈ found, ∀ key ∈ s.node.members.keys, key.Unspaced) →
        ofOutput? out = some (found.toList.map fun s => (s.name, s.node.members.map FieldEntry.ofMember)) ∧
        blocks out = found.toList.map (fun s => (ofShape s).render) ∧
        (∀ s ∈ found, splitOn (CodePoint.ofChar '\n') (ofShape s).render =
          header s.name :: (s.node.members.map fun m => (FieldEntry.ofMember m).line) ++ [closing]) ∧
        out.getLast? ≠ some (CodePoint.ofChar '\n')) := by
  obtain ⟨document, hread, rfl⟩ := generate_text_eq_ok.mp h
  obtain ⟨found, hall, hfound⟩ := Shape.all_object root document.rootMembers
  refine ⟨document, found, hread, hall, ?_⟩
  intro hroot hkeys
  have hmem (s : Shape) : s ∈ found ↔ s ∈ Shape.below root (.object document.rootMembers) := by
    rw [← hfound, Array.mem_toList_iff]
  simp only [hmem] at hkeys ⊢
  have hne : Shape.below root (.object document.rootMembers) ≠ [] := by simp
  have hlegible (s : Shape) (hs : s ∈ Shape.below root (.object document.rootMembers)) :=
    Shape.legible_of_mem_below hroot hkeys hs
  have hblocks := Shape.blocks_renderAll hne hlegible
  rw [hfound]
  refine ⟨?_, hblocks, ?_, ?_⟩
  · have hshown := Shape.mapM_ofText?_render hlegible
    rw [← hblocks] at hshown
    exact hshown
  · intro s hs
    rw [render_ofShape, splitOn_spell (hlegible s hs), lines, List.map_map]
    rfl
  · have hdeclared : declarations root document ≠ [] := by rw [declarations_eq]; simp
    rw [describe, getLast?_renderAll hdeclared]
    decide

/-- An empty key, punctuation of all kinds, and a letter whose upper case is longer. -/
theorem output_shows_odd_keys :
    ∃ out, generate (.text (Text.ofString
        "\x7b\"\":\x7b\"a?\":null\x7d,\"b:;\":[[\x7b\"\x7d\":[]\x7d]],\"x-ß\":null,\"-ß\":\x7b\x7d\x7d"))
        defaultRootName = .ok out ∧
      Declaration.ofOutput? out = some
        [(defaultRootName,
          [⟨Text.ofString "", false, Text.ofString ""⟩, ⟨Text.ofString "b:;", false, Text.ofString "B:;[][]"⟩,
            ⟨Text.ofString "xSS", true, Text.ofString "any"⟩, ⟨Text.ofString "SS", false, Text.ofString "SS"⟩]),
          (Text.ofString "", [⟨Text.ofString "a?", true, Text.ofString "any"⟩]),
          (Text.ofString "B:;", [⟨Text.ofString "\x7d", false, Text.ofString "any[]"⟩]),
          (Text.ofString "SS", [])] := by
  let document : Value := .object [([], .object [(Text.ofString "a?", .null)]),
    (Text.ofString "b:;", .array [.array [.object [(Text.ofString "\x7d", .array [])]]]),
    (Text.ofString "x-ß", .null), (Text.ofString "-ß", .object [])]
  have hread : Json.read (Text.ofString
      "\x7b\"\":\x7b\"a?\":null\x7d,\"b:;\":[[\x7b\"\x7d\":[]\x7d]],\"x-ß\":null,\"-ß\":\x7b\x7d\x7d") =
        .ok document := rfl
  have hgenerate : generate (.text _) defaultRootName = .ok _ := generate_text_eq_ok.mpr ⟨document, hread, rfl⟩
  obtain ⟨read, found, hread', hall, hshows⟩ := output_shows_shapes _ _ _ hgenerate
  obtain rfl : document = read := Except.ok.inj (hread.symm.trans hread')
  obtain rfl := Except.ok.inj hall
  exact ⟨_, hgenerate, (hshows (by decide) (by decide)).1.trans (by rfl)⟩

end JsonTypings
