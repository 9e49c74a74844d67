import JsonTypings.Proofs.Encoding.TextFile
import JsonTypings.Proofs.Typing.References
import JsonTypings.Proofs.Typing.Spelling

/-! Interfaces can be encoded exactly when neither the name of the root nor a key that they show
holds a surrogate. No surrogate is lost or made on the way from a key to a name. -/
namespace JsonTypings

/-- A text without surrogates. -/
def Text.SurrogateFree (t : Text) : Prop := ∀ c ∈ t, c.isSurrogate = false

instance (t : Text) : Decidable t.SurrogateFree :=
  inferInstanceAs (Decidable (∀ c ∈ t, c.isSurrogate = false))

open Text

variable {s t : Text}

theorem surrogateFree_append : (s ++ t).SurrogateFree ↔ s.SurrogateFree ∧ t.SurrogateFree :=
  List.forall_mem_append

theorem surrogateFree_cons {c : CodePoint} :
    SurrogateFree (c :: t) ↔ c.isSurrogate = false ∧ t.SurrogateFree := List.forall_mem_cons

theorem surrogateFree_flatMap {α : Type} {l : List α} {f : α → Text} :
    SurrogateFree (l.flatMap f) ↔ ∀ a ∈ l, (f a).SurrogateFree := by
  simp only [SurrogateFree, List.forall_mem_flatMap]

theorem surrogateFree_intercalate {sep : Text} (hsep : sep.SurrogateFree) {ts : List Text} :
    SurrogateFree (List.intercalate sep ts) ↔ ∀ t ∈ ts, t.SurrogateFree := by
  induction ts with
  | nil => simp [SurrogateFree]
  | cons t ts ih =>
    cases ts with
    | nil => simp
    | cons u ts =>
      rw [List.intercalate_cons_cons, surrogateFree_append, surrogateFree_append, ih, List.forall_mem_cons]
      simp [hsep]

theorem surrogateFree_splitOn {mark : CodePoint} (hmark : mark.isSurrogate = false) :
    (∀ part ∈ splitOn mark t, part.SurrogateFree) ↔ t.SurrogateFree := by
  induction t with
  | nil => simp [splitOn, SurrogateFree]
  | cons c t ih =>
    rw [surrogateFree_cons, ← ih, splitOn]
    split_ifs with hc
    · simp [hc, hmark, SurrogateFree]
    · obtain ⟨first, more, hparts⟩ := List.exists_cons_of_ne_nil (splitOn_ne_nil mark t)
      simp [hparts, surrogateFree_cons, and_assoc]

theorem surrogateFree_upper {c : CodePoint} : c.upper.SurrogateFree ↔ c.isSurrogate = false := by
  constructor
  · intro h
    obtain ⟨d, image, himage⟩ := List.exists_cons_of_ne_nil c.upper_ne_nil
    have hd : d ∈ c.upper := himage ▸ List.mem_cons_self
    exact CodePoint.isSurrogate_of_mem_upper hd ▸ h d hd
  · intro hc d hd
    rw [CodePoint.isSurrogate_of_mem_upper hd, hc]

namespace Naming

theorem surrogateFree_capitalize : (capitalize t).SurrogateFree ↔ t.SurrogateFree := by
  cases t with
  | nil => rfl
  | cons c t => rw [capitalize, surrogateFree_append, surrogateFree_cons, surrogateFree_upper]

theorem surrogateFree_pascal : (pascal t).SurrogateFree ↔ t.SurrogateFree := by
  rw [pascal, surrogateFree_flatMap]
  simp only [surrogateFree_capitalize]
  exact surrogateFree_splitOn (by decide)

theorem surrogateFree_camel : (camel t).SurrogateFree ↔ t.SurrogateFree := by
  have hsplit : (∀ part ∈ splitOn (CodePoint.ofChar '-') t, part.SurrogateFree) ↔ t.SurrogateFree :=
    surrogateFree_splitOn (by decide)
  obtain ⟨first, more, hparts⟩ := List.exists_cons_of_ne_nil (segments_ne_nil t)
  rw [← hsplit, ← segments, camel, hparts, surrogateFree_append, surrogateFree_flatMap,
    List.forall_mem_cons]
  simp only [surrogateFree_capitalize]

end Naming

theorem surrogateFree_token {key : Text} (h : key.SurrogateFree) (v : Value) :
    (FieldType.token key v).SurrogateFree :=
  FieldType.token_of_key (P := SurrogateFree) (Naming.surrogateFree_pascal.mpr h) (by decide)
    (fun _ ht => surrogateFree_append.mpr ⟨ht, by decide⟩) v

/-- The line of a member shows its key. -/
theorem surrogateFree_line (m : Text × Value) :
    (FieldEntry.ofMember m).line.SurrogateFree ↔ m.1.SurrogateFree := by
  simp only [FieldEntry.line, FieldEntry.label, surrogateFree_append]
  constructor
  · rintro ⟨⟨⟨-, hname, -⟩, -⟩, -⟩
    exact Naming.surrogateFree_camel.mp hname
  · intro hkey
    have htoken := surrogateFree_token hkey m.2
    refine ⟨⟨⟨by decide, Naming.surrogateFree_camel.mpr hkey, by split <;> decide⟩, by decide⟩, ?_⟩
    unfold FieldEntry.ending
    split
    · exact htoken
    · exact surrogateFree_append.mpr ⟨htoken, by decide⟩

theorem surrogateFree_render (s : Shape) :
    (Declaration.ofShape s).render.SurrogateFree ↔
      s.name.SurrogateFree ∧ ∀ m ∈ s.node.members, m.1.SurrogateFree := by
  have hfeed : SurrogateFree [CodePoint.ofChar '\n'] := by decide
  have hfront : (Text.ofString "export interface ").SurrogateFree := by decide
  have hback : (Text.ofString " \x7b").SurrogateFree := by decide
  have hclosing : Declaration.closing.SurrogateFree := by decide
  rw [Declaration.render_ofShape, Declaration.spell, surrogateFree_append, surrogateFree_flatMap,
    Declaration.lines, List.forall_mem_cons, List.map_map, List.forall_mem_map, Declaration.header]
  simp [surrogateFree_append, surrogateFree_line, hfeed, hfront, hback, hclosing]

/-- The interfaces of a document hold a surrogate just when the name of the root or a key of some
shape does. -/
theorem surrogateFree_describe (root : Text) (document : Value) :
    (describe root document).SurrogateFree ↔ root.SurrogateFree ∧
      ∀ s ∈ Shape.below root (.object document.rootMembers), ∀ m ∈ s.node.members, m.1.SurrogateFree := by
  have hfirst : ⟨root, .object document.rootMembers⟩ ∈
      Shape.below root (.object document.rootMembers) := by
    rw [Shape.below_object]
    exact List.mem_cons_self
  rw [describe, declarations_eq, Declaration.renderAll, surrogateFree_intercalate (by decide),
    List.map_map, List.forall_mem_map]
  simp only [Function.comp_apply, surrogateFree_render]
  constructor
  · intro h
    exact ⟨(h _ hfirst).1, fun s hs => (h s hs).2⟩
  · rintro ⟨hroot, hkeys⟩ s hs
    have hall : ∀ s ∈ Shape.below root (.object document.rootMembers), ∀ key ∈ s.node.members.keys,
        key.SurrogateFree := fun s hs => List.forall_mem_map.mpr (hkeys s hs)
    have hpascal (key : Text) : key.SurrogateFree → (Naming.pascal key).SurrogateFree :=
      Naming.surrogateFree_pascal.mpr
    exact ⟨Shape.name_of_keys hpascal hroot hall hs, hkeys s hs⟩

end JsonTypings
