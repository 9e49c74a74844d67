import JsonTypings.Proofs.Typing.Discovery
import JsonTypings.Proofs.Value.Skeleton

/-! Only the skeleton of a document reaches its interfaces. Each stage, from the choice of the root
to the text of a declaration, gives the same for a value and for its blanked out form, which depends
on nothing but the skeleton. -/
namespace JsonTypings

open Value

theorem FieldType.ofValue_blank (key : Text) (v : Value) :
    FieldType.ofValue key v.blank = FieldType.ofValue key v := by
  induction v using Value.induction with
  | array items ih =>
    cases items with
    | nil => simp [FieldType.ofValue]
    | cons v rest => simp [FieldType.ofValue, ih v List.mem_cons_self]
  | object members ih => simp [FieldType.ofValue]
  | _ => rfl

theorem Field.ofMember_blank (key : Text) (v : Value) :
    Field.ofMember key v.blank = Field.ofMember key v := by
  have htype := FieldType.ofValue_blank key v
  cases v with
  | array items =>
    cases items with
    | nil => simp_all [Field.ofMember]
    | cons v rest => simp_all [Field.ofMember]
  | object members => simp_all [Field.ofMember]
  | _ => rfl

/-- The same members with blanked out values. -/
def Members.blank (members : Members) : Members := members.map fun m => (m.1, m.2.blank)

theorem Declaration.ofMembers_blank (name : Text) (members : Members) :
    Declaration.ofMembers name members.blank = Declaration.ofMembers name members := by
  simp [Declaration.ofMembers, Members.blank, List.map_map, Function.comp_def, Field.ofMember_blank]

/-- The walk finds the same declarations in a blanked out value. -/
theorem Shape.below_blank (name : Text) (v : Value) :
    (Shape.below name v.blank).map Declaration.ofShape = (Shape.below name v).map Declaration.ofShape := by
  induction v using Value.induction generalizing name with
  | array items ih =>
    cases items with
    | nil =>
      rw [blank_array_nil, Shape.below_array_cons]
      rfl
    | cons v rest => simpa using ih v List.mem_cons_self name
  | object members ih =>
    have hown : Declaration.ofShape ⟨name, .object members.blank⟩ =
        Declaration.ofShape ⟨name, .object members⟩ :=
      Declaration.ofMembers_blank name members
    have hbelow : (members.flatMap fun m => (Shape.below (Naming.pascal m.1) m.2.blank).map Declaration.ofShape) =
        members.flatMap fun m => (Shape.below (Naming.pascal m.1) m.2).map Declaration.ofShape :=
      List.flatMap_congr fun m hm => ih m hm (Naming.pascal m.1)
    rw [blank_object, Shape.below_object, Shape.below_object, List.map_cons, List.map_cons,
      List.map_flatMap, List.map_flatMap, ← hbelow, List.flatMap_map]
    exact congrArg (· :: _) hown
  | _ => rfl

theorem Value.rootMembers_blank (v : Value) : v.blank.rootMembers = v.rootMembers.blank := by
  induction v using Value.induction with
  | array items ih =>
    cases items with
    | nil => simp [rootMembers, Members.blank]
    | cons v rest => simpa [rootMembers] using ih v List.mem_cons_self
  | object members ih => simp [rootMembers, Members.blank]
  | _ => rfl

/-- The interfaces of a document are those of its blanked out form. -/
theorem describe_blank (root : Text) (document : Value) :
    describe root document.blank = describe root document := by
  have hroot : (Value.object document.rootMembers).blank = .object document.blank.rootMembers := by
    rw [blank_object, rootMembers_blank]
    rfl
  rw [describe, describe, declarations_eq, declarations_eq, ← hroot, Shape.below_blank]

/-- Two documents of one skeleton have the same interfaces: those of the plainest document of that
skeleton, which holds nothing of what the two may differ in. -/
theorem generate_eq_of_skeleton_eq (root t u : Text) {v w : Value} (ht : Json.read t = .ok v)
    (hu : Json.read u = .ok w) (h : v.skeleton = w.skeleton) :
    ∃ s, generate (.text t) root = .ok s ∧ generate (.text u) root = .ok s ∧
      s = describe root v.skeleton.plain := by
  have hw : describe root w = describe root v := by
    rw [← describe_blank root w, ← describe_blank root v, blank, blank, h]
  exact ⟨describe root v, generate_text_eq_ok.mpr ⟨v, ht, rfl⟩, generate_text_eq_ok.mpr ⟨w, hu, hw⟩,
    (describe_blank root v).symm⟩

/-- Other words, other numbers, other items behind the first, and a null where there was no item. -/
theorem generate_eq_of_other_contents :
    ∃ s, generate (.text (Text.ofString "[\x7b\"tags\": [\"x\", 1], \"geo-pos\": [[]], \"n\": -12\x7d]"))
        defaultRootName = .ok s ∧
      generate (.text (Text.ofString "[\x7b\"tags\":[\"secret\"],\"geo-pos\":[[null,3],\x7b\x7d],\"n\":7\x7d,5]"))
        defaultRootName = .ok s ∧
      s = describe defaultRootName (.array [.object [(Text.ofString "tags", .array [.string []]),
        (Text.ofString "geo-pos", .array [.array [.null]]), (Text.ofString "n", .int 0)]]) :=
  generate_eq_of_skeleton_eq defaultRootName _ _
    (v := .array [.object [(Text.ofString "tags", .array [.string (Text.ofString "x"), .int 1]),
      (Text.ofString "geo-pos", .array [.array []]), (Text.ofString "n", .int (-12))]])
    (w := .array [.object [(Text.ofString "tags", .array [.string (Text.ofString "secret")]),
      (Text.ofString "geo-pos", .array [.array [.null, .int 3], .object []]), (Text.ofString "n", .int 7)],
      .int 5])
    rfl rfl rfl

end JsonTypings
