import JsonTypings.Proofs.Typing.Discovery
import JsonTypings.Proofs.Value.Skeleton

/-! Values that have a type as it is written. The interfaces of a document describe it, when all
items of an array look like its first one and a name stands for one declaration only. -/
namespace JsonTypings

open FieldType

/-- A type that is neither built in nor marked as an array is the name of a declaration. -/
def FieldType.IsName (type : Text) : Prop := type ∉ builtins ∧ ¬ arrayMark <:+ type

mutual

/-- Values of a type, by the declarations given. The type is a text, as it stands in the line of a
field. -/
inductive Conforms (ds : List Declaration) : Value → Text → Prop where
  | any (v : Value) : Conforms ds v (Text.ofString "any")
  | builtin {v : Value} (h : v.kind.name ∈ builtins) : Conforms ds v v.kind.name
  | array {items : List Value} {type : Text} (h : ∀ v ∈ items, Conforms ds v type) :
      Conforms ds (.array items) (type ++ arrayMark)
  | record {members : Members} {name : Text} (hname : IsName name) (h : Described ds name members) :
      Conforms ds (.object members) name

/-- Objects that are what a name is declared to be. Wherever the name is declared, it must be in the
same words. -/
inductive Described (ds : List Declaration) : Text → Members → Prop where
  | declared {d : Declaration} {members : Members} (hd : d ∈ ds)
      (hsame : ∀ e ∈ ds, e.name = d.name → e.render = d.render)
      (h : MembersConform ds members d.fields) : Described ds d.name members

/-- Members that are declared one by one, in their order: nulls as optional fields, all other values
as required ones of a type that they have. -/
inductive MembersConform (ds : List Declaration) : Members → List Field → Prop where
  | nil : MembersConform ds [] []
  | optional {key : Text} {rest : Members} {fields : List Field} (h : MembersConform ds rest fields) :
      MembersConform ds ((key, .null) :: rest) (.optional (Naming.camel key) :: fields)
  | required {key : Text} {v : Value} {type : FieldType} {rest : Members} {fields : List Field}
      (hv : v ≠ .null) (htype : Conforms ds v type.render) (h : MembersConform ds rest fields) :
      MembersConform ds ((key, v) :: rest) (.required (Naming.camel key) type :: fields)

end

theorem conforms_of_kind {ds : List Declaration} {v : Value} {kind : Kind} (hkind : v.kind = kind)
    (h : kind.name ∈ builtins) : Conforms ds v kind.name := by
  subst hkind
  exact .builtin h

theorem Field.ofMember_of_ne_null {key : Text} {v : Value} (h : v ≠ .null) :
    Field.ofMember key v = .required (Naming.camel key) (.ofValue key v) := by
  cases v with
  | null => exact absurd rfl h
  | _ => rfl

/-- Wherever a name is declared, the text is the same. -/
def Unambiguous (ds : List Declaration) : Prop :=
  ∀ d ∈ ds, ∀ e ∈ ds, d.name = e.name → d.render = e.render

namespace Value

/-- All items of an array, anywhere in a value, have one skeleton. -/
def Uniform (v : Value) : Prop := ∀ w ∈ v.parts, ∀ a ∈ w.items, ∀ b ∈ w.items, a.skeleton = b.skeleton

def BracketFree (key : Text) : Prop := CodePoint.ofChar '[' ∉ key ∧ CodePoint.ofChar ']' ∉ key

instance (key : Text) : Decidable (BracketFree key) := inferInstanceAs (Decidable (_ ∧ _))

/-- No key, anywhere in a value, has brackets. -/
def KeysBracketFree (v : Value) : Prop := ∀ w ∈ v.parts, ∀ key ∈ w.members.keys, BracketFree key

instance (v : Value) : Decidable v.KeysBracketFree := inferInstanceAs (Decidable (∀ w ∈ v.parts, _))

theorem uniform_array {items : List Value} : (array items).Uniform ↔
    (∀ a ∈ items, ∀ b ∈ items, a.skeleton = b.skeleton) ∧ ∀ v ∈ items, v.Uniform := by
  simp only [Uniform, parts_array, List.forall_mem_cons, items_array, List.forall_mem_flatMap]

theorem uniform_object {members : Members} :
    (object members).Uniform ↔ ∀ m ∈ members, m.2.Uniform := by
  have hitems : (object members).items = [] := rfl
  simp only [Uniform, parts_object, List.forall_mem_cons, hitems, List.not_mem_nil, false_implies,
    implies_true, true_and, List.forall_mem_flatMap]

/-- All items of a uniform array have the skeleton that its own skeleton shows. -/
theorem Uniform.skeleton_item {items : List Value} {first : Skeleton} (h : (array items).Uniform)
    (hfirst : ∀ a ∈ items.head?, a.skeleton = first) {v : Value} (hv : v ∈ items) : v.skeleton = first := by
  cases items with
  | nil => cases hv
  | cons a rest =>
    have ha : a.skeleton = first := hfirst a rfl
    rw [← ha]
    exact (uniform_array.mp h).1 v hv a List.mem_cons_self

theorem KeysBracketFree.item {items : List Value} (h : (array items).KeysBracketFree) {v : Value}
    (hv : v ∈ items) : v.KeysBracketFree := fun inner hinner => h inner (mem_parts_of_mem_items hv hinner)

theorem KeysBracketFree.member {members : Members} (h : (object members).KeysBracketFree)
    {m : Text × Value} (hm : m ∈ members) : BracketFree m.1 ∧ m.2.KeysBracketFree :=
  ⟨h (object members) (by simp) m.1 (List.mem_map_of_mem hm),
    fun inner hinner => h inner (mem_parts_of_mem_members hm hinner)⟩

end Value

open Value

theorem isName_pascal {key : Text} (h : BracketFree key) : IsName (Naming.pascal key) := by
  refine ⟨pascal_not_mem_builtins key, ?_⟩
  intro hsuffix
  have hmem : CodePoint.ofChar ']' ∈ Naming.pascal key := hsuffix.subset (by decide)
  exact h.2 (Naming.mem_of_mem_pascal (by decide) hmem)

section

variable {ds : List Declaration}

/-- Members of equal skeletons are declared alike, if their values have the types declared. -/
theorem membersConform_of_skeletons {members others : Members}
    (hskeletons : others.map (fun m => (m.1, m.2.skeleton)) = members.map fun m => (m.1, m.2.skeleton))
    (h : ∀ m ∈ members, ∀ o ∈ others, o.2.skeleton = m.2.skeleton → Conforms ds o.2 (token m.1 m.2)) :
    MembersConform ds others (members.map fun m => .ofMember m.1 m.2) := by
  induction members generalizing others with
  | nil =>
    obtain rfl : others = [] := by simpa using hskeletons
    exact .nil
  | cons m rest ih =>
    cases others with
    | nil => simp at hskeletons
    | cons o more =>
      simp only [List.map_cons, List.cons.injEq, Prod.mk.injEq] at hskeletons
      obtain ⟨⟨hkey, hvalue⟩, htail⟩ := hskeletons
      have hrest := ih htail fun m hm o ho =>
        h m (List.mem_cons_of_mem _ hm) o (List.mem_cons_of_mem _ ho)
      have hconforms := h m List.mem_cons_self o List.mem_cons_self hvalue
      obtain ⟨key, v⟩ := m
      obtain ⟨_, w⟩ := o
      subst hkey
      by_cases hnull : v = .null
      · subst hnull
        obtain rfl := skeleton_eq_null.mp hvalue
        exact .optional hrest
      · have hw : w ≠ .null := fun hw => hnull (skeleton_eq_null.mp (hvalue ▸ skeleton_eq_null.mpr hw))
        rw [List.map_cons, Field.ofMember_of_ne_null hnull]
        exact .required hw hconforms hrest

/-- An object is what its own declaration says, and so is any other that is declared alike. -/
theorem described_of_declared {name : Text} {members others : Members} (hds : Unambiguous ds)
    (hdeclared : Declaration.ofMembers name members ∈ ds)
    (h : MembersConform ds others (members.map fun m => .ofMember m.1 m.2)) : Described ds name others :=
  .declared hdeclared (fun e he hname => hds e he _ hdeclared hname) h

/-- A uniform value has the type inferred from any value of its skeleton, if all that is found in
that value is declared. -/
theorem conforms_token {key : Text} {v w : Value} (hds : Unambiguous ds)
    (hbelow : ∀ s ∈ Shape.below (Naming.pascal key) v, Declaration.ofShape s ∈ ds)
    (hkey : BracketFree key) (hkeys : v.KeysBracketFree) (hw : w.Uniform) (h : w.skeleton = v.skeleton) :
    Conforms ds w (token key v) := by
  induction v using Value.induction generalizing key w with
  | null => exact .any w
  | bool b =>
    have hkind : w.kind = .boolean := kind_eq_of_skeleton_eq h
    exact conforms_of_kind hkind (by decide)
  | int n =>
    have hkind : w.kind = .number := kind_eq_of_skeleton_eq h
    exact conforms_of_kind hkind (by decide)
  | float x =>
    have hkind : w.kind = .number := kind_eq_of_skeleton_eq h
    exact conforms_of_kind hkind (by decide)
  | string s =>
    have hkind : w.kind = .string := kind_eq_of_skeleton_eq h
    exact conforms_of_kind hkind (by decide)
  | array items ih =>
    cases items with
    | nil =>
      obtain ⟨others, rfl, -⟩ := skeleton_eq_array h
      exact .array fun o _ => .any o
    | cons v rest =>
      obtain ⟨others, rfl, hfirst⟩ := skeleton_eq_array (h.trans (skeleton_array_cons v rest))
      refine .array fun o ho => ih v List.mem_cons_self ?_ hkey ?_ ((uniform_array.mp hw).2 o ho) ?_
      · simpa using hbelow
      · exact hkeys.item List.mem_cons_self
      · exact hw.skeleton_item hfirst ho
  | object members ih =>
    obtain ⟨others, rfl, hskeletons⟩ := skeleton_eq_object (h.trans (skeleton_object members))
    rw [Shape.below_object] at hbelow
    refine .record (isName_pascal hkey) (described_of_declared hds (hbelow _ List.mem_cons_self) ?_)
    refine membersConform_of_skeletons hskeletons fun m hm o ho hvalue => ?_
    obtain ⟨hkey, hkeys⟩ := hkeys.member hm
    refine ih m hm ?_ hkey hkeys (uniform_object.mp hw o ho) hvalue
    intro s hs
    exact hbelow s (List.mem_cons_of_mem _ (List.mem_flatMap.mpr ⟨m, hm, hs⟩))

end

/-- The inferred types are sound. An object whose arrays are uniform is what the interface of the
document is declared to be, if keys have no brackets and no two shapes of one name are declared in
different words. The skeletons of an empty array and of one of nulls count as equal here, so that
arrays of the same kinds, keys and emptiness are always uniform. -/
theorem document_described (root : Text) (members : Members)
    (hkeys : (object members).KeysBracketFree) (huniform : (object members).Uniform) :
    ∃ found : Array Shape, Shape.all root (.object members) = .ok found ∧
      ((∀ s ∈ found, ∀ t ∈ found, s.name = t.name →
          (Declaration.ofShape s).render = (Declaration.ofShape t).render) →
        Described (declarations root (.object members)) root members) := by
  obtain ⟨found, hall, hfound⟩ := Shape.all_object root members
  refine ⟨found, hall, ?_⟩
  intro hnames
  have hdeclared (s : Shape) (hs : s ∈ Shape.below root (.object members)) :
      Declaration.ofShape s ∈ declarations root (.object members) := ofShape_mem_declarations hs
  have hds : Unambiguous (declarations root (.object members)) := by
    rw [declarations_eq]
    intro d hd e he hname
    obtain ⟨s, hs, rfl⟩ := List.mem_map.mp hd
    obtain ⟨t, ht, rfl⟩ := List.mem_map.mp he
    exact hnames s (Array.mem_toList_iff.mp (hfound ▸ hs)) t (Array.mem_toList_iff.mp (hfound ▸ ht)) hname
  rw [Shape.below_object] at hdeclared
  refine described_of_declared hds (hdeclared _ List.mem_cons_self) ?_
  refine membersConform_of_skeletons rfl fun m hm o ho hvalue => ?_
  obtain ⟨hkey, hkeys⟩ := hkeys.member hm
  refine conforms_token hds ?_ hkey hkeys (uniform_object.mp huniform o ho) hvalue
  intro s hs
  exact hdeclared s (List.mem_cons_of_mem _ (List.mem_flatMap.mpr ⟨m, hm, hs⟩))

/-- One name for two keys, with nulls, nested arrays and an empty array. -/
def sharedName : Members :=
  let entry (n : Int) : Value := .object [(Text.ofString "id", .int n), (Text.ofString "note", .null)]
  [(Text.ofString "items", .array [entry 1, entry 2]), (Text.ofString "Items", entry 3),
    (Text.ofString "grid", .array [.array [.int 1], .array [.int 2, .int 3]]),
    (Text.ofString "none", .array [])]

theorem document_described_sharedName :
    ∃ found : Array Shape, Shape.all defaultRootName (.object sharedName) = .ok found ∧
      (found.toList.map Shape.name = [defaultRootName, Text.ofString "Items", Text.ofString "Items"]) ∧
      Described (declarations defaultRootName (.object sharedName)) defaultRootName sharedName := by
  have hint (n : Int) : (int n).Uniform := by simp [Uniform, parts, items]
  have hnull : null.Uniform := by simp [Uniform, parts, items]
  have huniform : (object sharedName).Uniform := by
    simp [sharedName, uniform_object, uniform_array, hint, hnull, skeleton, skeletonOfMembers]
  obtain ⟨found, hall, hdescribed⟩ := document_described defaultRootName sharedName (by decide) huniform
  refine ⟨found, hall, ?_, hdescribed ?_⟩
  · obtain rfl := Except.ok.inj hall
    decide
  · obtain rfl := Except.ok.inj hall
    decide

end JsonTypings
