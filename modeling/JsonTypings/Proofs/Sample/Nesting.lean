import JsonTypings.Proofs.Sample.Document

/-! How sample documents are nested. The level of an object says how many fields it has and whether
its fields can hold objects, and the fields of all objects hold values of the same few forms. -/
namespace JsonTypings

/-- An object is inside a value at some level. What a field of an object holds, also within arrays, is
one level deeper than the object. -/
inductive Value.HasObject : Value → ℕ → Members → Prop
  | self (members : Members) : HasObject (.object members) 0 members
  | item {items : List Value} {v : Value} {level : ℕ} {inner : Members} (hv : v ∈ items)
    (h : HasObject v level inner) : HasObject (.array items) level inner
  | member {members : Members} {m : Text × Value} {level : ℕ} {inner : Members} (hm : m ∈ members)
    (h : HasObject m.2 level inner) : HasObject (.object members) (level + 1) inner

/-- The kinds of values that hold no other values, but for null. -/
def primitiveKinds : List Kind := [.boolean, .number, .string]

/-- Only objects and arrays have objects inside. -/
theorem Value.HasObject.kind_mem {v : Value} {level : ℕ} {inner : Members}
    (h : v.HasObject level inner) : v.kind = .object ∨ v.kind = .array := by
  cases h with
  | self members => exact .inl rfl
  | item hv h => exact .inr rfl
  | member hm h => exact .inl rfl

namespace Sample

open Draw

/-- What a field of a sample document holds. -/
inductive IsFieldValue : Value → Prop
  | null : IsFieldValue .null
  | primitive {v : Value} (hkind : v.kind ∈ primitiveKinds) : IsFieldValue v
  | object (members : Members) : IsFieldValue (.object members)
  | empty : IsFieldValue (.array [])
  | primitives {items : List Value} {kind : Kind} (hkind : kind ∈ primitiveKinds)
    (hitems : ∀ v ∈ items, v.kind = kind) (hlength : 1 ≤ items.length ∧ items.length ≤ 5) :
    IsFieldValue (.array items)
  | objects {items : List Value} (hitems : ∀ v ∈ items, v.kind = .object)
    (hlength : 1 ≤ items.length ∧ items.length ≤ 3) : IsFieldValue (.array items)

/-- An object of a sample document, which has some number of fields. -/
structure IsSampleObject (size : Int) (members : Members) : Prop where
  length : (members.length : Int) = size
  nodup : members.keys.Nodup
  values : ∀ m ∈ members, IsFieldValue m.2

/-- What is promised of the value of a field in an object of some width, below which some levels of
objects fit: each level is narrower by one, but never empty. -/
structure IsNested (depth : ℕ) (width : Int) (v : Value) : Prop where
  form : IsFieldValue v
  inner {level : ℕ} {members : Members} (h : v.HasObject level members) :
    level < depth ∧ IsSampleObject (max 1 (width - (level + 1))) members

/-- A value without objects fits at any depth. -/
theorem isNested_of_kind {v : Value} (hform : IsFieldValue v) (hkind : v.kind ≠ .object ∧ v.kind ≠ .array)
    (depth : ℕ) (width : Int) : IsNested depth width v where
  form := hform
  inner h := by
    rcases h.kind_mem with hobject | harray
    · exact absurd hobject hkind.1
    · exact absurd harray hkind.2

theorem isNested_primitive {v : Value} (hkind : v.kind ∈ primitiveKinds) (depth : ℕ) (width : Int) :
    IsNested depth width v := by
  apply isNested_of_kind (.primitive hkind)
  constructor
  · intro h
    simp [h, primitiveKinds] at hkind
  · intro h
    simp [h, primitiveKinds] at hkind

/-- The items of an array are as deep as the array. -/
theorem isNested_array {items : List Value} (hform : IsFieldValue (.array items)) {depth : ℕ} {width : Int}
    (hitems : ∀ v ∈ items, IsNested depth width v) : IsNested depth width (.array items) where
  form := hform
  inner h := by
    cases h with
    | item hv h => exact (hitems _ hv).inner h

/-- An object takes one level, and its fields have the others. -/
theorem isNested_object {depth : ℕ} {width : Int} {members : Members}
    (h : Filled (IsNested depth (childWidth width)) members) (hlength : members.length = childWidth width) :
    IsNested (depth + 1) width (.object members) where
  form := .object members
  inner hinner := by
    rw [childWidth] at h hlength
    cases hinner with
    | self =>
      refine ⟨Nat.succ_pos depth, ?_, h.nodup, fun m hm => (h.values m hm).form⟩
      omega
    | member hm hinner =>
      obtain ⟨hlevel, hobject⟩ := (h.values _ hm).inner hinner
      refine ⟨by omega, ?_, hobject.nodup, hobject.values⟩
      rw [hobject.length]
      push_cast
      omega

theorem always_kind_primitive : Always (fun v => v.kind ∈ primitiveKinds) primitive := by
  refine (always_true _).bind fun kind _ => ?_
  split <;> exact (always_true _).bind fun a _ => always_pure (by simp [Value.kind, primitiveKinds])

theorem always_form_primitives : Always (fun items => IsFieldValue (.array items) ∧
    ∀ v ∈ items, v.kind ∈ primitiveKinds) primitives := by
  refine Always.bind (P := fun element => ∃ kind ∈ primitiveKinds, Always (fun v => v.kind = kind) element)
    (always_choose ?_) fun element helement => ?_
  · simp only [List.forall_mem_cons, List.not_mem_nil, false_implies, implies_true, and_true]
    refine ⟨⟨.number, by decide, ?_⟩, ⟨.string, by decide, ?_⟩, ⟨.boolean, by decide, ?_⟩⟩
    · exact (always_true _).map fun i _ => rfl
    · exact (always_true _).map fun t _ => rfl
    · exact (always_true _).map fun b _ => rfl
  · obtain ⟨kind, hkind, helement⟩ := helement
    refine (always_between 1 5).bind fun count hcount => ?_
    refine ((always_times helement _).and (always_times_length _ _)).mono ?_
    rintro items ⟨hitems, hlength⟩
    constructor
    · exact .primitives hkind hitems (by omega)
    · intro v hv
      exact hitems v hv ▸ hkind

theorem always_nested_flatValue (kind depth : ℕ) (width : Int) :
    Always (IsNested depth width) (flatValue kind) := by
  have hprimitive : Always (IsNested depth width) primitive :=
    always_kind_primitive.mono fun v hv => isNested_primitive hv depth width
  unfold flatValue
  split
  · exact hprimitive
  · exact hprimitive
  · exact always_pure (isNested_of_kind .null (by decide) depth width)
  · refine always_form_primitives.bind fun items hitems => always_pure ?_
    exact isNested_array hitems.1 fun v hv => isNested_primitive (hitems.2 v hv) depth width
  · exact always_pure (isNested_array .empty (by simp))

/-- The depth left and the width go down together, in an object and in an array of objects alike. -/
theorem always_nested_fieldValue (depth : ℕ) (width : Int) :
    Always (IsNested depth width) (fieldValue depth width) := by
  induction depth generalizing width with
  | zero => exact (always_true _).bind fun kind _ => always_nested_flatValue kind 0 width
  | succ depth ih =>
    have hobject : Always (fun v => v.kind = .object ∧ IsNested (depth + 1) width v)
        (.object <$> fields (fieldValue depth (childWidth width)) [] (childWidth width)) := by
      refine (always_fields (ih (childWidth width)) (childWidth width) (filled_nil _)).map ?_
      rintro members ⟨hmembers, hlength⟩
      exact ⟨rfl, isNested_object hmembers (by simpa using hlength)⟩
    refine (always_true _).bind fun kind _ => ?_
    split
    · exact hobject.mono fun v hv => hv.2
    · refine (always_between 1 3).bind fun count hcount => ?_
      refine ((always_times hobject _).and (always_times_length _ _)).map ?_
      rintro items ⟨hitems, hlength⟩
      have hform : IsFieldValue (.array items) := .objects (fun v hv => (hitems v hv).1) (by omega)
      exact isNested_array hform fun v hv => (hitems v hv).2
    · exact always_nested_flatValue _ _ _

/-- The shape of a document. Whatever the random state, each object at some level has as many fields as
the width says, less one for each level above it, but at least one below the document itself; its keys
are different, it is above the depth, and its fields hold values of the given forms only. -/
theorem document_levels {depth width : Int} {attempts : ℕ} {t : Twister} {members : Members}
    (h : (document depth width attempts t).1 = .ok members) {level : ℕ} {inner : Members}
    (hinner : (Value.object members).HasObject level inner) :
    (level : Int) < max 1 depth ∧
      (inner.length : Int) = (if level = 0 then max 0 width else max 1 (width - level)) ∧
      inner.keys.Nodup ∧ ∀ m ∈ inner, IsFieldValue m.2 := by
  have hfields := always_fields (always_nested_fieldValue (depth - 1).toNat width) width.toNat (filled_nil _)
  obtain ⟨hmembers, hlength⟩ := hfields.of_ok h
  rw [List.length_nil] at hlength
  cases hinner with
  | self =>
    refine ⟨by omega, ?_, hmembers.nodup, fun m hm => (hmembers.values m hm).form⟩
    rw [if_pos rfl]
    omega
  | member hm hinner =>
    obtain ⟨hlevel, hobject⟩ := (hmembers.values _ hm).inner hinner
    refine ⟨by omega, ?_, hobject.nodup, hobject.values⟩
    rw [if_neg (Nat.succ_ne_zero _), hobject.length]
    push_cast
    rfl

/-- A block whose first words draw a document with an object in its first field, and with an array of
two objects in its second. -/
def nestingState : Twister :=
  .ofBlock ([0, 0, 0, 0, 65664, 0, 0, 0, 0, 32768, 32768, 2097280, 128, 2195584, 0, 98304, 2129920, 0, 2097152, 0,
    0, 32896, 0, 2097152, 2097152, 0, 128, 0, 0, 65536] ++ List.replicate 594 0 : List UInt32).toArray

theorem document_levels_nested :
    ∃ members, (document 2 2 100 nestingState).1 = .ok members ∧ members.length = 2 ∧
      ∃ inner, (Value.object members).HasObject 1 inner ∧ inner.length = 1 ∧ inner.keys.Nodup := by
  have hdrawn : (document 2 2 100 nestingState).1.toOption.map (fun ms => ms.map fun m => m.2.kind) =
      some [.object, .array] := by decide +kernel
  cases h : (document 2 2 100 nestingState).1 with
  | error e => simp [h, Except.toOption] at hdrawn
  | ok members =>
    have hkinds : members.map (fun m => m.2.kind) = [.object, .array] := by
      simpa [h, Except.toOption] using hdrawn
    obtain ⟨m, hm, hkind⟩ : ∃ m ∈ members, m.2.kind = .object := by
      rw [← List.mem_map (f := fun m : Text × Value => m.2.kind), hkinds]
      exact List.mem_cons_self
    obtain ⟨inner, hvalue⟩ := Value.kind_eq_object_iff.mp hkind
    have hinner : (Value.object members).HasObject 1 inner := .member hm (hvalue ▸ .self inner)
    obtain ⟨-, hlength, hnodup, -⟩ := document_levels h hinner
    obtain ⟨-, hroot, -, -⟩ := document_levels h (.self members)
    rw [if_pos rfl] at hroot
    rw [if_neg (by decide)] at hlength
    exact ⟨members, rfl, by omega, inner, hinner, by omega, hnodup⟩

end Sample

end JsonTypings
