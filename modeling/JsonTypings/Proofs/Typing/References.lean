import JsonTypings.Proofs.Typing.Discovery
import Mathlib.Data.List.Perm.Basic
import Mathlib.Logic.Equiv.Fin.Basic

/-! Declarations and the fields that refer to them. The shapes of an object are its own and one for
each field, of any of them, whose type names an interface. -/
namespace JsonTypings

namespace Shape

open FieldType

/-- The fields of some shapes whose types name interfaces. -/
def recordFields (found : List Shape) : Members :=
  (found.flatMap fun s => s.node.members).filter fun m => (recordName? m.1 m.2).isSome

/-- The shape that a field refers to. -/
def ofField (m : Text × Value) : Shape := ⟨Naming.pascal m.1, m.2.sample⟩

@[simp] theorem recordFields_nil : recordFields [] = [] := rfl

theorem recordFields_append (found more : List Shape) :
    recordFields (found ++ more) = recordFields found ++ recordFields more := by
  simp [recordFields]

theorem recordFields_flatMap (members : Members) (f : Text × Value → List Shape) :
    recordFields (members.flatMap f) = members.flatMap fun m => recordFields (f m) := by
  induction members with
  | nil => rfl
  | cons m rest ih => simp only [List.flatMap_cons, recordFields_append, ih]

/-- The shape of a value, if its sample is an object. -/
def own (name : Text) (v : Value) : List Shape :=
  if v.sample.kind = .object then [⟨name, v.sample⟩] else []

@[simp] theorem own_array_cons (name : Text) (v : Value) (rest : List Value) :
    own name (.array (v :: rest)) = own name v := rfl

/-- Among the members of one object the types tell which samples are objects. -/
theorem map_ofField_members (members : Members) :
    (members.filter fun m => (recordName? m.1 m.2).isSome).map ofField =
      members.flatMap fun m => own (Naming.pascal m.1) m.2 := by
  induction members with
  | nil => rfl
  | cons m rest ih =>
    rw [List.flatMap_cons, ← ih, List.filter_cons, recordName?_eq, own]
    by_cases h : m.2.sample.kind = .object
    · simp [h, ofField]
    · simp [h]

/-- What a walk adds is the shape of the value itself and what the added fields refer to. -/
theorem below_perm (name : Text) (v : Value) :
    (below name v).Perm (own name v ++ (recordFields (below name v)).map ofField) := by
  induction v using Value.induction generalizing name with
  | array items ih =>
    cases items with
    | nil => rw [below_eq_nil (by simp [Value.sample, Value.kind])]; simp [own, Value.sample, Value.kind]
    | cons v rest =>
      rw [below_array_cons, own_array_cons]
      exact ih v List.mem_cons_self name
  | object members ih =>
    let added (m : Text × Value) : List Shape := below (Naming.pascal m.1) m.2
    have hadded : (members.flatMap added).Perm (members.flatMap fun m =>
        own (Naming.pascal m.1) m.2 ++ (recordFields (added m)).map ofField) :=
      List.Perm.flatMap_left members fun m hm => ih m hm (Naming.pascal m.1)
    have hparted := hadded.trans (List.flatMap_append_perm members
      (fun m => own (Naming.pascal m.1) m.2) (fun m => (recordFields (added m)).map ofField)).symm
    have hown : own name (.object members) = [⟨name, .object members⟩] := rfl
    have hfields : (recordFields (below name (.object members))).map ofField =
        (members.flatMap fun m => own (Naming.pascal m.1) m.2) ++
          members.flatMap fun m => (recordFields (added m)).map ofField := by
      rw [below_object, ← map_ofField_members, ← List.map_flatMap, ← recordFields_flatMap,
        ← List.map_append]
      simp [recordFields, added]
    rw [hown, hfields, below_object]
    exact hparted.cons _
  | _ => rw [below_eq_nil (by simp [Value.sample, Value.kind])]; simp [own, Value.sample, Value.kind]

theorem below_object_perm (name : Text) (members : Members) :
    (below name (.object members)).Perm
      (⟨name, .object members⟩ :: (recordFields (below name (.object members))).map ofField) :=
  below_perm name (.object members)

/-- The name of a shape is that of the root, or comes from a key of another shape. -/
theorem name_of_keys {P : Text → Prop} (hpascal : ∀ key, P key → P (Naming.pascal key)) {root : Text}
    {members : Members} (hroot : P root)
    (hkeys : ∀ s ∈ below root (.object members), ∀ key ∈ s.node.members.keys, P key) {s : Shape}
    (hs : s ∈ below root (.object members)) : P s.name := by
  rcases List.mem_cons.mp ((below_object_perm root members).mem_iff.mp hs) with rfl | hs
  · exact hroot
  · obtain ⟨m, hm, rfl⟩ := List.mem_map.mp hs
    obtain ⟨parent, hparent, hmember⟩ := List.mem_flatMap.mp (List.mem_filter.mp hm).1
    exact hpascal m.1 (hkeys parent hparent m.1 (List.mem_map_of_mem hmember))

end Shape

open Shape FieldType

end JsonTypings
