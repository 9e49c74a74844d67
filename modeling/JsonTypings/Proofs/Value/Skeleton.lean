import JsonTypings.Proofs.Value.Induction

/-! Skeletons: what is left of a value without the contents of its strings, numbers and booleans and
without the items of its arrays behind the first. An empty array looks as if it held a null. -/
namespace JsonTypings

inductive Skeleton where
  | null
  | boolean
  | number
  | string
  | array (first : Skeleton)
  | object (fields : List (Text × Skeleton))

namespace Value

mutual

def skeleton : Value → Skeleton
  | null => .null
  | bool _ => .boolean
  | int _ | float _ => .number
  | string _ => .string
  | array [] => .array .null
  | array (v :: _) => .array v.skeleton
  | object members => .object (skeletonOfMembers members)

def skeletonOfMembers : List (Text × Value) → List (Text × Skeleton)
  | [] => []
  | (key, v) :: rest => (key, v.skeleton) :: skeletonOfMembers rest

end

@[simp] theorem skeleton_array_nil : (array []).skeleton = .array .null := by rw [skeleton]

@[simp] theorem skeleton_array_cons (v : Value) (rest : List Value) :
    (array (v :: rest)).skeleton = .array v.skeleton := by rw [skeleton]

@[simp] theorem skeleton_object (members : Members) :
    (object members).skeleton = .object (members.map fun m => (m.1, m.2.skeleton)) := by
  have h : skeletonOfMembers members = members.map fun m => (m.1, m.2.skeleton) := by
    induction members with
    | nil => rfl
    | cons m rest ih => simp [skeletonOfMembers, ih]
  rw [skeleton, h]

end Value

namespace Skeleton

def kind : Skeleton → Kind
  | null => .null
  | boolean => .boolean
  | number => .number
  | string => .string
  | array _ => .array
  | object _ => .object

@[simp] theorem kind_skeleton (v : Value) : v.skeleton.kind = v.kind := by
  cases v with
  | array items => cases items <;> simp [kind, Value.kind]
  | object members => simp [kind, Value.kind]
  | _ => rfl

mutual

/-- The plainest value of a skeleton: false, zero, the empty string, and one item in each array. -/
def plain : Skeleton → Value
  | null => .null
  | boolean => .bool false
  | number => .int 0
  | string => .string []
  | array first => .array [first.plain]
  | object fields => .object (plainFields fields)

def plainFields : List (Text × Skeleton) → Members
  | [] => []
  | (key, s) :: rest => (key, s.plain) :: plainFields rest

end

@[simp] theorem plain_array (first : Skeleton) : (array first).plain = .array [first.plain] := by rw [plain]

@[simp] theorem plain_object (fields : List (Text × Skeleton)) :
    (object fields).plain = .object (fields.map fun f => (f.1, f.2.plain)) := by
  have h : plainFields fields = fields.map fun f => (f.1, f.2.plain) := by
    induction fields with
    | nil => rfl
    | cons f rest ih => simp [plainFields, ih]
  rw [plain, h]

end Skeleton

namespace Value

theorem kind_eq_of_skeleton_eq {v w : Value} (h : v.skeleton = w.skeleton) : v.kind = w.kind := by
  rw [← Skeleton.kind_skeleton, ← Skeleton.kind_skeleton, h]

theorem skeleton_eq_null {v : Value} : v.skeleton = .null ↔ v = null := by
  constructor
  · intro h
    have hkind : v.kind = .null := by rw [← Skeleton.kind_skeleton, h]; rfl
    cases v with
    | null => rfl
    | _ => simp [kind] at hkind
  · rintro rfl
    rfl

theorem skeleton_eq_array {v : Value} {first : Skeleton} (h : v.skeleton = .array first) :
    ∃ items, v = .array items ∧ ∀ a ∈ items.head?, a.skeleton = first := by
  have hkind : v.kind = .array := by rw [← Skeleton.kind_skeleton, h]; rfl
  cases v with
  | array items =>
    refine ⟨items, rfl, ?_⟩
    cases items with
    | nil => simp
    | cons a rest => simpa using h
  | _ => simp [kind] at hkind

theorem skeleton_eq_object {v : Value} {fields : List (Text × Skeleton)} (h : v.skeleton = .object fields) :
    ∃ members, v = .object members ∧ members.map (fun m => (m.1, m.2.skeleton)) = fields := by
  have hkind : v.kind = .object := by rw [← Skeleton.kind_skeleton, h]; rfl
  cases v with
  | object members => exact ⟨members, rfl, by simpa using h⟩
  | _ => simp [kind] at hkind

/-- A value with all contents blanked out that its skeleton does not keep. -/
def blank (v : Value) : Value := v.skeleton.plain

@[simp] theorem blank_array_nil : (array []).blank = array [null] := by
  simp [blank, Skeleton.plain]

@[simp] theorem blank_array_cons (v : Value) (rest : List Value) :
    (array (v :: rest)).blank = array [v.blank] := by
  simp [blank]

@[simp] theorem blank_object (members : Members) :
    (object members).blank = object (members.map fun m => (m.1, m.2.blank)) := by
  simp [blank, List.map_map, Function.comp_def]

end Value

end JsonTypings
