import JsonTypings.Value

/-! Induction over values, with a hypothesis for each item and each member, and the list of all
values inside a value. -/
namespace JsonTypings.Value

/-- A property of all values, if containers have it whenever what they hold has it. -/
@[elab_as_elim] theorem induction {motive : Value → Prop} (null : motive .null)
    (bool : ∀ b, motive (.bool b)) (int : ∀ n, motive (.int n)) (float : ∀ x, motive (.float x))
    (string : ∀ s, motive (.string s))
    (array : ∀ items : List Value, (∀ v ∈ items, motive v) → motive (.array items))
    (object : ∀ members : Members, (∀ m ∈ members, motive m.2) → motive (.object members)) (v : Value) :
    motive v :=
  @Value.rec motive (fun items => ∀ v ∈ items, motive v) (fun members => ∀ m ∈ members, motive m.2)
    (fun m => motive m.2) null bool int float string array object
    (fun _ h => nomatch h)
    (fun _ _ hv hitems w hw => (List.mem_cons.mp hw).elim (fun h => h ▸ hv) (hitems w))
    (fun _ h => nomatch h)
    (fun _ _ hm hmembers w hw => (List.mem_cons.mp hw).elim (fun h => h ▸ hm) (hmembers w))
    (fun _ _ hv => hv) v

mutual

/-- All values inside a value, itself first. -/
def parts : Value → List Value
  | array items => array items :: partsOfItems items
  | object members => object members :: partsOfMembers members
  | v => [v]

def partsOfItems : List Value → List Value
  | [] => []
  | v :: rest => v.parts ++ partsOfItems rest

def partsOfMembers : List (Text × Value) → List Value
  | [] => []
  | (_, v) :: rest => v.parts ++ partsOfMembers rest

end

theorem partsOfItems_eq (items : List Value) : partsOfItems items = items.flatMap parts := by
  induction items with
  | nil => rfl
  | cons v rest ih => simp [partsOfItems, ih]

theorem partsOfMembers_eq (members : Members) :
    partsOfMembers members = members.flatMap fun m => m.2.parts := by
  induction members with
  | nil => rfl
  | cons m rest ih => simp [partsOfMembers, ih]

@[simp] theorem parts_array (items : List Value) :
    (array items).parts = array items :: items.flatMap parts := by
  rw [parts, partsOfItems_eq]

@[simp] theorem parts_object (members : Members) :
    (object members).parts = object members :: members.flatMap fun m => m.2.parts := by
  rw [parts, partsOfMembers_eq]

/-- The items of an array; other values have none. -/
def items : Value → List Value
  | array vs => vs
  | _ => []

@[simp] theorem items_array (vs : List Value) : (array vs).items = vs := rfl

theorem mem_parts_of_mem_items {items : List Value} {v w : Value} (hv : v ∈ items) (hw : w ∈ v.parts) :
    w ∈ (array items).parts := by
  rw [parts_array]
  exact List.mem_cons_of_mem _ (List.mem_flatMap.mpr ⟨v, hv, hw⟩)

theorem mem_parts_of_mem_members {members : Members} {m : Text × Value} {w : Value} (hm : m ∈ members)
    (hw : w ∈ m.2.parts) : w ∈ (object members).parts := by
  rw [parts_object]
  exact List.mem_cons_of_mem _ (List.mem_flatMap.mpr ⟨m, hm, hw⟩)

end JsonTypings.Value
