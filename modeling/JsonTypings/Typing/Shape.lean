import JsonTypings.Naming
import JsonTypings.Value

/-! The objects of a document that need an interface each, parents before children. -/
namespace JsonTypings

/-- A value and the name of the interface that describes it. -/
structure Shape where
  name : Text
  node : Value

/-- What an array is judged by: its first element, through all layers of arrays. An empty array
gives a null. -/
def Value.sample : Value → Value
  | .array [] => .null
  | .array (v :: _) => v.sample
  | v => v

/-- The refusal of a node that has no members. -/
structure NotAnObject where
  typeName : Text

def NotAnObject.message (e : NotAnObject) : Text :=
  Text.ofString "'" ++ e.typeName ++ Text.ofString "' object has no attribute 'items'"

namespace Shape

mutual

/-- Adds the shapes of the object that an element of type `name` is judged by, if it is one. -/
def walk (found : Array Shape) (name : Text) : Value → Array Shape
  | .object members => walkMembers (found.push ⟨name, .object members⟩) members
  | .array (v :: _) => walk found name v
  | _ => found

/-- Adds the shapes of the members of an object, each named after its key. -/
def walkMembers (found : Array Shape) : List (Text × Value) → Array Shape
  | [] => found
  | (key, v) :: rest => walkMembers (walk found (Naming.pascal key) v) rest

end

/-- An array is walked like its sample. -/
theorem walk_sample (found : Array Shape) (name : Text) (v : Value) :
    walk found name v.sample = walk found name v := by
  fun_induction Value.sample v with
  | case1 => simp [walk]
  | case2 _ _ ih => simp [walk, ih]
  | case3 => rfl

/-- Adds a node and the shapes of its members to those found before. A node that is no object is
added all the same, and then refused. -/
def discover (found : Array Shape) (name : Text) (node : Value) :
    Array Shape × Option NotAnObject :=
  match node with
  | .object members => (walkMembers (found.push ⟨name, node⟩) members, none)
  | _ => (found.push ⟨name, node⟩, some ⟨node.typeName⟩)

/-- The shapes of a node, starting from none. -/
def all (name : Text) (node : Value) : Except NotAnObject (Array Shape) :=
  match discover #[] name node with
  | (found, none) => .ok found
  | (_, some e) => .error e

end Shape

end JsonTypings
