import JsonTypings.Sample.Key
import JsonTypings.Sample.Primitive

/-! Sample documents: objects whose fields hold primitives, nulls, arrays, and, while depth is left,
objects that are one field narrower. -/
namespace JsonTypings.Sample

/-- An object of `n` more fields. The key of each is drawn before its value. -/
def fields (value : Draw Value) (members : Members) : (n : Nat) → Draw Members
  | 0 => pure members
  | n + 1 => do
    let key ← newKey members.keys
    let v ← value
    fields value (members.insert key v) n

/-- The width of an object inside an object of the given width. -/
def childWidth (width : Int) : Nat := (max 1 (width - 1)).toNat

/-- The value of a field that holds no object, by the number of its kind. -/
def flatValue (kind : Nat) : Draw Value :=
  match kind with
  | 0 | 1 => primitive
  | 2 => return .null
  | 3 => return .array (← primitives)
  | _ => return .array []

/-- The value of a field of an object of some width, below which `depth` levels of objects fit. -/
def fieldValue : (depth : Nat) → (width : Int) → Draw Value
  | 0, _ => Draw.below 5 >>= flatValue
  | depth + 1, width => do
    match ← Draw.below 7 with
    | 5 => .object <$> fields (fieldValue depth (childWidth width)) [] (childWidth width)
    | 6 => do
      let count ← Draw.between 1 3
      .array <$> Draw.times count.toNat
        (.object <$> fields (fieldValue depth (childWidth width)) [] (childWidth width))
    | kind => flatValue kind

/-- A document of `width` fields with `depth` levels of objects, of which the document is one. -/
def document (depth width : Int) : Draw Members :=
  fields (fieldValue (depth - 1).toNat width) [] width.toNat

/-- An object of `n` more fields that hold primitives. The value of each is drawn before its key. -/
def primitiveFields (members : Members) : (n : Nat) → Draw Members
  | 0 => pure members
  | n + 1 => do
    let v ← primitive
    let key ← newKey members.keys
    primitiveFields (members.insert key v) n

/-- A document whose fields hold primitives. -/
def primitiveDocument (width : Int) : Draw Members := primitiveFields [] width.toNat

end JsonTypings.Sample
