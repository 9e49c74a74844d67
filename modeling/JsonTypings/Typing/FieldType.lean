import JsonTypings.Naming
import JsonTypings.Value

/-! The types of fields, read off sample values. -/
namespace JsonTypings

/-- The type of a field: a primitive, a declared interface, or an array of some type. -/
inductive FieldType where
  | any
  | boolean
  | number
  | string
  | record (name : Text)
  | array (element : FieldType)
  deriving DecidableEq

namespace FieldType

/-- The type of the value of a key. An array has the type of its first element; an object has an
interface named after the key. -/
def ofValue (key : Text) : Value → FieldType
  | .null => .any
  | .bool _ => .boolean
  | .int _ | .float _ => .number
  | .string _ => .string
  | .array [] => .array .any
  | .array (v :: _) => .array (ofValue key v)
  | .object _ => .record (Naming.pascal key)

def render : FieldType → Text
  | any => Text.ofString "any"
  | boolean => Kind.boolean.name
  | number => Kind.number.name
  | string => Kind.string.name
  | record name => name
  | array element => element.render ++ Text.ofString "[]"

end FieldType

end JsonTypings
