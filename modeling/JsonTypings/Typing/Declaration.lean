import JsonTypings.Typing.FieldType
import JsonTypings.Typing.Shape

/-! Interface declarations and their text. -/
namespace JsonTypings

/-- A declared field. One whose sample is null may be left out and has any type. -/
inductive Field where
  | optional (name : Text)
  | required (name : Text) (type : FieldType)
  deriving DecidableEq

namespace Field

def ofMember (key : Text) : Value → Field
  | .null => .optional (Naming.camel key)
  | v => .required (Naming.camel key) (.ofValue key v)

def name : Field → Text
  | optional n => n
  | required n _ => n

/-- The line of a field. -/
def render : Field → Text
  | optional name => Text.ofString "  " ++ name ++ Text.ofString "?: any\n"
  | required name type =>
    Text.ofString "  " ++ name ++ Text.ofString ": " ++ type.render ++ Text.ofString ";\n"

end Field

/-- An interface with its fields in the order of the keys. -/
structure Declaration where
  name : Text
  fields : List Field
  deriving DecidableEq

namespace Declaration

/-- The declaration of an object of the given members. -/
def ofMembers (name : Text) (members : Members) : Declaration :=
  ⟨name, members.map fun m => .ofMember m.1 m.2⟩

/-- The declaration of a node, which must be an object. -/
def ofNode (name : Text) (node : Value) : Except NotAnObject Declaration :=
  match node with
  | .object members => .ok (ofMembers name members)
  | _ => .error ⟨node.typeName⟩

def ofShape (s : Shape) : Declaration := ofMembers s.name s.node.members

/-- A header, a line for each field, and a closing brace. -/
def render (d : Declaration) : Text :=
  Text.ofString "export interface " ++ d.name ++ Text.ofString " \x7b\n" ++
    d.fields.flatMap Field.render ++ Text.ofString "\x7d"

/-- Declarations with a blank line between them. -/
def renderAll (ds : List Declaration) : Text :=
  List.intercalate (Text.ofString "\n\n") (ds.map render)

end Declaration

end JsonTypings
