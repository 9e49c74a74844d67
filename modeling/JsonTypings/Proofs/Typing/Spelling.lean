import JsonTypings.Proofs.Typing.Token
import JsonTypings.Typing.Declaration

/-! Declarations as they are written: a header, a line for each field and a closing brace, each line
but the last with a line feed. -/
namespace JsonTypings

/-- What the line of a field tells: a name, whether the field may be missing, and a type. -/
structure FieldEntry where
  name : Text
  optional : Bool
  type : Text
  deriving DecidableEq

namespace FieldEntry

def ofMember (m : Text × Value) : FieldEntry := ⟨Naming.camel m.1, m.2.isNull, FieldType.token m.1 m.2⟩

/-- A question mark stands behind the name of an optional field. -/
def label (e : FieldEntry) : Text := e.name ++ if e.optional then Text.ofString "?:" else Text.ofString ":"

/-- A semicolon stands behind the type of any other field. -/
def ending (e : FieldEntry) : Text := if e.optional then e.type else e.type ++ Text.ofString ";"

def line (e : FieldEntry) : Text := Text.ofString "  " ++ e.label ++ Text.ofString " " ++ e.ending

/-- The line of a member is the one that its field is rendered as. -/
theorem render_ofMember (key : Text) (v : Value) :
    (Field.ofMember key v).render = (ofMember (key, v)).line ++ [CodePoint.ofChar '\n'] := by
  have hany : Text.ofString "?: any\n" = Text.ofString "?:" ++
      (Text.ofString " " ++ (Text.ofString "any" ++ [CodePoint.ofChar '\n'])) := by decide
  have hcolon : Text.ofString ": " = Text.ofString ":" ++ Text.ofString " " := by decide
  have hend : Text.ofString ";\n" = Text.ofString ";" ++ [CodePoint.ofChar '\n'] := by decide
  cases v with
  | null => simp [Field.ofMember, Field.render, ofMember, line, label, ending, Value.isNull,
      FieldType.token, FieldType.ofValue, FieldType.render, hany]
  | _ => simp [Field.ofMember, Field.render, ofMember, line, label, ending, Value.isNull,
      FieldType.token, hcolon, hend]

end FieldEntry

namespace Declaration

def header (name : Text) : Text := Text.ofString "export interface " ++ name ++ Text.ofString " \x7b"

def closing : Text := Text.ofString "\x7d"

/-- The lines of a declaration in front of the closing brace. -/
def lines (name : Text) (entries : List FieldEntry) : List Text := header name :: entries.map FieldEntry.line

/-- A declaration as it is written. -/
def spell (name : Text) (entries : List FieldEntry) : Text :=
  ((lines name entries).flatMap fun line => line ++ [CodePoint.ofChar '\n']) ++ closing

theorem render_ofMembers (name : Text) (members : Members) :
    (ofMembers name members).render = spell name (members.map FieldEntry.ofMember) := by
  have hopen : Text.ofString " \x7b\n" = Text.ofString " \x7b" ++ [CodePoint.ofChar '\n'] := by decide
  have hfields : (members.map fun m => Field.ofMember m.1 m.2).flatMap Field.render =
      (members.map fun m => (FieldEntry.ofMember m).line).flatMap fun line => line ++ [CodePoint.ofChar '\n'] := by
    simp only [List.flatMap_map, FieldEntry.render_ofMember]
  simp [ofMembers, render, spell, lines, header, closing, hopen, hfields, Function.comp_def]

theorem render_ofShape (s : Shape) :
    (ofShape s).render = spell s.name (s.node.members.map FieldEntry.ofMember) := render_ofMembers _ _

end Declaration

end JsonTypings
