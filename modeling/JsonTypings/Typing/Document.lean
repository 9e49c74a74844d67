import JsonTypings.Encoding.Detection
import JsonTypings.Json.Reader
import JsonTypings.Typing.Declaration

/-! From a JSON document to the interfaces that describe it. -/
namespace JsonTypings

namespace Value

/-- One step into a top level array: its first element, if there is one. -/
def firstElement : Value → Value
  | .array (v :: _) => v
  | v => v

/-- The object that describes a document: arrays stand for their first element, and what is no
object in the end has no members. -/
def rootMembers : Value → Members
  | .array (v :: _) => v.rootMembers
  | .object members => members
  | _ => []

end Value

/-- The name of the interface of the document itself, unless another is given. -/
def defaultRootName : Text := Text.ofString "RootObject"

/-- The interfaces of a document, the one of the document itself first. -/
def declarations (root : Text) (document : Value) : List Declaration :=
  let found := (Shape.discover #[] root (.object document.rootMembers)).1
  found.toList.map Declaration.ofShape

/-- The text of all interfaces of a document. -/
def describe (root : Text) (document : Value) : Text :=
  Declaration.renderAll (declarations root document)

/-- What a document may be handed in as. -/
inductive Source where
  | text (t : Text)
  | bytes (b : Encoding.Bytes)
  /-- A thing that is neither text nor bytes. -/
  | other (typeName : Text)

/-- Why a source has no interfaces. -/
inductive SourceError where
  | undecodable (e : Encoding.DecodeError)
  | unreadable (e : Json.ReadError)
  | notText (typeName : Text)

def SourceError.message : SourceError → Text
  | .undecodable e => e.message
  | .unreadable e => e.message
  | .notText typeName =>
    Text.ofString "the JSON object must be str, bytes or bytearray, not " ++ typeName

/-- The document in a source. A byte order mark is dropped from bytes and refused in a text. -/
def Source.read : Source → Except SourceError Value
  | .text t => (Json.read t).mapError .unreadable
  | .bytes b =>
    match Encoding.decodeDetected b with
    | .error e => .error (.undecodable e)
    | .ok t => (Json.readDecoded t).mapError .unreadable
  | .other typeName => .error (.notText typeName)

/-- The text of the interfaces of the document in a source. -/
def generate (source : Source) (root : Text) : Except SourceError Text :=
  source.read.map (describe root)

end JsonTypings
