import JsonTypings.Encoding.Utf8
import JsonTypings.Encoding.Wide

/-! The encoding of a JSON document is told by its byte order mark, else by where the zero bytes are
among its first characters, which are ASCII. -/
namespace JsonTypings.Encoding

/-- An encoding of documents. -/
inductive Scheme where
  | utf8
  | utf16 (order : ByteOrder)
  | utf32 (order : ByteOrder)
  deriving DecidableEq

/-- The encoding that a byte order mark tells, and the length of the mark. -/
def ofMark? (bytes : Bytes) : Option (Scheme × Nat) :=
  if [0x00, 0x00, 0xFE, 0xFF].isPrefixOf bytes then some (.utf32 .big, 4)
  else if [0xFF, 0xFE, 0x00, 0x00].isPrefixOf bytes then some (.utf32 .little, 4)
  else if [0xFE, 0xFF].isPrefixOf bytes then some (.utf16 .big, 2)
  else if [0xFF, 0xFE].isPrefixOf bytes then some (.utf16 .little, 2)
  else if [0xEF, 0xBB, 0xBF].isPrefixOf bytes then some (.utf8, 3)
  else none

/-- The encoding that the zeros among the first four bytes tell, or those of two bytes that are
all. -/
def ofZeros : Bytes → Scheme
  | a :: b :: c :: d :: _ =>
    if a = 0 then (if b = 0 then .utf32 .big else .utf16 .big)
    else if b = 0 then (if c = 0 ∧ d = 0 then .utf32 .little else .utf16 .little)
    else .utf8
  | [a, b] => if a = 0 then .utf16 .big else if b = 0 then .utf16 .little else .utf8
  | _ => .utf8

/-- The encoding of a document and the length of its byte order mark. -/
def detect (bytes : Bytes) : Scheme × Nat := (ofMark? bytes).getD (ofZeros bytes, 0)

/-- The text of a document without its byte order mark. Positions of defects count the mark, but
in UTF-8 they do not. -/
def decodeDetected (bytes : Bytes) : Except DecodeError Text :=
  let (scheme, mark) := detect bytes
  let body := bytes.drop mark
  match scheme with
  | .utf8 => Utf8.decodePassing body
  | .utf16 o => (Utf16.decode o body).mapError fun d => d.within (Utf16.name o) body mark
  | .utf32 o => (Utf32.decode o body).mapError fun d => d.within (Utf32.name o) body mark

end JsonTypings.Encoding
