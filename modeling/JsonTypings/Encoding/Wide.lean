import JsonTypings.Encoding.Error

/-! UTF-16 and UTF-32 in both byte orders. Surrogates that form no pair are passed on. -/
namespace JsonTypings.Encoding

inductive ByteOrder where
  | little | big
  deriving DecidableEq

namespace ByteOrder

/-- The number of a group of bytes. -/
def value (o : ByteOrder) (group : Bytes) : Nat :=
  let add (n : Nat) (b : UInt8) : Nat := n * 256 + b.toNat
  match o with
  | little => group.reverse.foldl add 0
  | big => group.foldl add 0

end ByteOrder

namespace Utf16

def name : ByteOrder → Text
  | .little => Text.ofString "utf-16-le"
  | .big => Text.ofString "utf-16-be"

/-- The units of two bytes from `offset` on; a byte that is left over is a defect. -/
def units (o : ByteOrder) (offset : Nat) : Bytes → Except Defect Text
  | [] => .ok []
  | [_] => .error ⟨offset, offset + 1, .truncated⟩
  | a :: b :: rest =>
    match units o (offset + 2) rest with
    | .ok us => .ok (.ofNat (o.value [a, b]) :: us)
    | .error d => .error d

/-- Joins each high surrogate with a low one that follows. -/
def joinPairs : Text → Text
  | [] => []
  | [c] => [c]
  | c :: d :: rest =>
    if c.isHighSurrogate && d.isLowSurrogate then c.joinSurrogates d :: joinPairs rest
    else c :: joinPairs (d :: rest)

def decode (o : ByteOrder) (bytes : Bytes) : Except Defect Text := (units o 0 bytes).map joinPairs

end Utf16

namespace Utf32

def name : ByteOrder → Text
  | .little => Text.ofString "utf-32-le"
  | .big => Text.ofString "utf-32-be"

/-- The code points of four bytes from `offset` on. -/
def decodeFrom (o : ByteOrder) (offset : Nat) : Bytes → Except Defect Text
  | [] => .ok []
  | a :: b :: c :: d :: rest =>
    let n := o.value [a, b, c, d]
    if n < 0x110000 then
      match decodeFrom o (offset + 4) rest with
      | .ok t => .ok (.ofNat n :: t)
      | .error d => .error d
    else .error ⟨offset, offset + 4, .outOfRange⟩
  | group => .error ⟨offset, offset + group.length, .truncated⟩

def decode (o : ByteOrder) (bytes : Bytes) : Except Defect Text := decodeFrom o 0 bytes

end Utf32

end JsonTypings.Encoding
