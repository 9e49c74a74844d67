import JsonTypings.CodePoint

/-! Why bytes are no text, and why a text has no bytes. -/
namespace JsonTypings.Encoding

abbrev Bytes := List UInt8

/-- What is wrong with a stretch of bytes. -/
inductive Reason where
  | invalidStart
  | invalidContinuation
  | unexpectedEnd
  | truncated
  | outOfRange
  deriving DecidableEq

def Reason.wording : Reason → Text
  | .invalidStart => Text.ofString "invalid start byte"
  | .invalidContinuation => Text.ofString "invalid continuation byte"
  | .unexpectedEnd => Text.ofString "unexpected end of data"
  | .truncated => Text.ofString "truncated data"
  | .outOfRange => Text.ofString "code point not in range(0x110000)"

/-- The bytes from `start` up to `stop` that have no meaning. -/
structure Defect where
  start : Nat
  stop : Nat
  reason : Reason
  deriving DecidableEq

/-- A defect, told with the encoding and the first of the bytes. -/
structure DecodeError where
  encoding : Text
  first : UInt8
  defect : Defect
  deriving DecidableEq

/-- The defect of `bytes`, at positions counted from `origin`. -/
def Defect.within (d : Defect) (encoding : Text) (bytes : Bytes) (origin : Nat) : DecodeError :=
  ⟨encoding, bytes.getD d.start 0, { d with start := origin + d.start, stop := origin + d.stop }⟩

/-- A single byte is shown; of several only the positions are told. -/
def DecodeError.message (e : DecodeError) : Text :=
  let d := e.defect
  let place :=
    if d.stop = d.start + 1 then
      Text.ofString "byte 0x" ++ Text.hex 2 e.first.toNat ++ Text.ofString " in position " ++
        Text.ofNat d.start
    else
      Text.ofString "bytes in position " ++ Text.ofNat d.start ++ Text.ofString "-" ++
        Text.ofNat (d.stop - 1)
  Text.ofString "'" ++ e.encoding ++ Text.ofString "' codec can't decode " ++ place ++
    Text.ofString ": " ++ d.reason.wording

/-- The first surrogate of a text that holds some, and how many stand there in a row. -/
structure EncodeError where
  position : Nat
  first : CodePoint
  count : Nat
  deriving DecidableEq

def EncodeError.message (e : EncodeError) : Text :=
  let place :=
    if e.count = 1 then
      Text.ofString "character '\\u" ++ Text.hex 4 e.first.val ++ Text.ofString "' in position " ++
        Text.ofNat e.position
    else
      Text.ofString "characters in position " ++ Text.ofNat e.position ++ Text.ofString "-" ++
        Text.ofNat (e.position + e.count - 1)
  Text.ofString "'utf-8' codec can't encode " ++ place ++ Text.ofString ": surrogates not allowed"

end JsonTypings.Encoding
