import JsonTypings.Encoding.Error

/-! UTF-8. Bytes are read by a machine that knows which byte may come next; it refuses at the first
byte that no sequence continues with. Surrogates are refused, or passed where a reader asks so. -/
namespace JsonTypings.Encoding.Utf8

/-- Where the machine stands between two bytes. -/
inductive State where
  | start
  /-- Since offset `opened`: `owed` bytes are to come, the next one between `low` and `high`. -/
  | tail (opened owed low high value : Nat)
  /-- Since offset `opened`: two bytes of a surrogate. -/
  | surrogate (opened value : Nat)
  deriving DecidableEq

/-- The state after the first byte of a sequence. -/
def lead? (opened b : Nat) : Option State :=
  if 0xC2 ≤ b && b ≤ 0xDF then some (.tail opened 1 0x80 0xBF (b - 0xC0))
  else if b = 0xE0 then some (.tail opened 2 0xA0 0xBF 0)
  else if b = 0xED then some (.tail opened 2 0x80 0x9F 0xD)
  else if 0xE1 ≤ b && b ≤ 0xEF then some (.tail opened 2 0x80 0xBF (b - 0xE0))
  else if b = 0xF0 then some (.tail opened 3 0x90 0xBF 0)
  else if 0xF1 ≤ b && b ≤ 0xF3 then some (.tail opened 3 0x80 0xBF (b - 0xF0))
  else if b = 0xF4 then some (.tail opened 3 0x80 0x8F 4)
  else none

/-- The state after the byte `b` at `offset`, and the code point that it completes. -/
def step (passSurrogates : Bool) (s : State) (offset b : Nat) :
    Except Defect (State × Option CodePoint) :=
  match s with
  | .start =>
    if b < 0x80 then .ok (.start, some (.ofNat b))
    else
      match lead? offset b with
      | some s => .ok (s, none)
      | none => .error ⟨offset, offset + 1, .invalidStart⟩
  | .tail opened owed low high value =>
    if low ≤ b && b ≤ high then
      let value := value * 64 + (b - 0x80)
      if owed ≤ 1 then .ok (.start, some (.ofNat value))
      else .ok (.tail opened (owed - 1) 0x80 0xBF value, none)
    else if passSurrogates && high == 0x9F && 0xA0 ≤ b && b ≤ 0xBF then
      .ok (.surrogate opened (value * 64 + (b - 0x80)), none)
    else .error ⟨opened, offset, .invalidContinuation⟩
  | .surrogate opened value =>
    if 0x80 ≤ b && b ≤ 0xBF then .ok (.start, some (.ofNat (value * 64 + (b - 0x80))))
    else .error ⟨opened, opened + 1, .invalidContinuation⟩

/-- Reads the bytes from `offset` on; `read` holds the code points before, last first. -/
def run (passSurrogates : Bool) (s : State) (offset : Nat) (read : Text) :
    Bytes → Except Defect Text
  | [] =>
    match s with
    | .start => .ok read.reverse
    | .tail opened _ _ _ _ => .error ⟨opened, offset, .unexpectedEnd⟩
    | .surrogate opened _ => .error ⟨opened, opened + 1, .invalidContinuation⟩
  | b :: rest =>
    match step passSurrogates s offset b.toNat with
    | .error d => .error d
    | .ok (s, some c) => run passSurrogates s (offset + 1) (c :: read) rest
    | .ok (s, none) => run passSurrogates s (offset + 1) read rest

def name : Text := Text.ofString "utf-8"

/-- The text of bytes that hold no surrogates. -/
def decode (bytes : Bytes) : Except DecodeError Text :=
  (run false .start 0 [] bytes).mapError fun d => d.within name bytes 0

/-- The text of bytes that may hold surrogates, written like other code points. -/
def decodePassing (bytes : Bytes) : Except DecodeError Text :=
  (run true .start 0 [] bytes).mapError fun d => d.within name bytes 0

/-- The bytes of a code point. -/
def encodePoint (c : CodePoint) : Bytes :=
  let n := c.val
  let tail (shift : Nat) : UInt8 := .ofNat (0x80 + n / Nat.pow 2 shift % 64)
  if n < 0x80 then [.ofNat n]
  else if n < 0x800 then [.ofNat (0xC0 + n / 64), tail 0]
  else if n < 0x10000 then [.ofNat (0xE0 + n / 4096), tail 6, tail 0]
  else [.ofNat (0xF0 + n / 262144), tail 12, tail 6, tail 0]

/-- The bytes of a text in which surrogates are written like other code points. -/
def encodePassing (t : Text) : Bytes := t.flatMap encodePoint

/-- The first run of surrogates in a text that starts at `offset`. -/
def surrogateRun? (offset : Nat) : Text → Option EncodeError
  | [] => none
  | c :: rest =>
    if c.isSurrogate then some ⟨offset, c, 1 + (rest.takeWhile CodePoint.isSurrogate).length⟩
    else surrogateRun? (offset + 1) rest

/-- The bytes of a text, which must hold no surrogate. -/
def encode (t : Text) : Except EncodeError Bytes :=
  match surrogateRun? 0 t with
  | some e => .error e
  | none => .ok (encodePassing t)

end JsonTypings.Encoding.Utf8
