import JsonTypings.Json.Numeral
import JsonTypings.Json.Quotation

/-! Reading JSON with a machine that sees one code point at a time and keeps the containers that are
still open on a stack. It stops at the first code point that no JSON text could have there. -/
namespace JsonTypings.Json

/-- A container that waits for the value of its next item or member. -/
inductive Frame where
  /-- The items before, last first. -/
  | item (before : List Value)
  | member (before : Members) (key : Text)

/-- What the string being read is: a value, or a key of an object. -/
inductive StringRole where
  | value
  | key (before : Members)

/-- What has been read up to some offset; `stack` holds the open containers, innermost first. -/
inductive State where
  /-- A value must follow. -/
  | value (stack : List Frame)
  | firstItem (stack : List Frame)
  | itemEnd (items : List Value) (stack : List Frame)
  | firstKey (stack : List Frame)
  | nextKey (members : Members) (stack : List Frame)
  | colon (members : Members) (key : Text) (stack : List Frame)
  | memberEnd (members : Members) (stack : List Frame)
  | done (v : Value)
  | string (q : Quotation) (role : StringRole) (stack : List Frame)
  /-- Inside a word, of which `rest` is missing. -/
  | word (opened : Nat) (rest : Text) (v : Value) (stack : List Frame)
  | minus (stack : List Frame)
  | number (phase : Numeral.Phase) (n : Numeral) (stack : List Frame)

/-- Why a reading stopped early. -/
inductive Stop where
  | flaw (f : Flaw)
  | tooManyDigits (digits : Nat)
  deriving DecidableEq

/-- Stopping at a fault. -/
def stop {α : Type} (fault : Fault) (offset : Nat) : Except Stop α := .error (.flaw ⟨fault, offset⟩)

/-- Space, tab, line feed and carriage return. -/
def isSpace (c : CodePoint) : Bool := c = ' ' || c = '\t' || c = '\n' || c = '\r'

namespace State

/-- A complete value goes to the innermost open container. -/
def give (v : Value) : List Frame → State
  | [] => .done v
  | .item before :: stack => .itemEnd (v :: before) stack
  | .member before key :: stack => .memberEnd (before.insert key v) stack

/-- The fault of a code point that cannot follow a complete value. -/
def faultAfterValue : List Frame → Fault
  | [] => .extraData
  | _ :: _ => .expectingComma

/-- The words of JSON and of its extended numbers, by their first letter. -/
def word? (c : CodePoint) : Option (Text × Value) :=
  if c = 'n' then some (Text.ofString "ull", .null)
  else if c = 't' then some (Text.ofString "rue", .bool true)
  else if c = 'f' then some (Text.ofString "alse", .bool false)
  else if c = 'N' then some (Text.ofString "aN", .float (0.0 / 0.0))
  else if c = 'I' then some (Text.ofString "nfinity", .float (1.0 / 0.0))
  else none

def stepValue (stack : List Frame) (offset : Nat) (c : CodePoint) : Except Stop State :=
  if isSpace c then .ok (.value stack)
  else if c = '"' then .ok (.string (.start offset) .value stack)
  else if c = '{' then .ok (.firstKey stack)
  else if c = '[' then .ok (.firstItem stack)
  else if c = '-' then .ok (.minus stack)
  else
    match c.digit?, word? c with
    | some d, _ => .ok (.number (Numeral.start false d).1 (Numeral.start false d).2 stack)
    | none, some (rest, v) => .ok (.word offset rest v stack)
    | none, none => stop .expectingValue offset

/-- Keys start with a quote. -/
def stepKey (members : Members) (stack : List Frame) (offset : Nat) (c : CodePoint) :
    Except Stop State :=
  if c = '"' then .ok (.string (.start offset) (.key members) stack)
  else stop .expectingKey offset

/-- After an item comes a comma or the end of the array. -/
def stepItemEnd (items : List Value) (stack : List Frame) (offset : Nat) (c : CodePoint) :
    Except Stop State :=
  if isSpace c then .ok (.itemEnd items stack)
  else if c = ',' then .ok (.value (.item items :: stack))
  else if c = ']' then .ok (give (.array items.reverse) stack)
  else stop .expectingComma offset

/-- After a member comes a comma or the end of the object. -/
def stepMemberEnd (members : Members) (stack : List Frame) (offset : Nat) (c : CodePoint) :
    Except Stop State :=
  if isSpace c then .ok (.memberEnd members stack)
  else if c = ',' then .ok (.nextKey members stack)
  else if c = '}' then .ok (give (.object members) stack)
  else stop .expectingComma offset

/-- After the document comes nothing but space. -/
def stepDone (v : Value) (offset : Nat) (c : CodePoint) : Except Stop State :=
  if isSpace c then .ok (.done v) else stop .extraData offset

/-- The code point directly after a complete value. -/
def stepAfter (v : Value) (stack : List Frame) (offset : Nat) (c : CodePoint) : Except Stop State :=
  match stack with
  | [] => stepDone v offset c
  | .item before :: stack => stepItemEnd (v :: before) stack offset c
  | .member before key :: stack => stepMemberEnd (before.insert key v) stack offset c

/-- A number that ends before `offset`: its value, unless it is too long or some of what was read
does not belong to it. -/
def numberValue (phase : Numeral.Phase) (n : Numeral) (stack : List Frame) (offset : Nat) :
    Except Stop Value :=
  match n.value with
  | .error digits => .error (.tooManyDigits digits)
  | .ok v => if phase.pending = 0 then .ok v else stop (faultAfterValue stack) (offset - phase.pending)

/-- The state after the code point at `offset`. -/
def step (s : State) (offset : Nat) (c : CodePoint) : Except Stop State :=
  match s with
  | .value stack => stepValue stack offset c
  | .firstItem stack =>
    if isSpace c then .ok (.firstItem stack)
    else if c = ']' then .ok (give (.array []) stack)
    else stepValue (.item [] :: stack) offset c
  | .itemEnd items stack => stepItemEnd items stack offset c
  | .firstKey stack =>
    if isSpace c then .ok (.firstKey stack)
    else if c = '}' then .ok (give (.object []) stack)
    else stepKey [] stack offset c
  | .nextKey members stack =>
    if isSpace c then .ok (.nextKey members stack) else stepKey members stack offset c
  | .colon members key stack =>
    if isSpace c then .ok (.colon members key stack)
    else if c = ':' then .ok (.value (.member members key :: stack))
    else stop .expectingColon offset
  | .memberEnd members stack => stepMemberEnd members stack offset c
  | .done v => stepDone v offset c
  | .string q role stack =>
    match q.step offset c, role with
    | .error flaw, _ => .error (.flaw flaw)
    | .ok (.still q), role => .ok (.string q role stack)
    | .ok (.closed t), .value => .ok (give (.string t) stack)
    | .ok (.closed t), .key members => .ok (.colon members t stack)
  | .word opened rest v stack =>
    match rest with
    | [] => stop .expectingValue opened
    | d :: rest =>
      if c = d then .ok (if rest.isEmpty then give v stack else .word opened rest v stack)
      else stop .expectingValue opened
  | .minus stack =>
    match c.digit? with
    | some d => .ok (.number (Numeral.start true d).1 (Numeral.start true d).2 stack)
    | none =>
      if c = 'I' then
        .ok (.word (offset - 1) (Text.ofString "nfinity") (.float (-1.0 / 0.0)) stack)
      else stop .expectingValue (offset - 1)
  | .number phase n stack =>
    match n.extend? phase c with
    | some (phase, n) => .ok (.number phase n stack)
    | none =>
      match numberValue phase n stack offset with
      | .error e => .error e
      | .ok v => stepAfter v stack offset c

/-- The state after the code points from `offset` on. -/
def run (s : State) (offset : Nat) : Text → Except Stop State
  | [] => .ok s
  | c :: rest =>
    match s.step offset c with
    | .ok s => run s (offset + 1) rest
    | .error e => .error e

/-- The document, if the text may end at `offset`. -/
def finish (s : State) (offset : Nat) : Except Stop Value :=
  match s with
  | .value _ | .firstItem _ => stop .expectingValue offset
  | .firstKey _ | .nextKey _ _ => stop .expectingKey offset
  | .colon _ _ _ => stop .expectingColon offset
  | .itemEnd _ _ | .memberEnd _ _ => stop .expectingComma offset
  | .done v => .ok v
  | .string q _ _ => .error (.flaw (q.unfinished offset))
  | .word opened _ _ _ => stop .expectingValue opened
  | .minus _ => stop .expectingValue (offset - 1)
  | .number phase n stack =>
    match numberValue phase n stack offset, stack with
    | .error e, _ => .error e
    | .ok v, [] => .ok v
    | .ok _, _ :: _ => stop .expectingComma offset

/-- Running over two parts is running over the first and then over the second. -/
theorem run_append (s : State) (offset : Nat) (t u : Text) :
    s.run offset (t ++ u) = (s.run offset t).bind fun s' => s'.run (offset + t.length) u := by
  induction t generalizing s offset with
  | nil => rfl
  | cons c rest ih =>
    simp only [List.cons_append, run]
    cases s.step offset c with
    | error e => rfl
    | ok s' => simp [ih, Nat.add_assoc, Nat.add_comm 1]

end State

/-- Reads a document without regard to byte order marks. -/
def readDocument (text : Text) : Except Stop Value :=
  match (State.value []).run 0 text with
  | .ok s => s.finish text.length
  | .error e => .error e

/-- A stop told with its place in the text. -/
def Stop.describe (text : Text) : Stop → ReadError
  | .flaw f => .malformed f.fault (.locate text f.offset)
  | .tooManyDigits digits => .tooManyDigits digits

/-- The value of a text that was decoded from bytes. -/
def readDecoded (text : Text) : Except ReadError Value :=
  (readDocument text).mapError (Stop.describe text)

/-- The value of a text, which must not begin with a byte order mark. -/
def read (text : Text) : Except ReadError Value :=
  match text with
  | c :: _ => if c.val = 0xFEFF then .error (.malformed .byteOrderMark .start) else readDecoded text
  | [] => readDecoded text

end JsonTypings.Json
