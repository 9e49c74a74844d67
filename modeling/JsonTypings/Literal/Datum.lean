import JsonTypings.CodePoint.Space
import JsonTypings.Encoding.TextFile
import JsonTypings.Literal.Grammar

/-! Literals: expressions that spell data. Only whether a text is a literal is told, so of data no more
is kept than whether they can be looked up, as the elements of a set and the keys of a dictionary are. -/
namespace JsonTypings.Literal

/-- Why an expression is no literal. -/
inductive DatumError where
  /-- Something that is no datum, with the line on which it stands; it has none if it is missing. -/
  | noDatum (line : Option Nat)
  | unhashable (typeName : Text)
  | tooLarge
  deriving DecidableEq

def DatumError.message : DatumError → Text
  | noDatum none => Text.ofString "malformed node or string: None"
  | noDatum (some line) => Text.ofString "malformed node or string on line " ++ Text.ofNat line
  | unhashable typeName => Text.ofString "unhashable type: '" ++ typeName ++ Text.ofString "'"
  | tooLarge => Text.ofString "int too large to convert to float"

/-- The kinds of numbers; of a whole number the value is kept. -/
inductive Quantity where
  | whole (n : Nat)
  | fraction
  | imaginary
  deriving DecidableEq

namespace Quantity

/-- The value of digits in some base. -/
def valueOf (base : Nat) (digits : Text) : Nat :=
  (digits.filterMap CodePoint.hexDigit?).foldl (fun n d => n * base + d) 0

/-- The number that a text spells. -/
def ofText (t : Text) : Quantity :=
  let t := Text.lower t
  let digits := t.drop 2
  match (t.drop 1).head? with
  | some c =>
    if c = 'x' then whole (valueOf 16 digits)
    else if c = 'o' then whole (valueOf 8 digits)
    else if c = 'b' then whole (valueOf 2 digits)
    else if t.contains (CodePoint.ofChar 'j') then imaginary
    else if t.contains (CodePoint.ofChar '.') || t.contains (CodePoint.ofChar 'e') then fraction
    else whole (valueOf 10 t)
  | none => whole (valueOf 10 t)

/-- The least whole number that is nearer to the first power of two beyond the doubles than to any of
them, or as near. -/
def doubleLimit : Nat := Nat.pow 2 1024 - Nat.pow 2 970

/-- A sum with an imaginary number on the right. -/
def addImaginary : Quantity → Option Quantity → Except DatumError Bool
  | whole n, some imaginary => if doubleLimit ≤ n then .error .tooLarge else .ok true
  | fraction, some imaginary => .ok true
  | _, _ => .ok false

end Quantity

namespace Tree

/-- The refusal of a tree; a tree without tokens counts as standing on the first line. -/
def noDatum (t : Tree) : DatumError := .noDatum (some (t.line?.getD 1))

/-- The number that an expression spells. -/
def number? : Tree → Option Quantity
  | .node .number [.token t] => some (Quantity.ofText t.text)
  | _ => none

/-- The number that an expression spells with at most one sign. -/
def signedNumber? : Tree → Option Quantity
  | .node .unary [.token sign, t] =>
    if sign.text = Text.ofString "~" || sign.text = Text.ofString "not" then none else t.number?
  | t => t.number?

/-- Checks a sum of a real and an imaginary number. -/
def checkSum (sum left right : Tree) : Except DatumError Unit :=
  match left.signedNumber? with
  | none => .error left.noDatum
  | some real =>
    match right.number? with
    | none => .error right.noDatum
    | some n => do
      if ← real.addImaginary (some n) then return () else throw sum.noDatum

/-- A datum: its type, or that of what is in it, if it keeps the datum from being looked up. -/
abbrev Datum := Option Text

/-- A datum that is to be looked up. -/
def lookedUp (d : Datum) : Except DatumError Unit :=
  match d with
  | none => .ok ()
  | some typeName => .error (.unhashable typeName)

def setName : Text := Text.ofString "set"

mutual

/-- The datum that an expression spells. -/
def datum : Tree → Except DatumError Datum
  | .token t => .error (.noDatum (some t.line))
  | .group ts => .error (group ts).noDatum
  | .node form ts =>
    match form with
    | .text | .nothing | .truth | .falsehood | .ellipsis | .number => .ok none
    | .tuple => tupleDatum ts
    | .set => (checkElements ts).map fun _ => some setName
    | .dict => (checkPairs ts).map fun _ => some (Text.ofString "dict")
    | .call =>
      match ts with
      | [callee, .node .call [_, .group [], _]] =>
        if callee.name? = some setName then .ok (some setName) else .error (node form ts).noDatum
      | ts => .error (node form ts).noDatum
    | .unary => if (signedNumber? (.node form ts)).isSome then .ok none else .error (node form ts).noDatum
    | .binary =>
      match ts with
      | [left, .group [.token sign, right]] =>
        if sign.text = Text.ofString "+" || sign.text = Text.ofString "-" then
          (checkSum (node form ts) left right).map fun _ => none
        else .error (node form ts).noDatum
      | ts => .error (node form ts).noDatum
    | form => .error (node form ts).noDatum

/-- A tuple can be looked up if all of its elements can. -/
def tupleDatum : List Tree → Except DatumError Datum
  | [] => .ok none
  | t :: ts => do
    let first ← t.datum
    let rest ← tupleDatum ts
    return first.or rest

def checkElements : List Tree → Except DatumError Unit
  | [] => .ok ()
  | t :: ts => do
    lookedUp (← t.datum)
    checkElements ts

def checkPairs : List Tree → Except DatumError Unit
  | [] => .ok ()
  | t :: ts => do
    checkPair t
    checkPairs ts

/-- A dictionary that is put into another one has no key. -/
def checkPair : Tree → Except DatumError Unit
  | .group [key, _, value] => do
    let key ← key.datum
    let _ ← value.datum
    lookedUp key
  | _ => .error (.noDatum none)

end

end Tree

/-- Why a text is no literal: it is malformed, or it means nothing. -/
inductive LiteralError where
  | malformed (f : Fault)
  | meaningless (e : DatumError)
  | unencodable (e : Encoding.EncodeError)

def LiteralError.message : LiteralError → Text
  | malformed f => f.message
  | meaningless e => e.message
  | unencodable e => e.message

/-- Checks that a text is a literal; spaces around it do not count. -/
def check (t : Text) : Except LiteralError Unit :=
  let t := Text.trim t
  match Encoding.Utf8.encode t with
  | .error e => .error (.unencodable e)
  | .ok _ =>
    match parse (Encoding.universalNewlines t) with
    | .error f => .error (.malformed f)
    | .ok tree =>
      match tree.datum with
      | .error e => .error (.meaningless e)
      | .ok _ => .ok ()

end JsonTypings.Literal
