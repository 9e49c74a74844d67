import JsonTypings.Decimal.Places
import JsonTypings.Random.Draw
import JsonTypings.Value

/-! Strings, numbers and booleans of sample documents. -/
namespace JsonTypings.Sample

def codePoints (first count : Nat) : Text := (List.range count).map fun i => .ofNat (first + i)

def lowercase : Text := codePoints 0x61 26

def capitals : Text := codePoints 0x41 26

def digits : Text := codePoints 0x30 10

/-- The number of filler words for a string of some length: one for every five letters and one more,
but at most five. -/
def fillerCount (length : Int) : Int := min 5 (Int.fdiv length 5 + 1)

/-- Filler words with blanks between them, cut off at a length. -/
def filler (length : Int) : Draw Text := do
  let words ← Draw.chooseMany (Text.ofString "lorem")
    (["ipsum", "dolor", "sit", "amet", "consectetur", "adipiscing"].map Text.ofString)
    (fillerCount length)
  return (List.intercalate (Text.ofString " ") words).take length.toNat

/-- A string whose length is drawn between two bounds: three of ten are filler, three of ten are
letters and digits, the others are small letters. -/
def string (low high : Int) : Draw Text := do
  let length ← Draw.between low high
  let m ← Draw.fraction
  if Draw.isBelow m 3 10 then filler length
  else if Draw.isBelow m 3 5 then
    Draw.chooseMany 'a' (lowercase.tail ++ capitals ++ digits) length
  else Draw.chooseMany 'a' lowercase.tail length

def boolean : Draw Bool := Draw.choose true [false]

/-- A number with leading zeros. -/
def padded (width n : Nat) : Text :=
  let t := Text.ofNat n
  Decimal.zeros (width - t.length) ++ t

/-- The lengths of the months of a year. -/
def monthLengths (leap : Bool) : List Nat :=
  [31, if leap then 29 else 28, 31, 30, 31, 30, 31, 31, 30, 31, 30, 31]

/-- The month and the day, counted from one, of a day of the year, counted from zero. -/
def monthAndDay (month day : Nat) : List Nat → Nat × Nat
  | [] => (month, day + 1)
  | length :: rest => if day < length then (month, day + 1) else monthAndDay (month + 1) (day - length) rest

/-- The year, month and day of a day counted from the first of January 2020, within the five years
from then on, of which the first and the fifth are leap years. -/
def date (day : Nat) : Nat × Nat × Nat :=
  let rec go (year day : Nat) : List Nat → Nat × Nat × Nat
    | [] => (year, monthAndDay 1 day (monthLengths false))
    | length :: rest =>
      if day < length then (year, monthAndDay 1 day (monthLengths (length == 366)))
      else go (year + 1) (day - length) rest
  go 2020 day [366, 365, 365, 365, 366]

/-- A full hour of some day from 2020 to 2024. -/
def datetime : Draw Text := do
  let day ← Draw.between 0 1825
  let hour ← Draw.between 0 23
  let (year, month, day) := date day.toNat
  let days := List.intercalate (Text.ofString "-") [padded 4 year, padded 2 month, padded 2 day]
  return days ++ Text.ofString "T" ++ padded 2 hour.toNat ++ Text.ofString ":00:00Z"

def email : Draw Text := do
  let name ← Draw.choose "alice" ["bob", "charlie", "diana", "eve", "frank"]
  let number ← Draw.between 1 999
  let domain ← Draw.choose "example.com" ["test.org", "demo.net", "sample.io"]
  return Text.ofString name ++ Text.ofInt number ++ Text.ofString ("@" ++ domain)

/-- A text cut into pieces of the given lengths. -/
def pieces (t : Text) : List Nat → List Text
  | [] => []
  | n :: rest => t.take n :: pieces (t.drop n) rest

/-- The text of a 128 bit identifier. -/
def identifierText (n : Nat) : Text :=
  List.intercalate (Text.ofString "-") (pieces (Text.hex 32 n) [8, 4, 4, 4, 12])

def identifier : Draw Text := identifierText <$> Draw.bits 128

/-- A string, a number or a boolean. -/
def primitive : Draw Value := do
  match ← Draw.below 7 with
  | 0 => return .int (← Draw.between (-1000) 1000)
  | 1 => return .float (Decimal.roundTo 2 (← Draw.uniform (-1000) 2000))
  | 2 => return .string (← string 5 15)
  | 3 => return .bool (← boolean)
  | 4 => return .string (← datetime)
  | 5 => return .string (← email)
  | _ => return .string (← identifier)

/-- One to five primitives of one kind. -/
def primitives : Draw (List Value) := do
  let element : Draw Value ← Draw.choose (.int <$> Draw.between 0 100)
    [.string <$> string 3 8, .bool <$> boolean]
  let count ← Draw.between 1 5
  Draw.times count.toNat element

end JsonTypings.Sample
