import JsonTypings.CodePoint
import JsonTypings.Decimal.Shortest

/-! Floats as text, by the shortest digits that round to them, in positional or in exponent form. -/
namespace JsonTypings.Decimal

/-- How a decimal is laid out: the exponents of its leading digit that are written positionally, and
the least number of digits of any other exponent. -/
structure Layout where
  positionalFrom : Int
  positionalBelow : Int
  exponentDigits : Nat

/-- From 0.0001 to below 10^16 a float is positional; an exponent has a sign and two digits. -/
def floatLayout : Layout := ⟨-4, 16, 2⟩

def zeros (n : Nat) : Text := List.replicate n '0'

/-- The digits of a number without the zeros at its end. -/
def significantDigits (n : Nat) : Text :=
  ((Text.ofNat n).reverse.dropWhile (· = CodePoint.ofChar '0')).reverse

/-- An exponent with its sign, filled up with zeros to the least number of digits. -/
def Layout.exponentText (l : Layout) (e : Int) : Text :=
  let digits := Text.ofNat e.natAbs
  (if e < 0 then '-' else '+') :: (zeros (l.exponentDigits - digits.length) ++ digits)

/-- A decimal whose leading digit has the exponent `top`. A positional one has a digit on either
side of the point. -/
def Layout.render (l : Layout) (digits : Text) (top : Int) : Text :=
  if l.positionalFrom ≤ top ∧ top < l.positionalBelow then
    if top < 0 then Text.ofString "0." ++ zeros (-top - 1).toNat ++ digits
    else
      let places := top.toNat + 1
      let fraction := digits.drop places
      digits.take places ++ zeros (places - digits.length) ++ Text.ofString "." ++
        (if fraction.isEmpty then zeros 1 else fraction)
  else
    match digits with
    | [] => []
    | [d] => d :: Text.ofString "e" ++ l.exponentText top
    | d :: rest => d :: Text.ofString "." ++ rest ++ Text.ofString "e" ++ l.exponentText top

/-- The unsigned text of the finite float `mantissa * 2 ^ exponent`. -/
def textOfFinite (mantissa : Nat) (exponent : Int) : Text :=
  if mantissa = 0 then floatLayout.render ['0'] 0
  else
    let d := shortest mantissa exponent
    floatLayout.render (significantDigits d.digits) (d.exponent + (Text.ofNat d.digits).length - 1)

/-- The words for the floats that are no numbers. -/
structure SpecialNames where
  nan : Text
  infinity : Text

def textOfFloat (names : SpecialNames) (x : Float) : Text :=
  let signed (negative : Bool) (t : Text) : Text := if negative then '-' :: t else t
  match Binary64.ofFloat x with
  | .nan => names.nan
  | .infinity negative => signed negative names.infinity
  | .finite negative mantissa exponent => signed negative (textOfFinite mantissa exponent)

end JsonTypings.Decimal
