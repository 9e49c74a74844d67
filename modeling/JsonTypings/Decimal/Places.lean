import JsonTypings.Decimal.Layout

/-! Floats rounded to a fixed number of decimal places, from their exact value, a half going to the
even neighbour. The sign of a float that rounds to zero is kept. -/
namespace JsonTypings.Decimal

/-- The absolute value of `mantissa * 2 ^ exponent` in units of `10 ^ -places`, rounded. -/
def unitsOfPlaces (places mantissa : Nat) (exponent : Int) : Nat :=
  let (num, den) := Binary64.ratio mantissa exponent
  Binary64.roundDiv (num * Nat.pow 10 places) den

/-- The text with exactly `places` digits behind the point, for a positive number of places. -/
def fixed (places : Nat) (x : Float) : Text :=
  match Binary64.ofFloat x with
  | .nan => Text.ofString "nan"
  | .infinity negative => Text.ofString (if negative then "-inf" else "inf")
  | .finite negative mantissa exponent =>
    let units := unitsOfPlaces places mantissa exponent
    let fraction := Text.ofNat (units % Nat.pow 10 places)
    Text.ofString (if negative then "-" else "") ++ Text.ofNat (units / Nat.pow 10 places) ++
      Text.ofString "." ++ zeros (places - fraction.length) ++ fraction

/-- The float nearest to the given one rounded to `places` decimal places. -/
def roundTo (places : Nat) (x : Float) : Float :=
  match Binary64.ofFloat x with
  | .finite negative mantissa exponent =>
    Binary64.ofRatio negative (unitsOfPlaces places mantissa exponent) (Nat.pow 10 places)
  | _ => x

end JsonTypings.Decimal
