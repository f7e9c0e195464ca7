import BooleanSearch.Decimal.Shortest

/-!
# Decimal texts with a fixed number of places

The exact value of a double is rounded to the nearest multiple of a power of ten, a tie to the
even multiple.
-/

namespace BooleanSearch.Decimal

/-- The absolute value in units of `10 ^ -places`, rounded. -/
def Dyadic.units (value : Dyadic) (places : Nat) : Nat :=
  let (numerator, denominator) := value.fraction
  roundHalfEven (numerator * Nat.pow 10 places) denominator

/-- Units of `10 ^ -places` written with a point. -/
def placesText (units places : Nat) : String :=
  if places == 0 then toString units
  else toString (units / Nat.pow 10 places) ++ "." ++ padDigits places (units % Nat.pow 10 places)

/-- A double with a fixed number of decimal places. -/
def fixed (value : Float) (places : Nat) : String :=
  match Kind.ofFloat value with
  | .notANumber => "nan"
  | .infinite negative => if negative then "-inf" else "inf"
  | .finite number =>
    (if number.negative then "-" else "") ++ placesText (number.units places) places

/-- The double nearest to a double's value rounded to a number of places. -/
def roundTo (value : Float) (places : Nat) : Float :=
  match Kind.ofFloat value with
  | .finite number => floatOf number.negative (number.units places) (-(places : Int))
  | _ => value

/-- A whole number as the nearest double; beyond the range of doubles it is infinite. -/
def ofInt (value : Int) : Float :=
  floatOf (value < 0) value.natAbs 0

/-- The whole part of a finite double. -/
def truncate? (value : Float) : Option Int :=
  match Kind.ofFloat value with
  | .finite number =>
    let (numerator, denominator) := number.fraction
    let whole : Int := ((numerator / denominator : Nat) : Int)
    some (if number.negative then -whole else whole)
  | _ => none

end BooleanSearch.Decimal
