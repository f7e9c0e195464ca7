import BooleanSearch.Decimal.Fixed

/-!
# Decimal texts with a number of digits

The exact value of a double is rounded to a number of digits, a tie to the even one.  It is written
with an exponent, or positionally without zeros at its end if its exponent is small.
-/

namespace BooleanSearch.Decimal

/-- The digits of a positive double, rounded to `count` of them. -/
def roundedDigits (value : Dyadic) (count : Nat) : Digits :=
  let (numerator, denominator) := value.fraction
  let point := value.point
  let (scaled, unit) := scale numerator denominator ((count : Int) - point)
  let digits := roundHalfEven scaled unit
  if digits == Nat.pow 10 count then ⟨Nat.pow 10 (count - 1), count, point + 1⟩
  else ⟨digits, count, point⟩

/-- Digits with a point behind the first of them, if others follow or it is wanted. -/
def pointed (wanted : Bool) : List Char → List Char
  | [] => []
  | [first] => if wanted then [first, '.'] else [first]
  | first :: rest => first :: '.' :: rest

def exponentText (exponent : Int) : String :=
  "e" ++ (if exponent < 0 then "-" else "+") ++ padDigits 2 exponent.natAbs

/-- The digits of a finite double of which `count` are wanted; zero has that many zeros. -/
def wantedDigits (value : Dyadic) (count : Nat) : Digits :=
  if value.mantissa == 0 then ⟨0, count, 1⟩ else roundedDigits value count

/-- A finite double without its sign, with an exponent and `places` digits behind the point. -/
def scientificText (value : Dyadic) (places : Nat) (pointWanted : Bool) : String :=
  let number := wantedDigits value (places + 1)
  String.ofList (pointed pointWanted (padDigits number.count number.digits).toList)
    ++ exponentText (number.point - 1)

/-- Digits without zeros at their end. -/
def trimZeros (digits : List Char) : List Char :=
  (digits.reverse.dropWhile (· == '0')).reverse

/-- A finite double without its sign, with `count` digits: positionally if its exponent is at least
-4 and below `count`.  Zeros at the end are kept only if that is asked for. -/
def generalText (value : Dyadic) (count : Nat) (keepZeros : Bool) : String :=
  let count := max count 1
  let number := wantedDigits value count
  let digits := (padDigits number.count number.digits).toList
  let exponent := number.point - 1
  let join (whole fraction : List Char) : String :=
    let kept := if keepZeros then fraction else trimZeros fraction
    String.ofList (if kept.isEmpty && !keepZeros then whole else whole ++ '.' :: kept)
  if -4 ≤ exponent && exponent < (count : Int) then
    if number.point ≤ 0 then join ['0'] (List.replicate (-number.point).toNat '0' ++ digits)
    else join (digits.take number.point.toNat) (digits.drop number.point.toNat)
  else join (digits.take 1) (digits.drop 1) ++ exponentText exponent

/-- A double with its sign, the text of its absolute value being given. -/
def withSign (value : Float) (text : Dyadic → String) : String :=
  match Kind.ofFloat value with
  | .notANumber => "nan"
  | .infinite negative => if negative then "-inf" else "inf"
  | .finite number => (if number.negative then "-" else "") ++ text number

/-- A double with an exponent and some places. -/
def scientific (value : Float) (places : Nat) (pointWanted : Bool := false) : String :=
  withSign value fun number => scientificText number places pointWanted

/-- A double with some digits. -/
def general (value : Float) (count : Nat) (keepZeros : Bool := false) : String :=
  withSign value fun number => generalText number count keepZeros

end BooleanSearch.Decimal
