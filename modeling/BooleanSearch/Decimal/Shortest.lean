import BooleanSearch.Decimal.Dyadic

/-!
# Shortest decimal texts of doubles

The digits of a double are the fewest that read back as it, and of those the nearest.  A number
whose decimal exponent is at least -4 and below 16 is written positionally with at least one
decimal place, any other in exponent form with an exponent of at least two digits.
-/

namespace BooleanSearch.Decimal

/-- Digits `d₁d₂…dₙ` and the exponent of the power of ten after which the point stands: the value
is `0.d₁d₂…dₙ * 10 ^ point`. -/
structure Digits where
  digits : Nat
  count : Nat
  point : Int
  deriving Repr, DecidableEq

/-- The least `point` with `numerator / denominator < 10 ^ point`, looked for upwards. -/
def pointFrom (numerator denominator : Nat) : Nat → Int → Int
  | 0, point => point
  | fuel + 1, point =>
    let below :=
      if point < 0 then numerator * Nat.pow 10 (-point).toNat < denominator
      else numerator < denominator * Nat.pow 10 point.toNat
    if below then point else pointFrom numerator denominator fuel (point + 1)

/-- A fraction scaled by a power of ten. -/
def scale (numerator denominator : Nat) (power : Int) : Nat × Nat :=
  if power < 0 then (numerator, denominator * Nat.pow 10 (-power).toNat)
  else (numerator * Nat.pow 10 power.toNat, denominator)

/-- The bounds of the numbers that read back as a double, over twice-halved units: numerators of
the lower bound, the value and the upper bound, their common denominator, and whether the bounds
themselves read back. -/
def readBack (value : Dyadic) : Nat × Nat × Nat × Nat × Bool :=
  let narrow := value.mantissa == Nat.pow 2 52 && value.exponent != -1074
  let low := if narrow then 4 * value.mantissa - 1 else 4 * value.mantissa - 2
  let high := 4 * value.mantissa + 2
  let (factor, denominator) :=
    if value.exponent - 2 < 0 then (1, Nat.pow 2 (2 - value.exponent).toNat)
    else (Nat.pow 2 (value.exponent - 2).toNat, 1)
  (low * factor, 4 * value.mantissa * factor, high * factor, denominator, value.mantissa % 2 == 0)

/-- Of the two neighbours of a value on the grid of `count` digits, the one that reads back; of
two, the nearer, and the even one on a tie. -/
def onGrid? (value : Dyadic) (point : Int) (count : Nat) : Option Nat :=
  let (low, exact, high, denominator, inclusive) := readBack value
  let power := (count : Int) - point
  let (scaled, unit) := scale exact denominator power
  let (scaledLow, _) := scale low denominator power
  let (scaledHigh, _) := scale high denominator power
  let inside (digits : Nat) : Bool :=
    if inclusive then scaledLow ≤ digits * unit && digits * unit ≤ scaledHigh
    else scaledLow < digits * unit && digits * unit < scaledHigh
  let below := scaled / unit
  let above := below + 1
  match inside below, inside above with
  | true, false => some below
  | false, true => some above
  | true, true => some (roundHalfEven scaled unit)
  | false, false => none

/-- The first grid, from `count` digits on, that has a number reading back. -/
def firstGrid (value : Dyadic) (point : Int) : Nat → Nat → Nat × Nat
  | 0, count => ((onGrid? value point count).getD 0, count)
  | fuel + 1, count =>
    match onGrid? value point count with
    | some digits => (digits, count)
    | none => firstGrid value point fuel (count + 1)

def dropZeros : Nat → Nat → Nat → Nat × Nat
  | 0, digits, count => (digits, count)
  | fuel + 1, digits, count =>
    if digits % 10 == 0 && 1 < count then dropZeros fuel (digits / 10) (count - 1)
    else (digits, count)

/-- Digits found on a grid, without the zeros at their end. -/
def Digits.ofGrid (point : Int) (grid : Nat × Nat) : Digits :=
  if grid.1 == Nat.pow 10 grid.2 then ⟨1, 1, point + 1⟩
  else
    let rest := dropZeros grid.2 grid.1 grid.2
    ⟨rest.1, rest.2, point⟩

/-- Where the point of a double stands: the least power of ten above it. -/
def Dyadic.point (value : Dyadic) : Int :=
  let parts := value.fraction
  pointFrom parts.1 parts.2 700 (-330)

def shortestDigits (value : Dyadic) : Digits :=
  let point := value.point
  .ofGrid point (firstGrid value point 16 1)

/-- Digits as text, padded with zeros on the left to a width. -/
def padDigits (width value : Nat) : String :=
  let text := toString value
  String.ofList (List.replicate (width - text.length) '0') ++ text

/-- Digits written positionally or with an exponent. -/
def Digits.text (number : Digits) : String :=
  let digits := padDigits number.count number.digits
  let exponent := number.point - 1
  if -4 ≤ exponent && exponent < 16 then
    if number.point ≤ 0 then
      "0." ++ String.ofList (List.replicate (-number.point).toNat '0') ++ digits
    else
      let whole := number.point.toNat
      if number.count ≤ whole then
        digits ++ String.ofList (List.replicate (whole - number.count) '0') ++ ".0"
      else
        String.ofList (digits.toList.take whole) ++ "." ++ String.ofList (digits.toList.drop whole)
  else
    let mantissa :=
      match digits.toList with
      | [] => ""
      | [first] => String.ofList [first]
      | first :: rest => String.ofList (first :: '.' :: rest)
    let sign := if exponent < 0 then "-" else "+"
    mantissa ++ "e" ++ sign ++ padDigits 2 exponent.natAbs

/-- The shortest text that reads back as the double. -/
def shortest (value : Float) : String :=
  match Kind.ofFloat value with
  | .notANumber => "nan"
  | .infinite negative => if negative then "-inf" else "inf"
  | .finite number =>
    let sign := if number.negative then "-" else ""
    if number.mantissa == 0 then sign ++ "0.0" else sign ++ (shortestDigits number).text

end BooleanSearch.Decimal
