import BooleanSearch.Value

/-!
# Numbers of either kind

Thresholds, times and sizes may be given as whole numbers or as doubles.  They are compared as
numbers, and their texts show which of the two they are.
-/

namespace BooleanSearch

inductive Number
  | whole (value : Int)
  | real (value : Float)
  deriving Inhabited

namespace Number

/-- The nearest double. -/
def toFloat : Number → Float
  | .whole value => Decimal.ofInt value
  | .real value => value

def text : Number → String
  | .whole value => toString value
  | .real value => Decimal.shortest value

def toValue : Number → Value
  | .whole value => .int value
  | .real value => .float value

/-- Whether one number is below or equal to another. -/
def atMost : Number → Number → Bool
  | .whole left, .whole right => left ≤ right
  | left, right => left.toFloat ≤ right.toFloat

def below : Number → Number → Bool
  | .whole left, .whole right => left < right
  | left, right => left.toFloat < right.toFloat

def ofValue? : Value → Option Number
  | .int value => some (.whole value)
  | .float value => some (.real value)
  | .bool value => some (.whole (if value then 1 else 0))
  | _ => none

end Number

/-- The double nearest to the quotient of two whole numbers; zero if the divisor is zero. -/
def quotient (dividend divisor : Int) : Float :=
  if divisor == 0 then 0.0 else Decimal.ofInt dividend / Decimal.ofInt divisor

end BooleanSearch
