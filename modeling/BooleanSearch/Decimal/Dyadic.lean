/-!
# Floating-point numbers as exact fractions

A finite double is a sign, a whole mantissa and a power of two.  Reading that off the bits makes
every decimal text of it a matter of whole-number arithmetic.
-/

namespace BooleanSearch.Decimal

/-- The number `mantissa * 2 ^ exponent`, with a sign. -/
structure Dyadic where
  negative : Bool
  mantissa : Nat
  exponent : Int
  deriving Repr, DecidableEq

/-- What a double is. -/
inductive Kind
  | finite (value : Dyadic)
  | infinite (negative : Bool)
  | notANumber
  deriving Repr, DecidableEq

/-- Reads sign, mantissa and exponent off the bits of a double. -/
def Kind.ofBits (bits : Nat) : Kind :=
  let negative := bits / Nat.pow 2 63 == 1
  let field : Nat := bits / Nat.pow 2 52 % 2048
  let fraction : Nat := bits % Nat.pow 2 52
  if field == 2047 then (if fraction == 0 then .infinite negative else .notANumber)
  else if field == 0 then .finite ⟨negative, fraction, -1074⟩
  else .finite ⟨negative, Nat.pow 2 52 + fraction, (field : Int) - 1075⟩

/-- What a double is, by its bits. -/
def Kind.ofFloat (value : Float) : Kind :=
  Kind.ofBits value.toBits.toNat

/-- The numerator and denominator of the absolute value. -/
def Dyadic.fraction (value : Dyadic) : Nat × Nat :=
  if value.exponent < 0 then (value.mantissa, Nat.pow 2 (-value.exponent).toNat)
  else (value.mantissa * Nat.pow 2 value.exponent.toNat, 1)

/-- A quotient rounded to the nearest whole number, a tie to the even one. -/
def roundHalfEven (numerator denominator : Nat) : Nat :=
  let quotient := numerator / denominator
  let doubled := 2 * (numerator % denominator)
  if doubled < denominator then quotient
  else if denominator < doubled then quotient + 1
  else quotient + quotient % 2

/-- The greatest `power` with `2 ^ power` at most `numerator / denominator`, both positive. -/
def binaryOrder (numerator denominator : Nat) : Int :=
  let guess : Int := (numerator.log2 : Int) - (denominator.log2 : Int)
  let reached :=
    if guess < 0 then denominator ≤ numerator * Nat.pow 2 (-guess).toNat
    else denominator * Nat.pow 2 guess.toNat ≤ numerator
  if reached then guess else guess - 1

/-- The bits of the double nearest to `numerator / denominator`, both positive, a tie going to the
even mantissa.  Beyond the range of doubles they are those of infinity. -/
def nearestBits (numerator denominator : Nat) : Nat :=
  let exponent := max (binaryOrder numerator denominator - 52) (-1074)
  let mantissa :=
    if exponent < 0 then roundHalfEven (numerator * Nat.pow 2 (-exponent).toNat) denominator
    else roundHalfEven numerator (denominator * Nat.pow 2 exponent.toNat)
  min ((exponent + 1074).toNat * Nat.pow 2 52 + mantissa) (2047 * Nat.pow 2 52)

/-- The double with the given sign and bits. -/
def signed (negative : Bool) (bits : Nat) : Float :=
  Float.ofBits (UInt64.ofNat (if negative then Nat.pow 2 63 + bits else bits))

/-- The double nearest to `digits * 10 ^ exponent`.  Exponents far out of range are not worked
out. -/
def floatOf (negative : Bool) (digits : Nat) (exponent : Int) : Float :=
  if digits == 0 || exponent < -(400 + (digits.log2 : Int)) then signed negative 0
  else if 400 < exponent then signed negative (2047 * Nat.pow 2 52)
  else if exponent < 0 then signed negative (nearestBits digits (Nat.pow 10 (-exponent).toNat))
  else signed negative (nearestBits (digits * Nat.pow 10 exponent.toNat) 1)

end BooleanSearch.Decimal
