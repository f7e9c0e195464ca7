import BooleanSearch.Text.Blank
import BooleanSearch.Text.DecimalDigit
import BooleanSearch.Text.Basic

/-!
# Reading whole numbers

A whole number may stand between padding, may have a sign, may use the digits of any script and may
separate digits by single underscores.  At most 4300 digits are read.
-/

namespace BooleanSearch.Text

/-- The largest number of digits that is read as a number. -/
def digitLimit : Nat :=
  4300

/-- The values of digits that may be separated by single underscores. -/
def digitValues? : List Char → Option (List Nat)
  | [] => none
  | [last] => (decimalValue? last).map fun value => [value]
  | first :: '_' :: rest =>
    match decimalValue? first, digitValues? rest with
    | some value, some values => some (value :: values)
    | _, _ => none
  | first :: rest =>
    match decimalValue? first, digitValues? rest with
    | some value, some values => some (value :: values)
    | _, _ => none

/-- The number with the given decimal digits, most significant first. -/
def numberOfDigits (digits : List Nat) : Nat :=
  digits.foldl (fun number digit => 10 * number + digit) 0

/-- Why a text is not read as a whole number. -/
inductive NumberFault
  | malformed
  | tooLong (digits : Nat)
  deriving Repr, DecidableEq

/-- The wording for a number with too many digits. -/
def tooManyDigits (digits : Nat) : String :=
  s!"Exceeds the limit ({digitLimit} digits) for integer string conversion: value has {digits} "
    ++ "digits; use sys.set_int_max_str_digits() to increase the limit"

/-- Reads digits after an optional sign. -/
def readSigned (negative : Bool) (chars : List Char) : Except NumberFault Int :=
  match digitValues? chars with
  | none => .error .malformed
  | some digits =>
    if digitLimit < digits.length then .error (.tooLong digits.length)
    else
      let number : Int := ((numberOfDigits digits : Nat) : Int)
      .ok (if negative then -number else number)

def readInt (text : String) : Except NumberFault Int :=
  match trimPadding text.toList with
  | '-' :: rest => readSigned true rest
  | '+' :: rest => readSigned false rest
  | chars => readSigned false chars

end BooleanSearch.Text
