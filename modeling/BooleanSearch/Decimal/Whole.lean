import BooleanSearch.Error
import BooleanSearch.Text.WholeNumber

/-!
# Values as whole numbers

The whole number that a value stands for: a number loses its fraction, a text is read.
-/

namespace BooleanSearch

namespace Value

def kindName : Value → String
  | .null => "NoneType"
  | .bool _ => "bool"
  | .int _ => "int"
  | .float _ => "float"
  | .text _ => "str"
  | .bytes _ => "bytes"
  | .list _ => "list"
  | .tuple _ => "tuple"
  | .set _ => "set"
  | .dict _ => "dict"
  | .record kind _ _ => kind

/-- Reads a text; the failure shows the value that holds it. -/
def readWhole (value : Value) (chars : String) : Except Failure Int :=
  match Text.readInt chars with
  | .ok number => .ok number
  | .error .malformed =>
    .error (.badValue ("invalid literal for int() with base 10: " ++ value.literal))
  | .error (.tooLong digits) => .error (.badValue (Text.tooManyDigits digits))

def wholeNumber (value : Value) : Except Failure Int :=
  match value with
  | .bool truth => .ok (if truth then 1 else 0)
  | .int number => .ok number
  | .float number =>
    match Decimal.truncate? number with
    | some whole => .ok whole
    | none =>
      if number.isNaN then .error (.badValue "cannot convert float NaN to integer")
      else .error (.overflow "cannot convert float infinity to integer")
  | .text chars => readWhole value chars
  | .bytes codes =>
    readWhole value (String.ofList (codes.map fun code => Char.ofNat code.toNat))
  | other =>
    .error (.badKind ("int() argument must be a string, a bytes-like object or a real number, not '"
      ++ other.kindName ++ "'"))

end Value

end BooleanSearch
