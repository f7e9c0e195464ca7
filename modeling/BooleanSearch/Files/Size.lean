import BooleanSearch.Decimal.Number
import BooleanSearch.Error

/-!
# Sizes for people

A number of bytes in the largest unit of which there is at least one.
-/

namespace BooleanSearch.Files

def smallUnits : List String :=
  ["KB", "MB", "GB", "TB"]

/-- A size in the first unit of which there are fewer than 1024. -/
def sizeIn (size : Float) : List String → String
  | [] => Decimal.fixed size 1 ++ " PB"
  | unit :: larger =>
    if size < 1024.0 then Decimal.fixed size 1 ++ " " ++ unit else sizeIn (size / 1024.0) larger

/-- The text of a number of bytes. -/
def humanSize (bytes : Number) : Except Failure String :=
  let size := bytes.toFloat
  match bytes with
  | .whole _ =>
    if size.isInf then .error (.overflow "int too large to convert to float") else .ok (text size)
  | .real _ =>
    if size.isInf && size < 0.0 then .error (.overflow "cannot convert float infinity to integer")
    else .ok (text size)
where
  text (size : Float) : String :=
    if size < 1024.0 then toString ((Decimal.truncate? size).getD 0) ++ " B"
    else sizeIn (size / 1024.0) smallUnits

end BooleanSearch.Files
