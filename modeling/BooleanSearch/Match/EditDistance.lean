import BooleanSearch.Text.Lettercase

/-!
# Edit distance and similarity

The least number of insertions, deletions and replacements of single characters that turn one text
into another, computed row by row, and the similarity that it gives.
-/

namespace BooleanSearch

/-- The rest of a row: `diagonal` and `left` are the entries before, `above` the row before. -/
def editRowRest (char : Char) : List Char → Nat → Nat → List Nat → List Nat
  | other :: others, diagonal, left, up :: above =>
    let replaced := if char == other then diagonal else diagonal + 1
    let entry := min (min (left + 1) (up + 1)) replaced
    entry :: editRowRest char others up entry above
  | _, _, _, _ => []

/-- The row after one more character of the first text. -/
def editRow (others : List Char) (row : List Nat) (char : Char) : List Nat :=
  match row with
  | [] => []
  | first :: above => (first + 1) :: editRowRest char others first (first + 1) above

def editDistance (left right : List Char) : Nat :=
  (left.foldl (editRow right) (List.range (right.length + 1))).getLast?.getD 0

/-- The similarity of two texts, from zero to a hundred. -/
def similarityOf (left right : List Char) : Float :=
  let longest := max left.length right.length
  let distance :=
    if longest == 0 then 0.0
    else (editDistance left right).toFloat / longest.toFloat
  (1.0 - distance) * 100.0

def similarity (left right : String) (caseSensitive : Bool) : Float :=
  if caseSensitive then similarityOf left.toList right.toList
  else similarityOf (Text.lower left).toList (Text.lower right).toList

end BooleanSearch
