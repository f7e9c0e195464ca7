import BooleanSearch.Value

/-!
# Estimated sizes

The number of bytes that a value is taken to occupy: two for each character, eight for a number,
four for a truth value, and for anything composed the sum of its parts.
-/

namespace BooleanSearch.Value

mutual

/-- The estimated size of a value. -/
def footprint : Value → Nat
  | .null => 0
  | .bool _ => 4
  | .int _ => 8
  | .float _ => 8
  | .text value => 2 * value.length
  | .bytes value => value.length
  | .list items => footprints items
  | .tuple items => footprints items
  | .set items => footprints items
  | .dict entries => entryFootprints entries
  | .record _ fields size =>
    match size with
    | some declared => declared
    | none => fieldFootprints fields

/-- The estimated size of several values. -/
def footprints : List Value → Nat
  | [] => 0
  | first :: rest => footprint first + footprints rest

/-- The estimated size of the entries of a dictionary. -/
def entryFootprints : List (Value × Value) → Nat
  | [] => 0
  | (key, value) :: rest => footprint key + footprint value + entryFootprints rest

/-- The estimated size of the fields of a record. -/
def fieldFootprints : List (String × Value) → Nat
  | [] => 0
  | (_, value) :: rest => footprint value + fieldFootprints rest

end

end BooleanSearch.Value
