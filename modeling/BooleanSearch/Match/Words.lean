import BooleanSearch.Text.Basic
import BooleanSearch.Text.Blank
import BooleanSearch.Value

/-!
# Words of a text

A word is a maximal run of characters that are not blank.  The index of a text lists its words in
order, so the word that holds an offset is found by halving.
-/

namespace BooleanSearch

/-- The number of values below `bound`, or equal to it if `inclusive`, in a sorted array; looked for
between two indices. -/
def partitionPoint (values : Array Nat) (inclusive : Bool) (bound : Nat) : Nat → Nat → Nat → Nat
  | 0, low, _ => low
  | fuel + 1, low, high =>
    if low < high then
      let middle := (low + high) / 2
      match values[middle]? with
      | none => low
      | some value =>
        if value < bound || (inclusive && value == bound) then
          partitionPoint values inclusive bound fuel (middle + 1) high
        else partitionPoint values inclusive bound fuel low middle
    else low

/-- The number of values of a sorted array that are below a bound. -/
def countBelow (values : Array Nat) (bound : Nat) : Nat :=
  partitionPoint values false bound (values.size + 1) 0 values.size

/-- The number of values of a sorted array that are at most a bound. -/
def countUpTo (values : Array Nat) (bound : Nat) : Nat :=
  partitionPoint values true bound (values.size + 1) 0 values.size

/-- The words of a text: the offsets of their first and of their last characters. -/
structure WordIndex where
  starts : Array Nat
  lasts : Array Nat
  deriving Repr, DecidableEq, Inhabited

namespace WordIndex

/-- An index without words. -/
def empty : WordIndex := ⟨#[], #[]⟩

/-- Adds the character at an offset: a blank ends a word, any other begins or continues one.
`inWord` tells whether the character before it belongs to a word. -/
def step (state : WordIndex × Bool × Nat) (char : Char) : WordIndex × Bool × Nat :=
  let (index, inWord, offset) := state
  if Text.isBlank char then (index, false, offset + 1)
  else if inWord then
    (⟨index.starts, index.lasts.setIfInBounds (index.lasts.size - 1) offset⟩, true, offset + 1)
  else (⟨index.starts.push offset, index.lasts.push offset⟩, true, offset + 1)

/-- The index of a text. -/
def build (content : Text) : WordIndex :=
  (content.foldl step (empty, false, 0)).1

/-- The number of words. -/
def size (index : WordIndex) : Nat :=
  index.starts.size

/-- The first and last offsets of every word. -/
def spans (index : WordIndex) : List (Nat × Nat) :=
  index.starts.toList.zip index.lasts.toList

/-- The number of the word that holds an offset, if it does not fall between words. -/
def wordOf? (index : WordIndex) (offset : Nat) : Option Nat :=
  match countUpTo index.starts offset with
  | 0 => none
  | count + 1 =>
    match index.lasts[count]? with
    | none => none
    | some last => if offset ≤ last then some count else none

/-- The number of the word at any offset; before the text there is none. -/
def wordAt? (index : WordIndex) (offset : Int) : Option Nat :=
  if offset < 0 then none else index.wordOf? offset.toNat

/-- The distance in words between two offsets, if both fall into words. -/
def distance? (index : WordIndex) (first second : Int) : Option Nat :=
  match index.wordAt? first, index.wordAt? second with
  | some left, some right => some (((left : Int) - (right : Int)).natAbs)
  | _, _ => none

/-- The estimated bytes of an index. -/
def footprint (index : WordIndex) : Nat :=
  24 * index.size

/-- An index as plain data that keeps its estimated size. -/
def toValue (index : WordIndex) : Value :=
  .record "WordIndex"
    [("word_index", .list (index.spans.map fun span => .list [.int span.1, .int span.2]))]
    (some index.footprint)

end WordIndex

end BooleanSearch
