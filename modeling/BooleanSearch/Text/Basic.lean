/-!
# Texts

A text under search is an array of characters, so that an offset is an index and a slice is an
extraction.
-/

namespace BooleanSearch

/-- A text under search, indexed by code points. -/
abbrev Text := Array Char

/-- A sequence of bytes, as a file holds it. -/
abbrev Bytes := Array UInt8

namespace Text

def ofString (text : String) : Text :=
  text.toList.toArray

def toString (text : Text) : String :=
  String.ofList text.toList

/-- The characters from `start` up to, but without, `stop`. -/
def slice (text : Text) (start stop : Nat) : Text :=
  text.extract start stop

/-- Whether `count` characters of `part` from `index` on agree with those of `text` from
`start + index` on. -/
def agreesFrom (text part : Text) (start : Nat) : Nat → Nat → Bool
  | 0, _ => true
  | count + 1, index =>
    text[start + index]? == part[index]? && agreesFrom text part start count (index + 1)

/-- Whether `part` stands in `text` at offset `start`. -/
def occursAt (text part : Text) (start : Nat) : Bool :=
  start + part.size ≤ text.size && agreesFrom text part start part.size 0

/-- The first offset from `start` on at which `part` stands, looking at `fuel` offsets. -/
def findFrom? (text part : Text) : Nat → Nat → Option Nat
  | 0, _ => none
  | fuel + 1, start =>
    if occursAt text part start then some start else findFrom? text part fuel (start + 1)

/-- The first offset, at or after `start`, at which `part` stands. -/
def find? (text part : Text) (start : Nat) : Option Nat :=
  findFrom? text part (text.size + 1 - start) start

/-- All offsets at which `part` stands, overlapping ones included, in increasing order. -/
def occurrences (text part : Text) : List Nat :=
  (List.range (text.size + 1 - part.size)).filter (occursAt text part)

end Text

/-- Strings joined with a separator between neighbours. -/
def joinWith (separator : String) (parts : List String) : String :=
  String.intercalate separator parts

/-- Parts of a list of characters between the occurrences of one character. -/
def splitChars (separator : Char) : List Char → List (List Char)
  | [] => [[]]
  | char :: rest =>
    if char == separator then [] :: splitChars separator rest
    else
      match splitChars separator rest with
      | [] => [[char]]
      | head :: tail => (char :: head) :: tail

/-- Parts of a string between the occurrences of one character. -/
def splitAtChar (separator : Char) (text : String) : List String :=
  (splitChars separator text.toList).map String.ofList

end BooleanSearch
