import BooleanSearch.Match.Words
import BooleanSearch.Query.Expr

/-!
# Proximity

Two sets of offsets are near each other if some offset of the first and some of the second fall into
words that are at most a given number of words apart.  Since words are numbered in the order of their
offsets, it is enough to look at the nearest candidates on either side.
-/

namespace BooleanSearch

open Query

/-- The distance that a proximity asks for: a whole number that is not negative. -/
def validDistance (distance : Value) : Except Failure Nat :=
  match distance with
  | .int (.ofNat count) => .ok count
  | _ =>
    .error (.error (.ofText .nearArguments
      ("NEAR distance must be a non-negative integer, got " ++ distance.literal)))

/-- The failure of an operand that matches without offsets. -/
def noPositions (operand : Expr) : Failure :=
  .error (.ofText .nearArguments
    ("NEAR operand " ++ operand.render ++ " matches but has no positions to measure from"))

def Failure.isNearArguments : Failure → Bool
  | .error fault => fault.category == .nearArguments
  | _ => false

namespace Proximity

/-- The number of characters that a word and its blank are taken to have. -/
def averageWord : Nat := 6

/-- The number of offsets from which on both sides are first compared by characters. -/
def filterSize : Nat := 10

/-- The number of candidates that are looked at on either side of an offset. -/
def candidateCount : Nat := 10

/-- Whether some pair of offsets is at most `limit` characters apart. -/
def anyWithin (left right : Array Nat) (limit : Nat) : Bool :=
  left.any fun offset =>
    let index := countBelow right offset
    (match right[index]? with
      | some after => after - offset ≤ limit
      | none => false)
    || (0 < index && (match right[index - 1]? with
      | some before => offset - before ≤ limit
      | none => false))

/-- Whether many offsets on both sides are all too far apart by characters. -/
def tooFar (left right : Array Nat) (distance : Nat) : Bool :=
  filterSize < left.size && filterSize < right.size
    && !anyWithin left right (distance * averageWord * 2)

/-- Whether the first candidate that falls into a word is near a word. -/
def firstIsNear (index : WordIndex) (word distance : Nat) : List Nat → Bool
  | [] => false
  | offset :: rest =>
    match index.wordOf? offset with
    | none => firstIsNear index word distance rest
    | some other => ((word : Int) - (other : Int)).natAbs ≤ distance

/-- Whether some candidate of the second set is near an offset of the first. -/
def isNear (index : WordIndex) (right : Array Nat) (distance offset : Nat) : Bool :=
  match index.wordOf? offset with
  | none => false
  | some word =>
    let place := countBelow right offset
    let before := (right.extract (place - candidateCount) place).toList.reverse
    let after := (right.extract place (place + candidateCount)).toList
    firstIsNear index word distance before || firstIsNear index word distance after

/-- Whether two sets of offsets, in increasing order, are near each other. -/
def holds (index : WordIndex) (left right : Array Nat) (distance : Nat) : Bool :=
  left.any (isNear index right distance)

end Proximity

end BooleanSearch
