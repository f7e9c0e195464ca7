import BooleanSearch.Match.Evaluate
import BooleanSearch.Proofs.Session.Caches

/-!
# Verdicts

What an evaluation gives, told without sessions: where terms are found, what the operands of a
proximity contribute, and whether a query holds.  Every evaluation in a session whose caches are
truthful gives this verdict.
-/

namespace BooleanSearch

open Query

/-! ## Verdicts without sessions -/

/-- Where a text stands: exactly, or else fuzzily if there is a matcher for that. -/
def textSpots (fuzzily : Bool) (content : Text) (text : String) (options : MatchOptions)
    (fuzzyAllowed : Bool) : List Nat :=
  if text.isEmpty then []
  else
    match exactPositions content text options with
    | [] =>
      if fuzzyAllowed && fuzzily && Fuzzy.minTermLength ≤ text.length then
        let result := Fuzzy.search content text options.caseSensitive options.wholeWord
          options.threshold
        if result.isMatch then result.positions else []
      else []
    | exact => exact

/-- Where a term stands. -/
def termSpots (fuzzily : Bool) (content : Text) (term : Literal) (options : MatchOptions)
    (context : MatchContext) : List Nat :=
  match term with
  | .pattern source letters => patternPositions content source letters options.caseSensitive
  | .plain text => textSpots fuzzily content text options (options.fuzzyAllowed context)
  | .fuzzy text => textSpots fuzzily content text options true

/-- Where the terms of a query stand that are not below a negation. -/
def querySpots (fuzzily : Bool) (content : Text) (query : Expr) (options : MatchOptions)
    (context : MatchContext) : List Nat :=
  sortedUnion (query.positiveLiterals.flatMap fun term =>
    termSpots fuzzily content term options context)

/-- Whether a content keeps to the size limit. -/
def sizeVerdict (content : Text) (options : MatchOptions) : Except Failure Unit :=
  match options.sizeLimit with
  | none => .ok ()
  | some limit =>
    if limit < content.size then .error (.error ⟨.tooLarge content.size limit none, none⟩)
    else .ok ()

/-- What an operand of a proximity contributes, given whether it holds. -/
def operandSpots (fuzzily : Bool) (content : Text) (options : MatchOptions) (operand : Expr)
    (verdict : Except Failure Bool) : Except Failure (List Nat) :=
  match operand with
  | .literal term => .ok (termSpots fuzzily content term options .near)
  | _ => do
    sizeVerdict content options
    if ← verdict then
      if (querySpots fuzzily content operand options .near).isEmpty then
        .error (noPositions operand)
      else .ok (querySpots fuzzily content operand options .near)
    else .ok []

/-- Whether two sets of offsets are near each other in a content. -/
def spotsNear (content : Text) (distance : Nat) (left right : List Nat) : Bool :=
  let leftArray := (inOrder left).toArray
  let rightArray := (inOrder right).toArray
  !left.isEmpty && !right.isEmpty && !Proximity.tooFar leftArray rightArray distance
    && Proximity.holds (WordIndex.build content) leftArray rightArray distance

/-- The verdict on two operands.  The second one is not looked at if the first has no offsets. -/
def measureVerdict (content : Text) (distance : Nat)
    (left right : Except Failure (List Nat)) : Except Failure Bool := do
  let leftSpots ← left
  if leftSpots.isEmpty then .ok false
  else do
    let rightSpots ← right
    .ok (spotsNear content distance leftSpots rightSpots)

/-- A verdict with unusable arguments counted as no match. -/
def tolerated (verdict : Except Failure Bool) : Except Failure Bool :=
  match verdict with
  | .ok value => .ok value
  | .error failure => if failure.isNearArguments then .ok false else .error failure

/-- The verdict on a proximity, given what its operands contribute. -/
def proximityVerdict (content : Text) (distance : Value)
    (left right : Except Failure (List Nat)) : Except Failure Bool :=
  match validDistance distance with
  | .error _ => .ok false
  | .ok count =>
    if content.isEmpty then .ok false else tolerated (measureVerdict content count left right)

/-- Whether a query holds, whatever the size of the content. -/
def verdict (fuzzily : Bool) (content : Text) (options : MatchOptions) :
    Expr → Except Failure Bool
  | .literal term => .ok (!(termSpots fuzzily content term options .leaf).isEmpty)
  | .not child => do
    return !(← verdict fuzzily content options child)
  | .and left right => do
    if ← verdict fuzzily content options left then verdict fuzzily content options right
    else pure false
  | .or left right => do
    if ← verdict fuzzily content options left then pure true
    else verdict fuzzily content options right
  | .near left right distance =>
    proximityVerdict content distance
      (operandSpots fuzzily content options left (verdict fuzzily content options left))
      (operandSpots fuzzily content options right (verdict fuzzily content options right))

/-- Whether a query holds of a content that keeps to the size limit. -/
def queryVerdict (fuzzily : Bool) (query : Expr) (content : Text) (options : MatchOptions) :
    Except Failure Bool := do
  sizeVerdict content options
  verdict fuzzily content options query

/-- What an expression contributes as an operand of a proximity. -/
def resolvedSpots (fuzzily : Bool) (content : Text) (operand : Expr) (options : MatchOptions) :
    Except Failure (List Nat) :=
  operandSpots fuzzily content options operand (verdict fuzzily content options operand)

end BooleanSearch
