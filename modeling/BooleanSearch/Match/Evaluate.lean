import BooleanSearch.Match.Near
import BooleanSearch.Match.Term

/-!
# Evaluating queries

Whether a content satisfies a query.  Conjunction and disjunction stop as soon as their result is
known.  A proximity measures from the offsets of its operands; an operand that is not a term
contributes the offsets of its terms that do not stand below a negation.  The depth of a query is no
reason to fail: the limit of a program's call stack is not modelled.
-/

namespace BooleanSearch

open Query

def inOrder (offsets : List Nat) : List Nat :=
  offsets.mergeSort fun left right => left ≤ right

/-- Offsets in increasing order, each once. -/
def sortedUnion (offsets : List Nat) : List Nat :=
  (inOrder offsets).foldr
    (fun offset rest => if rest.head? == some offset then rest else offset :: rest) []

/-- The offsets of several terms. -/
def allPositions (content : Text) (options : MatchOptions) (context : MatchContext) :
    List Literal → Search (List Nat)
  | [] => pure []
  | term :: rest => do
    let here ← termPositions content term options context
    let others ← allPositions content options context rest
    pure (here ++ others)

/-- The offsets of the terms of a query that do not stand below a negation. -/
def positions (content : Text) (query : Expr) (options : MatchOptions) (context : MatchContext) :
    Search (List Nat) := do
  return sortedUnion (← allPositions content options context query.positiveLiterals)

/-- Refuses a content beyond the size limit. -/
def checkSize (content : Text) (options : MatchOptions) : Search Unit :=
  match options.sizeLimit with
  | none => pure ()
  | some limit =>
    if limit < content.size then throw (.error ⟨.tooLarge content.size limit none, none⟩)
    else pure ()

/-- The offsets of an operand of a proximity, given how its verdict is found.  An operand that is
satisfied must have offsets. -/
def operandPositions (content : Text) (options : MatchOptions) (operand : Expr)
    (verdict : Search Bool) : Search (List Nat) :=
  match operand with
  | .literal term => termPositions content term options .near
  | _ => do
    checkSize content options
    if ← verdict then
      let found ← positions content operand options .near
      if found.isEmpty then throw (noPositions operand) else pure found
    else pure []

/-- The verdict on two operands, given how their offsets are found.  The second operand is looked
for only if the first is there. -/
def measure (content : Text) (distance : Nat) (left right : Search (List Nat)) : Search Bool := do
  let leftOffsets ← left
  if leftOffsets.isEmpty then pure false
  else
    let rightOffsets ← right
    if rightOffsets.isEmpty then pure false
    else
      let leftArray := (inOrder leftOffsets).toArray
      let rightArray := (inOrder rightOffsets).toArray
      if Proximity.tooFar leftArray rightArray distance then pure false
      else
        let index ← Search.wordIndex content
        pure (Proximity.holds index leftArray rightArray distance)

/-- The report of arguments that a proximity cannot use. -/
def nearRecord (failure : Failure) (context : List (String × Value)) : Log.Record where
  level := Log.warningLevel
  logger := "fileseek.search.near"
  message := failure.message
  context := context

/-- Runs a step; arguments that a proximity cannot use are reported and count as no match. -/
def toleratingArguments (left right : Expr) (step : Search Bool) : Search Bool :=
  tryCatch step fun failure =>
    if failure.isNearArguments then do
      Search.report (nearRecord failure
        [("left", .text left.render), ("right", .text right.render)])
      pure false
    else throw failure

def nearKey (left right : Expr) (distance : Nat) (options : MatchOptions) (content : Text) :
    String :=
  makeKey [.text (contentKey content), .text left.render, .text right.render, .int distance,
    .text options.key]

/-- The verdict on a proximity, given how the offsets of its operands are found. -/
def nearVerdict (content : Text) (left right : Expr) (distance : Value) (options : MatchOptions)
    (leftOffsets rightOffsets : Search (List Nat)) : Search Bool :=
  match validDistance distance with
  | .error failure => do
    Search.report (nearRecord failure [("distance", distance)])
    pure false
  | .ok count =>
    if content.isEmpty then pure false
    else
      Search.cached Session.near (fun session cache => { session with near := some cache })
        (nearKey left right count options) content
        (toleratingArguments left right (measure content count leftOffsets rightOffsets))

/-- Whether a content satisfies a query, whatever its size. -/
def holds (content : Text) (options : MatchOptions) : Expr → Search Bool
  | .literal term => termMatches content term options .leaf
  | .not child => do
    return !(← holds content options child)
  | .and left right => do
    if ← holds content options left then holds content options right else pure false
  | .or left right => do
    if ← holds content options left then pure true else holds content options right
  | .near left right distance =>
    nearVerdict content left right distance options
      (operandPositions content options left (holds content options left))
      (operandPositions content options right (holds content options right))

/-- Whether a content satisfies a query. -/
def evaluate (query : Expr) (content : Text) (options : MatchOptions) : Search Bool := do
  checkSize content options
  holds content options query

/-- The offsets of an operand of a proximity. -/
def resolvePositions (content : Text) (operand : Expr) (options : MatchOptions) :
    Search (List Nat) :=
  operandPositions content options operand (holds content options operand)

/-- The verdict on two operands at a distance. -/
def evaluateNear (content : Text) (left right : Expr) (distance : Value)
    (options : MatchOptions) : Search Bool :=
  nearVerdict content left right distance options (resolvePositions content left options)
    (resolvePositions content right options)

end BooleanSearch
