import BooleanSearch.Pattern.Node
import BooleanSearch.Text.Basic

/-!
# Matching by backtracking

A node is matched at an offset with a continuation that stands for the rest of the pattern: the
node tries its possibilities in order, and the first one that the continuation accepts wins.  A
repetition that has reached its least count goes on only if its last optional round moved.
-/

namespace BooleanSearch.Pattern

/-- The span of each group, by number. -/
abbrev Captures := Array (Option (Nat × Nat))

/-- Where a match ends and what its groups hold. -/
abbrev Outcome := Option (Nat × Captures)

/-- The rest of a pattern. -/
abbrev Continuation := Nat → Captures → Outcome

/-- The continuation that accepts. -/
def stop : Continuation := fun offset captures => some (offset, captures)

/-- Whether the character at an offset is a word character; outside of the text there is none. -/
def wordAt (text : Text) (ascii : Bool) (offset : Nat) : Bool :=
  match text[offset]? with
  | none => false
  | some char => ClassKind.word.holds ascii char.toNat

/-- Whether words begin or end at an offset.  An empty text has no such place. -/
def atBoundary (text : Text) (ascii : Bool) (offset : Nat) : Bool :=
  let before := if offset == 0 then false else wordAt text ascii (offset - 1)
  before != wordAt text ascii offset

/-- Whether an offset is a place of the given kind. -/
def Place.holds (text : Text) (offset : Nat) : Place → Bool
  | .textStart => offset == 0
  | .lineStart => offset == 0 || text[offset - 1]? == some '\n'
  | .textEnd => offset == text.size
  | .lastLineEnd =>
    offset == text.size || (offset + 1 == text.size && text[offset]? == some '\n')
  | .lineEnd => offset == text.size || text[offset]? == some '\n'
  | .boundary ascii => !text.isEmpty && atBoundary text ascii offset
  | .insideWord ascii => !text.isEmpty && !atBoundary text ascii offset

/-- Whether the character at an offset passes a test. -/
def passes (text : Text) (test : CharTest) (offset : Nat) : Bool :=
  match text[offset]? with
  | none => false
  | some char => test.accepts char

/-- The number of characters from an offset on that pass a test, at most `fuel`. -/
def runLength (text : Text) (test : CharTest) (offset : Nat) : Nat → Nat → Nat
  | 0, count => count
  | fuel + 1, count =>
    if passes text test (offset + count) then runLength text test offset fuel (count + 1)
    else count

/-- Continues after `least + extra` characters, then after fewer and fewer, down to `least`. -/
def longestFirst (offset least : Nat) (captures : Captures) (rest : Continuation) :
    Nat → Outcome
  | 0 => rest (offset + least) captures
  | extra + 1 =>
    match rest (offset + least + (extra + 1)) captures with
    | some result => some result
    | none => longestFirst offset least captures rest extra

/-- Continues after `count` characters, then after more and more, at most `extra` more. -/
def shortestFirst (offset count : Nat) (captures : Captures) (rest : Continuation) :
    Nat → Outcome
  | 0 => rest (offset + count) captures
  | extra + 1 =>
    match rest (offset + count) captures with
    | some result => some result
    | none => shortestFirst offset (count + 1) captures rest extra

/-- Matches a repetition of a single character. -/
def matchRun (text : Text) (mode : RepeatMode) (least : Nat) (most : Option Nat) (test : CharTest)
    (offset : Nat) (captures : Captures) (rest : Continuation) : Outcome :=
  let available := text.size - offset
  let bound := match most with
    | none => available
    | some count => min count available
  let count := runLength text test offset bound 0
  if count < least then none
  else
    match mode with
    | .greedy => longestFirst offset least captures rest (count - least)
    | .lazy => shortestFirst offset least captures rest (count - least)
    | .possessive => rest (offset + count) captures

/-- Whether another round may follow `count` rounds. -/
def mayRepeat (most : Option Nat) (count : Nat) : Bool :=
  match most with
  | none => true
  | some bound => count < bound

/-- Rounds of a greedy repetition: another round is tried before the rest.  `last` is where the
last optional round began. -/
def greedyRounds (body : Nat → Captures → Continuation → Outcome) (least : Nat)
    (most : Option Nat) (rest : Continuation) :
    Nat → Nat → Option Nat → Nat → Captures → Outcome
  | 0, _, _, _, _ => none
  | fuel + 1, count, last, offset, captures =>
    if count < least then
      body offset captures fun offset captures =>
        greedyRounds body least most rest fuel (count + 1) last offset captures
    else if mayRepeat most count && last != some offset then
      match body offset captures fun next captures =>
          greedyRounds body least most rest fuel (count + 1) (some offset) next captures with
      | some result => some result
      | none => rest offset captures
    else rest offset captures

/-- Rounds of a lazy repetition: the rest is tried before another round. -/
def lazyRounds (body : Nat → Captures → Continuation → Outcome) (least : Nat)
    (most : Option Nat) (rest : Continuation) :
    Nat → Nat → Option Nat → Nat → Captures → Outcome
  | 0, _, _, _, _ => none
  | fuel + 1, count, last, offset, captures =>
    if count < least then
      body offset captures fun offset captures =>
        lazyRounds body least most rest fuel (count + 1) last offset captures
    else
      match rest offset captures with
      | some result => some result
      | none =>
        if mayRepeat most count && last != some offset then
          body offset captures fun next captures =>
            lazyRounds body least most rest fuel (count + 1) (some offset) next captures
        else none

/-- Rounds of a possessive repetition: each round is matched on its own, and none is taken
back. -/
def possessiveRounds (body : Nat → Captures → Continuation → Outcome) (least : Nat)
    (most : Option Nat) : Nat → Nat → Option Nat → Nat → Captures → Outcome
  | 0, _, _, _, _ => none
  | fuel + 1, count, last, offset, captures =>
    if count < least then
      match body offset captures stop with
      | some (next, captures) => possessiveRounds body least most fuel (count + 1) last next captures
      | none => none
    else if mayRepeat most count && last != some offset then
      match body offset captures stop with
      | some (next, nextCaptures) =>
        possessiveRounds body least most fuel (count + 1) (some offset) next nextCaptures
      | none => some (offset, captures)
    else some (offset, captures)

/-- Whether two equally long stretches of the text agree under a rule. -/
def sameStretch (text : Text) (rule : CaseRule) (first second : Nat) (length : Nat) : Bool :=
  second + length ≤ text.size
    && (List.range length).all fun index =>
      match text[first + index]?, text[second + index]? with
      | some left, some right => rule.fold left.toNat == rule.fold right.toNat
      | _, _ => false

/-- Matches a node at an offset, followed by the rest of the pattern. -/
def Node.run? : Node → Text → Nat → Captures → Continuation → Outcome
  | .empty, _, offset, captures, rest => rest offset captures
  | .char test, text, offset, captures, rest =>
    if passes text test offset then rest (offset + 1) captures else none
  | .place kind, text, offset, captures, rest =>
    if kind.holds text offset then rest offset captures else none
  | .run mode least most test, text, offset, captures, rest =>
    matchRun text mode least most test offset captures rest
  | .repeated mode least most body, text, offset, captures, rest =>
    let fuel := least + (text.size - offset) + 3
    match mode with
    | .greedy => greedyRounds (body.run? text) least most rest fuel 0 none offset captures
    | .lazy => lazyRounds (body.run? text) least most rest fuel 0 none offset captures
    | .possessive =>
      match possessiveRounds (body.run? text) least most fuel 0 none offset captures with
      | some (next, captures) => rest next captures
      | none => none
  | .capture index body, text, offset, captures, rest =>
    body.run? text offset captures fun next captures =>
      rest next (captures.setIfInBounds index (some (offset, next)))
  | .atomic body, text, offset, captures, rest =>
    match body.run? text offset captures stop with
    | some (next, captures) => rest next captures
    | none => none
  | .look back negative body, text, offset, captures, rest =>
    if offset < back then (if negative then rest offset captures else none)
    else
      match body.run? text (offset - back) captures stop with
      | some (_, found) => if negative then none else rest offset found
      | none => if negative then rest offset captures else none
  | .backreference index rule, text, offset, captures, rest =>
    match (captures[index]?).getD none with
    | none => none
    | some (first, last) =>
      if sameStretch text rule first offset (last - first) then
        rest (offset + (last - first)) captures
      else none
  | .conditional index yes no, text, offset, captures, rest =>
    if ((captures[index]?).getD none).isSome then yes.run? text offset captures rest
    else no.run? text offset captures rest
  | .seq first second, text, offset, captures, rest =>
    first.run? text offset captures fun next captures => second.run? text next captures rest
  | .choice first second, text, offset, captures, rest =>
    match first.run? text offset captures rest with
    | some result => some result
    | none => second.run? text offset captures rest

end BooleanSearch.Pattern
