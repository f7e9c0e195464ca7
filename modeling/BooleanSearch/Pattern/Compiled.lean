import BooleanSearch.Error
import BooleanSearch.Pattern.Matcher

/-!
# Compiled patterns and their matches

A pattern is compiled from its source and its letters.  Its matches in a text do not overlap: each
search goes on where the last match ended, and a match that began and ended at one place is not
found there twice.
-/

namespace BooleanSearch.Pattern

/-- A pattern ready for searching.  `opening` is what the first character of a match has to be
beside what the node says. -/
structure Compiled where
  source : String
  flags : Flags
  groups : Nat
  names : List (String × Nat)
  node : Node
  opening : Option CharTest := none
  deriving Repr, DecidableEq

/-- Compiles a source under some switches. -/
def compileWith (source : String) (flags : Flags) : Except Fault Compiled := do
  let read ← readPattern source flags
  let node ← read.tree.resolve read.groupWidth read.flags
  let opening := read.tree.opening? read.groupWidth read.flags
  pure ⟨source, read.flags, read.groups, read.names, node, opening⟩

/-- The failure that a fault of a source amounts to. -/
def Fault.failure (source : String) : Fault → Failure
  | .invalid cause position =>
    .error ⟨.pattern source (some (cause.textAt source position)), none⟩
  | .repetitionTooLarge => .overflow repetitionTooLargeText
  | .numberTooLong digits => .badValue (Text.tooManyDigits digits)
  | .conflictingFlags => .badValue conflictingFlagsText

/-- The switches of the letters after a pattern literal. -/
def flagsOfLetters (letters : String) : Except Failure Flags :=
  letters.toList.foldlM
    (fun flags letter =>
      match Flags.ofLiteralLetter? letter with
      | some flag => .ok (flags.union flag)
      | none =>
        let reason := "unknown flag '" ++ String.singleton letter ++ "'"
        .error (.error ⟨.pattern letters (some reason), none⟩))
    Flags.none

/-- Compiles a source with the letters of a pattern literal. -/
def compile (source letters : String) : Except Failure Compiled := do
  let flags ← flagsOfLetters letters
  match compileWith source flags with
  | .ok compiled => pure compiled
  | .error fault => throw (fault.failure source)

namespace Compiled

/-- Whether a match may begin at an offset. -/
def mayOpen (pattern : Compiled) (text : Text) (offset : Nat) : Bool :=
  match pattern.opening with
  | none => true
  | some test => passes text test offset

/-- The end of the match that begins at an offset.  If the match has to move, it must not end
where it begins. -/
def matchAt? (pattern : Compiled) (text : Text) (mustMove : Bool) (offset : Nat) : Option Nat :=
  let accept : Continuation := fun stop captures =>
    if mustMove && stop == offset then none else some (stop, captures)
  if pattern.mayOpen text offset then
    (pattern.node.run? text offset (Array.replicate (pattern.groups + 1) none) accept).map Prod.fst
  else none

/-- The first match that begins at or after an offset, of which `fuel` offsets are tried. -/
def searchFrom? (pattern : Compiled) (text : Text) : Nat → Bool → Nat → Option (Nat × Nat)
  | 0, _, _ => none
  | fuel + 1, mustMove, offset =>
    match pattern.matchAt? text mustMove offset with
    | some stop => some (offset, stop)
    | none => searchFrom? pattern text fuel false (offset + 1)

/-- The matches from an offset on, at most `fuel` of them, after those already found. -/
def spansFrom (pattern : Compiled) (text : Text) :
    Nat → Bool → Nat → Array (Nat × Nat) → Array (Nat × Nat)
  | 0, _, _, found => found
  | fuel + 1, mustMove, offset, found =>
    match pattern.searchFrom? text (text.size + 1 - offset) mustMove offset with
    | none => found
    | some (start, stop) =>
      spansFrom pattern text fuel (start == stop) stop (found.push (start, stop))

/-- All matches in a text, from left to right. -/
def spans (pattern : Compiled) (text : Text) : List (Nat × Nat) :=
  (pattern.spansFrom text (2 * text.size + 3) false 0 #[]).toList

/-- The offsets at which matches begin. -/
def starts (pattern : Compiled) (text : Text) : List Nat :=
  (pattern.spans text).map Prod.fst

def ignoringCase (pattern : Compiled) : Compiled :=
  if pattern.flags.ignoreCase then pattern
  else
    match compileWith pattern.source (pattern.flags.union { ignoreCase := true }) with
    | .ok folded => folded
    | .error _ => pattern

end Compiled

end BooleanSearch.Pattern
