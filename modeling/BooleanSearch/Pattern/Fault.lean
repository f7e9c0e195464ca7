import BooleanSearch.Text.WholeNumber
import BooleanSearch.Text.Quoted

/-!
# Faults of patterns

Why a pattern cannot be used, each cause with its wording.  A fault found while reading the pattern
has a position; one found afterwards has none.
-/

namespace BooleanSearch.Pattern

/-- Why a pattern cannot be used. -/
inductive Cause
  | escapeAtEnd
  | badEscape (escape : String)
  | incompleteEscape (escape : String)
  | octalOutOfRange (escape : String)
  | missingBrace
  | missingName (what : String)
  | unterminatedName (terminator : Char)
  | undefinedCharacter (name : String)
  | badGroupName (name : String)
  | redefinedGroup (name : String) (index earlier : Nat)
  | unknownGroup (name : String)
  | openGroup
  | sameLookbehind
  | badGroupNumber
  | invalidGroup (index : Nat)
  | unterminatedSet
  | badRange (first last : String)
  | emptyRepeatRange
  | nothingToRepeat
  | multipleRepeat
  | unexpectedEnd
  | unknownExtension (text : String)
  | unterminatedComment
  | unterminatedGroup
  | thirdBranch
  | flagsNotAtStart
  | unknownFlag
  | missingFlag
  | missingFlagEnd
  | missingColon
  | localeFlag
  | conflictingClasses
  | turnedOnGlobal
  | turnedOffClasses
  | turnedOffGlobal
  | turnedOnAndOff
  | unbalanced
  | variableLookbehind
  | wideLookbehind
  | repeatInTemplate (operator : String)
  deriving Repr, DecidableEq

/-- The wording of a cause. -/
def Cause.text : Cause → String
  | .escapeAtEnd => "bad escape (end of pattern)"
  | .badEscape escape => "bad escape " ++ escape
  | .incompleteEscape escape => "incomplete escape " ++ escape
  | .octalOutOfRange escape => "octal escape value " ++ escape ++ " outside of range 0-0o377"
  | .missingBrace => "missing \x7b"
  | .missingName what => "missing " ++ what
  | .unterminatedName terminator =>
    "missing " ++ String.singleton terminator ++ ", unterminated name"
  | .undefinedCharacter name => "undefined character name " ++ Text.quoted name
  | .badGroupName name => "bad character in group name " ++ Text.quoted name
  | .redefinedGroup name index earlier =>
    "redefinition of group name " ++ Text.quoted name ++ " as group " ++ toString index
      ++ "; was group " ++ toString earlier
  | .unknownGroup name => "unknown group name " ++ Text.quoted name
  | .openGroup => "cannot refer to an open group"
  | .sameLookbehind => "cannot refer to group defined in the same lookbehind subpattern"
  | .badGroupNumber => "bad group number"
  | .invalidGroup index => "invalid group reference " ++ toString index
  | .unterminatedSet => "unterminated character set"
  | .badRange first last => "bad character range " ++ first ++ "-" ++ last
  | .emptyRepeatRange => "min repeat greater than max repeat"
  | .nothingToRepeat => "nothing to repeat"
  | .multipleRepeat => "multiple repeat"
  | .unexpectedEnd => "unexpected end of pattern"
  | .unknownExtension text => "unknown extension " ++ text
  | .unterminatedComment => "missing ), unterminated comment"
  | .unterminatedGroup => "missing ), unterminated subpattern"
  | .thirdBranch => "conditional backref with more than two branches"
  | .flagsNotAtStart => "global flags not at the start of the expression"
  | .unknownFlag => "unknown flag"
  | .missingFlag => "missing flag"
  | .missingFlagEnd => "missing -, : or )"
  | .missingColon => "missing :"
  | .localeFlag => "bad inline flags: cannot use 'L' flag with a str pattern"
  | .conflictingClasses => "bad inline flags: flags 'a', 'u' and 'L' are incompatible"
  | .turnedOnGlobal => "bad inline flags: cannot turn on global flag"
  | .turnedOffClasses => "bad inline flags: cannot turn off flags 'a', 'u' and 'L'"
  | .turnedOffGlobal => "bad inline flags: cannot turn off global flag"
  | .turnedOnAndOff => "bad inline flags: flag turned on and off"
  | .unbalanced => "unbalanced parenthesis"
  | .variableLookbehind => "look-behind requires fixed-width pattern"
  | .wideLookbehind => "looks too much behind"
  | .repeatInTemplate operator => "internal: unsupported template operator " ++ operator

/-- A pattern that cannot be used: a fault of its text, a repetition count or number beyond every
limit, or two contradictory choices of character classes. -/
inductive Fault
  | invalid (cause : Cause) (position : Option Nat)
  | repetitionTooLarge
  | numberTooLong (digits : Nat)
  | conflictingFlags
  deriving Repr, DecidableEq

/-- The wording for a repetition count beyond every limit. -/
def repetitionTooLargeText : String :=
  "the repetition number is too large"

/-- The wording for two contradictory choices of character classes. -/
def conflictingFlagsText : String :=
  "ASCII and UNICODE flags are incompatible"

/-- The line and column of a position, both counted from one. -/
def lineAndColumn (source : List Char) (position : Nat) : Nat × Nat :=
  let before := source.take position
  (before.count '\n' + 1, (before.reverse.takeWhile (· != '\n')).length + 1)

/-- The wording of a cause at a position; the line and column are told where the pattern has more
than one line. -/
def Cause.textAt (cause : Cause) (source : String) : Option Nat → String
  | none => cause.text
  | some position =>
    let text := cause.text ++ " at position " ++ toString position
    let chars := source.toList
    if chars.contains '\n' then
      let (line, column) := lineAndColumn chars position
      text ++ " (line " ++ toString line ++ ", column " ++ toString column ++ ")"
    else text

end BooleanSearch.Pattern
