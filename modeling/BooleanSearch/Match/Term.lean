import BooleanSearch.Match.Session
import BooleanSearch.Query.Expr

/-!
# Where terms stand

The offsets at which a term begins.  A plain text is found wherever it stands, overlapping itself
or not, or only as a whole word; a pattern where it matches.  A text that is not found may be looked
for fuzzily.
-/

namespace BooleanSearch

open Query

/-- Where a text stands in a content.  If a change of case changes lengths, the content itself is
scanned by a pattern that ignores case. -/
def substringPositions (content : Text) (term : String) (caseSensitive : Bool) : List Nat :=
  let part := Text.ofString term
  if part.isEmpty then []
  else if caseSensitive then Text.occurrences content part
  else
    let haystack := Text.lowerArray content
    let needle := Text.lowerArray part
    if haystack.size == content.size && needle.size == part.size then
      Text.occurrences haystack needle
    else
      (Pattern.spansOf ("(?=" ++ Pattern.escape term ++ ")") (Pattern.caseFlags false) content).map
        Prod.fst

/-- Where a pattern matches, ignoring case unless the options forbid it. -/
def patternPositions (content : Text) (source letters : String) (caseSensitive : Bool) :
    List Nat :=
  match Pattern.compile source letters with
  | .error _ => []
  | .ok pattern => (if caseSensitive then pattern else pattern.ignoringCase).starts content

/-- Where a text stands exactly, under the options. -/
def exactPositions (content : Text) (text : String) (options : MatchOptions) : List Nat :=
  if options.wholeWord then
    (Pattern.wholeWordSpans text options.caseSensitive content).map Prod.fst
  else substringPositions content text options.caseSensitive

def fuzzyRecord (text : String) (result : FuzzyResult) : Log.Record where
  level := Log.debugLevel
  logger := "fileseek.search.terms"
  message :=
    "Fuzzy match for " ++ Text.quoted text ++ " (score " ++ Decimal.fixed result.score 1 ++ ", "
      ++ toString result.positions.length ++ " positions)"
  context := []

/-- Where a text stands: exactly, or else fuzzily if that is asked for and possible. -/
def textPositions (content : Text) (text : String) (options : MatchOptions)
    (fuzzyAllowed : Bool) : Search (List Nat) := do
  if text.isEmpty then pure []
  else
    match exactPositions content text options with
    | [] =>
      let session ← get
      if fuzzyAllowed && session.matcher.isSome && Fuzzy.minTermLength ≤ text.length then
        let result ← Search.fuzzySearch content text options.caseSensitive options.wholeWord
          options.threshold
        if result.isMatch then
          Search.report (fuzzyRecord text result)
          pure result.positions
        else pure []
      else pure []
    | exact => pure exact

/-- Where a term stands, in increasing order. -/
def termPositions (content : Text) (term : Literal) (options : MatchOptions)
    (context : MatchContext) : Search (List Nat) :=
  match term with
  | .pattern source letters =>
    pure (patternPositions content source letters options.caseSensitive)
  | .plain text => textPositions content text options (options.fuzzyAllowed context)
  | .fuzzy text => textPositions content text options true

def termMatches (content : Text) (term : Literal) (options : MatchOptions)
    (context : MatchContext) : Search Bool := do
  return !(← termPositions content term options context).isEmpty

end BooleanSearch
