import BooleanSearch.Decimal.Number
import BooleanSearch.Match.EditDistance
import BooleanSearch.Match.Words
import BooleanSearch.Pattern.Escaped

/-!
# Fuzzy search

A term is looked for exactly first.  If it is not found, every run of as many words as the term has
is compared with it, words being taken without surrounding punctuation, and the runs whose
similarity reaches the threshold match.
-/

namespace BooleanSearch

/-- What a fuzzy search found: whether something matches, the best similarity, and where the
matching runs of words begin. -/
structure FuzzyResult where
  isMatch : Bool
  score : Float
  positions : List Nat
  deriving Inhabited

/-- The estimated bytes of a result. -/
def FuzzyResult.footprint (result : FuzzyResult) : Nat :=
  32 + 8 * result.positions.length

namespace Fuzzy

/-- The result of a search that cannot match. -/
def noMatch : FuzzyResult :=
  ⟨false, 0.0, []⟩

/-- The least length of a term that is looked for fuzzily. -/
def minTermLength : Nat := 3

def defaultThreshold : Number := .real 70.0

/-- A term with single spaces between its words. -/
def normalize (term : String) : String :=
  String.ofList (List.intercalate [' '] (Text.splitBlanks term.toList))

/-- A word without the characters around its word characters, and where it begins. -/
def core? (content : Text) (span : Nat × Nat) : Option (Nat × List Char) :=
  let chars := (content.slice span.1 (span.2 + 1)).toList
  let outside (char : Char) : Bool := !Text.isWordChar char
  let skipped := (chars.takeWhile outside).length
  let inner := ((chars.drop skipped).reverse.dropWhile outside).reverse
  if inner.isEmpty then none else some (span.1 + skipped, inner)

/-- The words of a content without surrounding punctuation. -/
def cores (content : Text) : Array (Nat × List Char) :=
  ((WordIndex.build content).spans.filterMap (core? content)).toArray

/-- Where a term stands exactly; occurrences that overlap an earlier one are passed over. -/
def exactPositions (content : Text) (term : String) (caseSensitive wholeWord : Bool) : List Nat :=
  let source := if wholeWord then Pattern.wholeWordSource term else Pattern.escape term
  (Pattern.spansOf source (Pattern.caseFlags caseSensitive) content).map Prod.fst

/-- The comparison of one run of words with a needle, if their lengths are comparable. -/
def windowScore? (needle : List Char) (caseSensitive : Bool) (words : Array (Nat × List Char))
    (size first : Nat) : Option Float :=
  let window := List.intercalate [' '] ((words.extract first (first + size)).toList.map Prod.snd)
  let length := window.length.toFloat
  let reference := needle.length.toFloat
  if 0.7 * reference ≤ length && length ≤ 1.3 * reference then
    let shown := if caseSensitive then window else (Text.lowerArray window.toArray).toList
    some (similarityOf needle shown)
  else none

/-- The best score so far and the matching positions, most recent first. -/
structure Progress where
  best : Float
  found : List Nat

/-- Looks at the run of words that begins at a number. -/
def Progress.look (needle : List Char) (caseSensitive : Bool) (cutoff : Number)
    (words : Array (Nat × List Char)) (size : Nat) (progress : Progress) (first : Nat) : Progress :=
  match windowScore? needle caseSensitive words size first with
  | none => progress
  | some score =>
    let best := if progress.best < score then score else progress.best
    if cutoff.toFloat ≤ score then
      ⟨best, (words[first]?.map Prod.fst).toList ++ progress.found⟩
    else ⟨best, progress.found⟩

/-- The search among runs of words. -/
def searchWindows (content : Text) (term : String) (caseSensitive : Bool) (cutoff : Number) :
    FuzzyResult :=
  let needle := (if caseSensitive then term else Text.lower term).toList
  let size := needle.count ' ' + 1
  let words := cores content
  let last := (List.range (words.size + 1 - size)).foldl
    (Progress.look needle caseSensitive cutoff words size) ⟨0.0, []⟩
  ⟨!last.found.isEmpty, Decimal.roundTo last.best 2, last.found.reverse⟩

def searchNormalized (content : Text) (term : String) (caseSensitive wholeWord : Bool)
    (cutoff : Number) : FuzzyResult :=
  match exactPositions content term caseSensitive wholeWord with
  | [] => searchWindows content term caseSensitive cutoff
  | exact => ⟨true, 100.0, exact⟩

/-- Whether a search is made at all: the term must be long enough and the content not empty. -/
def searchable (content : Text) (term : String) : Bool :=
  minTermLength ≤ (normalize term).length && !content.isEmpty

def search (content : Text) (term : String) (caseSensitive wholeWord : Bool) (cutoff : Number) :
    FuzzyResult :=
  if searchable content term then
    searchNormalized content (normalize term) caseSensitive wholeWord cutoff
  else noMatch

end Fuzzy

end BooleanSearch
