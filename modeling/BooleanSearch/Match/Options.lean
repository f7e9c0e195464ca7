import BooleanSearch.Decimal.Number

/-!
# Match options

The switches that every matcher obeys, and their text in cache keys.
-/

namespace BooleanSearch

/-- Where a term is matched: on its own, or as an operand of a proximity. -/
inductive MatchContext
  | leaf
  | near
  deriving Repr, DecidableEq, Inhabited

/-- The options of one evaluation.  A limit on the size of contents counts characters; the
threshold is the least similarity, up to a hundred, of a fuzzy match. -/
structure MatchOptions where
  caseSensitive : Bool := false
  wholeWord : Bool := false
  fuzzy : Bool := true
  fuzzyNear : Bool := true
  sizeLimit : Option Int := none
  threshold : Number := .real 70.0
  deriving Inhabited

namespace MatchOptions

/-- Whether a term that is not found may be looked for fuzzily. -/
def fuzzyAllowed (options : MatchOptions) : MatchContext → Bool
  | .leaf => options.fuzzy
  | .near => options.fuzzyNear

def digit (value : Bool) : String :=
  if value then "1" else "0"

/-- The options in a cache key.  The size limit is left out: it decides whether there is a result,
not which. -/
def key (options : MatchOptions) : String :=
  "cs=" ++ digit options.caseSensitive ++ ",ww=" ++ digit options.wholeWord
    ++ ",fz=" ++ digit options.fuzzy ++ ",fzn=" ++ digit options.fuzzyNear
    ++ ",th=" ++ options.threshold.text

end MatchOptions

end BooleanSearch
