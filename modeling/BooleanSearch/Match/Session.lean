import BooleanSearch.Cache.Lru
import BooleanSearch.Digest.Key
import BooleanSearch.Log.Record
import BooleanSearch.Match.Fuzzy
import BooleanSearch.Match.Options

/-!
# Search sessions

The state that evaluations share: the fuzzy matcher, if there is one, the caches of word indexes,
fuzzy results and proximity verdicts, as far as they exist, and the reports made so far.  A failing
step keeps what it did to the state.
-/

namespace BooleanSearch

/-- The state of evaluations.  `matcher` holds the threshold of the fuzzy matcher, and `clock` counts
the look-ups so far. -/
structure Session where
  matcher : Option Number := some Fuzzy.defaultThreshold
  words : Option (Cache.Lru String WordIndex) := none
  fuzzy : Option (Cache.Lru String FuzzyResult) := none
  near : Option (Cache.Lru String Bool) := none
  records : Array Log.Record := #[]
  clock : Nat := 0

/-- A step of an evaluation. -/
abbrev Search (α : Type) : Type :=
  ExceptT Failure (StateM Session) α

namespace Session

/-- The time of a session: every look-up takes a millionth of a second, and nothing else takes
any. -/
def now (session : Session) : Float :=
  Decimal.ofInt session.clock / 1000000.0

/-- The bytes of an index under its key. -/
def weighWords (key : String) (index : WordIndex) : Nat :=
  2 * key.length + index.footprint

/-- The bytes of a fuzzy result under its key. -/
def weighFuzzy (key : String) (result : FuzzyResult) : Nat :=
  2 * key.length + result.footprint

/-- The bytes of a verdict under its key. -/
def weighVerdict (key : String) (_ : Bool) : Nat :=
  2 * key.length + 4

end Session

namespace Search

def report (record : Log.Record) : Search Unit :=
  modify fun session => { session with records := session.records.push record }

def lookUp {ν : Type} (cache : Session → Option (Cache.Lru String ν))
    (store : Session → Cache.Lru String ν → Session) (key : Text → String) (content : Text) :
    Search (Option ν) := do
  let session ← get
  match cache session with
  | none => pure none
  | some present =>
    let (found, after) := present.get session.now (key content)
    set { store session after with clock := session.clock + 1 }
    pure found

def keep {ν : Type} (cache : Session → Option (Cache.Lru String ν))
    (store : Session → Cache.Lru String ν → Session) (key : Text → String) (content : Text)
    (value : ν) : Search Unit :=
  modify fun session =>
    match cache session with
    | none => session
    | some present => store session (present.set session.now (key content) value)

/-- The value under a key of a cache, computed and kept if it is not there. -/
def cached {ν : Type} (cache : Session → Option (Cache.Lru String ν))
    (store : Session → Cache.Lru String ν → Session) (key : Text → String) (content : Text)
    (compute : Search ν) : Search ν := do
  match ← lookUp cache store key content with
  | some value => pure value
  | none =>
    let value ← compute
    keep cache store key content value
    pure value

def wordIndex (content : Text) : Search WordIndex :=
  cached Session.words (fun session cache => { session with words := some cache }) contentKey content
    (pure (WordIndex.build content))

/-- The number of the word that holds an offset of a content. -/
def wordIndexOf (offset : Int) (content : Text) : Search (Option Nat) := do
  if offset < 0 || (content.size : Int) ≤ offset then pure none
  else return (← wordIndex content).wordAt? offset

/-- The distance in words between two offsets of a content. -/
def wordDistance (first second : Int) (content : Text) : Search (Option Nat) := do
  return (← wordIndex content).distance? first second

/-- Forgets the word index of a content and tells whether there was one. -/
def forgetWords (content : Text) : Search Bool := do
  match (← get).words with
  | none => pure false
  | some cache =>
    let (found, after) := cache.delete (contentKey content)
    modify fun session => { session with words := some after }
    pure found

def clearWords : Search Unit :=
  modify fun session => { session with words := session.words.map fun cache => cache.clear.2 }

def clearFuzzy : Search Unit :=
  modify fun session => { session with fuzzy := session.fuzzy.map fun cache => cache.clear.2 }

def fuzzyKey (term : String) (caseSensitive wholeWord : Bool) (cutoff : Number) (content : Text) :
    String :=
  makeKey [.text (contentKey content), .text term, .bool caseSensitive, .bool wholeWord,
    cutoff.toValue]

/-- The fuzzy search for a term, by a matcher with its own threshold unless another is given. -/
def fuzzySearch (content : Text) (term : String) (caseSensitive wholeWord : Bool)
    (cutoff : Number) : Search FuzzyResult :=
  if Fuzzy.searchable content term then
    let term := Fuzzy.normalize term
    cached Session.fuzzy (fun session cache => { session with fuzzy := some cache })
      (fuzzyKey term caseSensitive wholeWord cutoff) content
      (pure (Fuzzy.searchNormalized content term caseSensitive wholeWord cutoff))
  else pure Fuzzy.noMatch

end Search

end BooleanSearch
