import BooleanSearch.Digest.Sha256
import BooleanSearch.Value

/-!
# Cache keys

A cached result is found under a key made of the digest of the content and of everything else that
the result depends on, separated by colons.
-/

namespace BooleanSearch

/-- The first digits of the digest of a content.  A negative length counts from the end. -/
def contentDigest (content : Text) (length : Int) : String :=
  let digits := (Sha256.hexDigest (Utf8.encode content)).toList
  let count := if length < 0 then digits.length - (-length).toNat else length.toNat
  String.ofList (digits.take count)

/-- The digest that cache keys use. -/
def contentKey (content : Text) : String :=
  contentDigest content 32

/-- One part of a key; an absent part is shown as a dash. -/
def keyPart : Value → String
  | .null => "-"
  | value => value.display

def makeKey (parts : List Value) : String :=
  joinWith ":" (parts.map keyPart)

end BooleanSearch
