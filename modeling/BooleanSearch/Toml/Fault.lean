import BooleanSearch.Text.WholeNumber
import BooleanSearch.Value

/-!
# Faults of configuration documents

Why a document is not well formed, and where.
-/

namespace BooleanSearch.Toml

/-- The names of a key, outermost first. -/
abbrev Key := List String

/-- What is wrong with a document. -/
inductive Cause
  | invalidStatement
  | expectedLineEnd
  | declaredTwice (key : Key)
  | overwritten
  | unclosedTable
  | unclosedTables
  | immutable (key : Key)
  | redefined (key : Key)
  | expectedEquals
  | invalidKeyPart
  | unclosedArray
  | unclosedInlineTable
  | duplicateKey (name : String)
  | badEscape
  | invalidHex
  | notScalar
  | unterminated
  | illegalCharacter (char : Char)
  | invalidCharacter (char : Char)
  | expected (text : String)
  | invalidMoment
  | invalidValue
  deriving Repr, DecidableEq

def keyText (key : Key) : String :=
  (Value.tuple (key.map Value.text)).literal

/-- The wording of a cause. -/
def Cause.message : Cause → String
  | .invalidStatement => "Invalid statement"
  | .expectedLineEnd => "Expected newline or end of document after a statement"
  | .declaredTwice key => "Cannot declare " ++ keyText key ++ " twice"
  | .overwritten => "Cannot overwrite a value"
  | .unclosedTable => "Expected ']' at the end of a table declaration"
  | .unclosedTables => "Expected ']]' at the end of an array declaration"
  | .immutable key => "Cannot mutate immutable namespace " ++ keyText key
  | .redefined key => "Cannot redefine namespace " ++ keyText key
  | .expectedEquals => "Expected '=' after a key in a key/value pair"
  | .invalidKeyPart => "Invalid initial character for a key part"
  | .unclosedArray => "Unclosed array"
  | .unclosedInlineTable => "Unclosed inline table"
  | .duplicateKey name => "Duplicate inline table key " ++ Text.quoted name
  | .badEscape => "Unescaped '\\' in a string"
  | .invalidHex => "Invalid hex value"
  | .notScalar => "Escaped character is not a Unicode scalar value"
  | .unterminated => "Unterminated string"
  | .illegalCharacter char => "Illegal character " ++ Text.quoted (String.singleton char)
  | .invalidCharacter char => "Found invalid character " ++ Text.quoted (String.singleton char)
  | .expected text => "Expected " ++ Text.quoted text
  | .invalidMoment => "Invalid date or datetime"
  | .invalidValue => "Invalid value"

/-- Why a document cannot be read: a fault at an offset, or a number with too many digits. -/
inductive ReadError
  | fault (cause : Cause) (offset : Nat)
  | tooManyDigits (count : Nat)
  deriving Repr, DecidableEq

/-- Why a document is rejected: the text of a fault with its place, or a number with too many
digits. -/
inductive Rejection
  | malformed (text : String)
  | tooManyDigits (count : Nat)
  deriving Repr, DecidableEq

/-- Where an offset is in a document: its line and column, counted from one, or the end. -/
def placeText (source : Text) (offset : Nat) : String :=
  if source.size ≤ offset then "end of document"
  else
    let before := (source.slice 0 offset).toList
    let line := before.count '\n' + 1
    let column := (before.reverse.takeWhile (· != '\n')).length + 1
    "line " ++ toString line ++ ", column " ++ toString column

/-- The wording of a cause at an offset. -/
def faultText (source : Text) (cause : Cause) (offset : Nat) : String :=
  cause.message ++ " (at " ++ placeText source offset ++ ")"

/-- An error of reading as a rejection of the document. -/
def ReadError.rejection (source : Text) : ReadError → Rejection
  | .fault cause offset => .malformed (faultText source cause offset)
  | .tooManyDigits count => .tooManyDigits count

end BooleanSearch.Toml
