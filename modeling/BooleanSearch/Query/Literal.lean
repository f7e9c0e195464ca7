import BooleanSearch.Pattern.Escaped
import BooleanSearch.Text.Letter

/-!
# Terms of a query

A term is plain text, a pattern between slashes, or a fuzzy text after a tilde.  A word of a query
is read as one of the three by its shape alone.
-/

namespace BooleanSearch.Query

/-- A term that is looked for in a text. -/
inductive Literal
  | plain (text : String)
  | pattern (source letters : String)
  | fuzzy (text : String)
  deriving Repr, DecidableEq, Inhabited

namespace Literal

/-- The text of a term; of a pattern, its source. -/
def text : Literal → String
  | .plain text => text
  | .pattern source _ => source
  | .fuzzy text => text

def isPattern : Literal → Bool
  | .pattern _ _ => true
  | _ => false

def isFuzzy : Literal → Bool
  | .fuzzy _ => true
  | _ => false

/-- Splits the characters of `/source/letters` at the last slash. -/
def splitPattern? (chars : List Char) : Option (List Char × List Char) :=
  match chars with
  | '/' :: rest =>
    let letters := (rest.reverse.takeWhile (· != '/')).reverse
    let source := (rest.take (rest.length - letters.length - 1))
    if !rest.contains '/' || source.isEmpty then none
    else if letters.all fun letter => (Pattern.Flags.ofLiteralLetter? letter).isSome then
      some (source, letters)
    else none
  | _ => none

/-- The source and the letters of a text that is written as a pattern. -/
def patternParts? (text : String) : Option (String × String) :=
  (splitPattern? text.toList).map fun (source, letters) =>
    (String.ofList source, String.ofList letters)

/-- A pattern term, which must compile. -/
def ofPattern (source letters : String) : Except Failure Literal :=
  match Pattern.compile source letters with
  | .ok _ => .ok (.pattern source letters)
  | .error failure => .error failure

/-- The term that a word of a query stands for. -/
def ofText (text : String) : Except Failure Literal :=
  match patternParts? text with
  | some (source, letters) => ofPattern source letters
  | none =>
    match text.toList with
    | '~' :: first :: rest => .ok (.fuzzy (String.ofList (first :: rest)))
    | _ => .ok (.plain text)

/-- Whether a character may stand in a term without quotes. -/
def isBareChar (char : Char) : Bool :=
  Text.isWordChar char || char == '.' || char == '-'

/-- The words that have a meaning of their own, in upper case. -/
def keywords : List String :=
  ["AND", "OR", "NOT", "NEAR"]

/-- Whether a text is a keyword in any mixture of cases. -/
def isKeyword (text : String) : Bool :=
  keywords.contains
    (String.ofList (text.toList.map fun char => Char.ofNat
      (if 97 ≤ char.toNat && char.toNat ≤ 122 then char.toNat - 32 else char.toNat)))

/-- Whether a text can be written without quotes. -/
def isBare (text : String) : Bool :=
  !text.isEmpty && text.toList.all isBareChar && !isKeyword text

def quoteChar (char : Char) : List Char :=
  if char == '\\' || char == '"' then ['\\', char] else [char]

/-- A text between double quotes. -/
def quote (text : String) : String :=
  String.ofList ('"' :: text.toList.flatMap quoteChar ++ ['"'])

/-- A term as a query writes it. -/
def render : Literal → String
  | .plain text => if isBare text then text else quote text
  | .pattern source letters => "/" ++ source ++ "/" ++ letters
  | .fuzzy text => "~" ++ text

/-- A term as plain data. -/
def toValue : Literal → Value
  | .plain text => .dict [(.text "type", .text "term"), (.text "text", .text text)]
  | .pattern source letters =>
    .dict [(.text "type", .text "regex"), (.text "source", .text source),
      (.text "flags", .text letters)]
  | .fuzzy text => .dict [(.text "type", .text "fuzzy"), (.text "text", .text text)]

end Literal

end BooleanSearch.Query
