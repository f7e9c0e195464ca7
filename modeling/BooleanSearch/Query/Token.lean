import BooleanSearch.Query.Expr

/-!
# Tokens of a query

A query is cut into parentheses, commas, connectives, words, quoted texts and patterns.  Blanks
separate tokens and are otherwise ignored.
-/

namespace BooleanSearch.Query

inductive TokenKind
  | leftParen
  | rightParen
  | comma
  | and
  | or
  | not
  | near
  | word
  | quoted
  | pattern
  | endOfQuery
  deriving Repr, DecidableEq, Inhabited

/-- What a token of a kind is called in messages. -/
def TokenKind.text : TokenKind → String
  | .leftParen => "("
  | .rightParen => ")"
  | .comma => ","
  | .and => "AND"
  | .or => "OR"
  | .not => "NOT"
  | .near => "NEAR"
  | .word => "word"
  | .quoted => "quoted"
  | .pattern => "regex"
  | .endOfQuery => "end of query"

/-- A token with its text and the offset of its first character. -/
structure Token where
  kind : TokenKind
  text : String
  position : Nat
  deriving Repr, DecidableEq, Inhabited

/-- Why a query is not well formed. -/
inductive QueryFault
  | unterminatedText (position : Nat)
  | unterminatedPattern (position : Nat)
  | emptyQuery
  | unexpectedToken (text : String) (position : Nat)
  | unexpectedEnd (position : Nat)
  | expected (kind : TokenKind) (found : String) (position : Nat)
  | expectedDistance (found : String) (position : Nat)
  | emptyTerm (position : Nat)
  deriving Repr, DecidableEq

/-- Where a fault was found. -/
def QueryFault.position : QueryFault → Nat
  | .unterminatedText position => position
  | .unterminatedPattern position => position
  | .emptyQuery => 0
  | .unexpectedToken _ position => position
  | .unexpectedEnd position => position
  | .expected _ _ position => position
  | .expectedDistance _ position => position
  | .emptyTerm position => position

/-- The wording of a fault. -/
def QueryFault.message : QueryFault → String
  | .unterminatedText position =>
    "Unterminated string starting at position " ++ toString position
  | .unterminatedPattern position =>
    "Unterminated regular expression starting at position " ++ toString position
  | .emptyQuery => "Empty query"
  | .unexpectedToken text position =>
    "Unexpected token '" ++ text ++ "' at position " ++ toString position
  | .unexpectedEnd position => "Unexpected end of query at position " ++ toString position
  | .expected kind found position =>
    "Expected '" ++ kind.text ++ "' but found '" ++ found ++ "' at position " ++ toString position
  | .expectedDistance found position =>
    "Expected NEAR distance but found '" ++ found ++ "' at position " ++ toString position
  | .emptyTerm position => "Empty search term at position " ++ toString position

def QueryFault.failure (fault : QueryFault) : Failure :=
  .error ⟨.parse (some fault.message) (some fault.position), none⟩

/-- The content of a quoted text and the characters after its closing quote.  A backslash makes
the character after it part of the text. -/
def readQuoted? (quote : Char) : List Char → Option (List Char × List Char)
  | [] => none
  | '\\' :: escaped :: rest =>
    (readQuoted? quote rest).map fun (content, after) => (escaped :: content, after)
  | char :: rest =>
    if char == quote then some ([], rest)
    else (readQuoted? quote rest).map fun (content, after) => (char :: content, after)

/-- The characters of a pattern up to and with its closing slash, and those after it.  A backslash
keeps the character after it from closing. -/
def readPatternBody? : List Char → Option (List Char × List Char)
  | [] => none
  | ['\\'] => none
  | '\\' :: escaped :: rest =>
    (readPatternBody? rest).map fun (body, after) => ('\\' :: escaped :: body, after)
  | char :: rest =>
    if char == '/' then some (['/'], rest)
    else (readPatternBody? rest).map fun (body, after) => (char :: body, after)

/-- Whether a character goes on a word that has begun. -/
def continuesWord (char : Char) : Bool :=
  !(Text.isBlank char || char == '(' || char == ')' || char == ',')

/-- Whether the next character that is not blank opens a parenthesis. -/
def opensNext : List Char → Bool
  | [] => false
  | char :: rest => if Text.isBlank char then opensNext rest else char == '('

/-- The kind of a word before the characters after it. -/
def wordKind (word : String) (after : List Char) : TokenKind :=
  if word == "AND" then .and
  else if word == "OR" then .or
  else if word == "NOT" then .not
  else if (word == "NEAR" || word == "near") && opensNext after then .near
  else .word

/-- The first token of characters that do not begin with a blank, and the characters after it. -/
def firstToken (position : Nat) (chars : List Char) : Except QueryFault (Token × List Char) :=
  let word : Token × List Char :=
    let content := String.ofList (chars.takeWhile continuesWord)
    let after := chars.dropWhile continuesWord
    (⟨wordKind content after, content, position⟩, after)
  match chars with
  | '(' :: rest => .ok (⟨.leftParen, "(", position⟩, rest)
  | ')' :: rest => .ok (⟨.rightParen, ")", position⟩, rest)
  | ',' :: rest => .ok (⟨.comma, ",", position⟩, rest)
  | '&' :: '&' :: rest => .ok (⟨.and, "&&", position⟩, rest)
  | '|' :: '|' :: rest => .ok (⟨.or, "||", position⟩, rest)
  | '!' :: rest => .ok (⟨.not, "!", position⟩, rest)
  | '/' :: rest =>
    match readPatternBody? rest with
    | none => .error (.unterminatedPattern position)
    | some (body, after) =>
      let letters := after.takeWhile Text.isLetter
      .ok (⟨.pattern, String.ofList ('/' :: (body ++ letters)), position⟩,
        after.dropWhile Text.isLetter)
  | char :: rest =>
    if char == '"' || char == '\'' then
      match readQuoted? char rest with
      | none => .error (.unterminatedText position)
      | some (content, after) => .ok (⟨.quoted, String.ofList content, position⟩, after)
    else .ok word
  | [] => .ok word

/-- The tokens of the characters from an offset on.  Every step takes at least one character, so
as much fuel as characters, and one more, is enough. -/
def scanFrom : Nat → Nat → List Char → Except QueryFault (List Token)
  | 0, position, _ => .ok [⟨.endOfQuery, "", position⟩]
  | _ + 1, position, [] => .ok [⟨.endOfQuery, "", position⟩]
  | fuel + 1, position, char :: rest =>
    if Text.isBlank char then scanFrom fuel (position + 1) rest
    else
      match firstToken position (char :: rest) with
      | .error fault => .error fault
      | .ok (token, after) =>
        match scanFrom fuel (position + ((rest.length + 1) - after.length)) after with
        | .error fault => .error fault
        | .ok tokens => .ok (token :: tokens)

/-- The tokens of a query; the last one marks its end. -/
def tokenize (query : String) : Except QueryFault (List Token) :=
  let chars := query.toList
  scanFrom (chars.length + 1) 0 chars

end BooleanSearch.Query
