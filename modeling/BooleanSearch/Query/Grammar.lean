import BooleanSearch.Query.Token

/-!
# The grammar of queries

From the loosest to the tightest: disjunction, conjunction (written, or implied between
neighbours), negation, and then a term, a group in parentheses or a proximity.  Disjunction and
conjunction group to the left.  Queries may be nested to any depth: the limit of a program's call
stack is not modelled.
-/

namespace BooleanSearch.Query

abbrev TokenReader (α : Type) : Type :=
  List Token → Except Failure (α × List Token)

/-- The next token; the last token is never taken. -/
def current (tokens : List Token) : Token :=
  tokens.head?.getD ⟨.endOfQuery, "", 0⟩

/-- The tokens after the next one. -/
def advance (tokens : List Token) : List Token :=
  if (current tokens).kind == .endOfQuery then tokens else tokens.tail

def giveUp {α : Type} (fault : QueryFault) : Except Failure α :=
  .error fault.failure

/-- What is said to stand in place of what was expected. -/
def Token.found (token : Token) : String :=
  if token.text.isEmpty then token.kind.text else token.text

/-- Takes a token of the given kind. -/
def expect (kind : TokenKind) : TokenReader Unit := fun tokens =>
  let token := current tokens
  if token.kind == kind then .ok ((), advance tokens)
  else giveUp (.expected kind token.found token.position)

/-- Whether a token begins an operand, so that it continues a conjunction without a connective. -/
def TokenKind.beginsOperand : TokenKind → Bool
  | .not => true
  | .leftParen => true
  | .near => true
  | .word => true
  | .quoted => true
  | .pattern => true
  | _ => false

/-- The distance that a text gives: the number it spells, else the text itself. -/
def distanceOf (text : String) : Value :=
  match Text.readInt text with
  | .ok number => .int number
  | .error _ => .text text

def readDistance : TokenReader Value := fun tokens =>
  let token := current tokens
  if token.kind == .word || token.kind == .quoted then
    .ok (distanceOf token.text, advance tokens)
  else giveUp (.expectedDistance token.found token.position)

mutual

def readOr : Nat → TokenReader Expr
  | 0, tokens => giveUp (.unexpectedEnd (current tokens).position)
  | fuel + 1, tokens => do
    let (left, tokens) ← readAnd fuel tokens
    readOrRest fuel left tokens

/-- Reads what follows the first operands of a disjunction. -/
def readOrRest : Nat → Expr → TokenReader Expr
  | 0, _, tokens => giveUp (.unexpectedEnd (current tokens).position)
  | fuel + 1, left, tokens =>
    if (current tokens).kind == .or then do
      let (right, tokens) ← readAnd fuel (advance tokens)
      readOrRest fuel (.or left right) tokens
    else .ok (left, tokens)

def readAnd : Nat → TokenReader Expr
  | 0, tokens => giveUp (.unexpectedEnd (current tokens).position)
  | fuel + 1, tokens => do
    let (left, tokens) ← readNot fuel tokens
    readAndRest fuel left tokens

/-- Reads what follows the first operands of a conjunction. -/
def readAndRest : Nat → Expr → TokenReader Expr
  | 0, _, tokens => giveUp (.unexpectedEnd (current tokens).position)
  | fuel + 1, left, tokens =>
    let kind := (current tokens).kind
    if kind == .and || kind.beginsOperand then do
      let (right, tokens) ← readNot fuel (if kind == .and then advance tokens else tokens)
      readAndRest fuel (.and left right) tokens
    else .ok (left, tokens)

/-- Reads a negation, or what may stand after one. -/
def readNot : Nat → TokenReader Expr
  | 0, tokens => giveUp (.unexpectedEnd (current tokens).position)
  | fuel + 1, tokens =>
    if (current tokens).kind == .not then do
      let (child, tokens) ← readNot fuel (advance tokens)
      pure (.not child, tokens)
    else readPrimary fuel tokens

/-- Reads a term, a group in parentheses or a proximity. -/
def readPrimary : Nat → TokenReader Expr
  | 0, tokens => giveUp (.unexpectedEnd (current tokens).position)
  | fuel + 1, tokens =>
    let token := current tokens
    match token.kind with
    | .leftParen => do
      let (inner, tokens) ← readOr fuel (advance tokens)
      let (_, tokens) ← expect .rightParen tokens
      pure (inner, tokens)
    | .near => do
      let (_, tokens) ← expect .leftParen (advance tokens)
      let (left, tokens) ← readOr fuel tokens
      let (_, tokens) ← expect .comma tokens
      let (right, tokens) ← readOr fuel tokens
      let (_, tokens) ← expect .comma tokens
      let (distance, tokens) ← readDistance tokens
      let (_, tokens) ← expect .rightParen tokens
      pure (.near left right distance, tokens)
    | .quoted =>
      if token.text.isEmpty then giveUp (.emptyTerm token.position)
      else .ok (.literal (.plain token.text), advance tokens)
    | .word => do
      let term ← Literal.ofText token.text
      pure (.literal term, advance tokens)
    | .pattern => do
      let term ← Literal.ofText token.text
      pure (.literal term, advance tokens)
    | .endOfQuery => giveUp (.unexpectedEnd token.position)
    | _ => giveUp (.unexpectedToken token.text token.position)

end

def readTokens (tokens : List Token) : Except Failure Expr :=
  if (current tokens).kind == .endOfQuery then giveUp .emptyQuery
  else do
    let (expr, rest) ← readOr (8 * tokens.length + 8) tokens
    let token := current rest
    if token.kind == .endOfQuery then pure expr
    else giveUp (.unexpectedToken token.text token.position)

/-- Reads a query. -/
def parse (query : String) : Except Failure Expr :=
  match tokenize query with
  | .error fault => giveUp fault
  | .ok tokens => readTokens tokens

end BooleanSearch.Query
