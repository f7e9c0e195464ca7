import BooleanSearch.Toml.Fault

/-!
# Scanning configuration documents

Reading blanks, comments and strings.  A scan is at an offset of the document; every step moves the
offset forward or fails.
-/

namespace BooleanSearch.Toml

/-- A step of reading: it has an offset and may fail. -/
abbrev Scan (α : Type) : Type :=
  StateT Nat (Except ReadError) α

def failHere {α : Type} (cause : Cause) : Scan α := do
  let offset ← get
  throw (.fault cause offset)

/-- The offset after the accepted characters from an offset on, at most `fuel` of them. -/
def skipFrom (source : Text) (accept : Char → Bool) : Nat → Nat → Nat
  | 0, offset => offset
  | fuel + 1, offset =>
    match source[offset]? with
    | none => offset
    | some char => if accept char then skipFrom source accept fuel (offset + 1) else offset

def skip (source : Text) (accept : Char → Bool) : Scan Unit :=
  modify fun offset => skipFrom source accept (source.size - offset) offset

/-- The character at the present offset. -/
def peek (source : Text) : Scan (Option Char) := do
  return source[← get]?

/-- Moves the offset. -/
def advance (count : Nat) : Scan Unit :=
  modify (· + count)

/-- Whether a text stands at the present offset. -/
def at? (source : Text) (text : String) : Scan Bool := do
  return source.occursAt (Text.ofString text) (← get)

/-- A blank within a line. -/
def isSpace (char : Char) : Bool :=
  char == ' ' || char == '\t'

def isSpaceOrLineEnd (char : Char) : Bool :=
  isSpace char || char == '\n'

def isControl (char : Char) : Bool :=
  (char.toNat < 32 || char.toNat == 127) && char != '\t'

/-- A control character other than a tab or a line end. -/
def isControlInLines (char : Char) : Bool :=
  isControl char && char != '\n'

/-- A character of a key without quotes. -/
def isBareKey (char : Char) : Bool :=
  char.isAlphanum || char == '-' || char == '_'

/-- Moves to the next occurrence of a text.  The characters before it must be allowed. -/
def skipUntil (source : Text) (text : String) (forbidden : Char → Bool) (required : Bool) :
    Scan Unit := do
  let start ← get
  let stop ←
    match source.find? (Text.ofString text) start with
    | some found => pure found
    | none => if required then throw (.fault (.expected text) source.size) else pure source.size
  let bad := skipFrom source (fun char => !forbidden char) (stop - start) start
  if bad < stop then
    match source[bad]? with
    | some char => throw (.fault (.invalidCharacter char) bad)
    | none => set stop
  else set stop

def skipComment (source : Text) : Scan Unit := do
  if (← peek source) == some '#' then
    advance 1
    skipUntil source "\n" isControl false

/-- Skips blanks, line ends and comments, at most `fuel` stretches of them. -/
def skipGapWithin (source : Text) : Nat → Scan Unit
  | 0 => pure ()
  | fuel + 1 => do
    let before ← get
    skip source isSpaceOrLineEnd
    skipComment source
    if (← get) == before then pure () else skipGapWithin source fuel

/-- Skips blanks, line ends and comments. -/
def skipGap (source : Text) : Scan Unit :=
  skipGapWithin source (source.size + 1)

/-! ## Strings -/

/-- What a character after a backslash stands for. -/
def escaped? : Char → Option Char
  | 'b' => some (Char.ofNat 8)
  | 't' => some '\t'
  | 'n' => some '\n'
  | 'f' => some (Char.ofNat 12)
  | 'r' => some '\r'
  | '"' => some '"'
  | '\\' => some '\\'
  | _ => none

def hexValue? (char : Char) : Option Nat :=
  if '0' ≤ char && char ≤ '9' then some (char.toNat - 48)
  else if 'a' ≤ char && char ≤ 'f' then some (char.toNat - 87)
  else if 'A' ≤ char && char ≤ 'F' then some (char.toNat - 55)
  else none

/-- The number with some digits in a base; what is no digit is passed over. -/
def numberIn (base : Nat) (chars : List Char) : Nat :=
  (chars.filterMap hexValue?).foldl (fun number digit => base * number + digit) 0

/-- Whether a code point is that of a character. -/
def isScalar (code : Nat) : Bool :=
  code < 0xD800 || (0xE000 ≤ code && code ≤ 0x10FFFF)

/-- Reads the digits of an escaped code point. -/
def readCode (source : Text) (count : Nat) : Scan (List Char) := do
  let start ← get
  let digits := (source.slice start (start + count)).toList
  if digits.length == count && digits.all fun char => (hexValue? char).isSome then
    advance count
    let code := numberIn 16 digits
    if isScalar code then pure [Char.ofNat code] else failHere .notScalar
  else failHere .invalidHex

/-- Skips a line end that is escaped, with the blanks around it; the blanks before it are those from
the escape on. -/
def skipEscapedLineEnd (source : Text) (atLineEnd : Bool) : Scan Unit := do
  if atLineEnd then skip source isSpaceOrLineEnd
  else
    skip source isSpace
    match ← peek source with
    | none => pure ()
    | some '\n' =>
      advance 1
      skip source isSpaceOrLineEnd
    | some _ => failHere .badEscape

def readEscape (source : Text) (multiline : Bool) : Scan (List Char) := do
  let next := source[(← get) + 1]?
  modify fun offset => offset + 2
  match next with
  | none => failHere .badEscape
  | some char =>
    if multiline && isSpaceOrLineEnd char then
      skipEscapedLineEnd source (char == '\n')
      pure []
    else if char == 'u' then readCode source 4
    else if char == 'U' then readCode source 8
    else
      match escaped? char with
      | some plain => pure [plain]
      | none => failHere .badEscape

/-- Reads the rest of a string with escapes, at most `fuel` characters; `read` holds the characters
so far, the last one first. -/
def readBasicWithin (source : Text) (multiline : Bool) : Nat → List Char → Scan String
  | 0, _ => failHere .unterminated
  | fuel + 1, read => do
    match ← peek source with
    | none => failHere .unterminated
    | some '"' =>
      if !multiline then
        advance 1
        pure (String.ofList read.reverse)
      else if ← at? source "\"\"\"" then
        advance 3
        pure (String.ofList read.reverse)
      else
        advance 1
        readBasicWithin source multiline fuel ('"' :: read)
    | some '\\' =>
      let chars ← readEscape source multiline
      readBasicWithin source multiline fuel (chars.reverse ++ read)
    | some char =>
      if if multiline then isControlInLines char else isControl char then
        failHere (.illegalCharacter char)
      else
        advance 1
        readBasicWithin source multiline fuel (char :: read)

/-- Reads the rest of a string with escapes. -/
def readBasic (source : Text) (multiline : Bool) : Scan String :=
  readBasicWithin source multiline (source.size + 1) []

def readBasicLine (source : Text) : Scan String := do
  advance 1
  readBasic source false

/-- Reads a string without escapes in one line. -/
def readLiteralLine (source : Text) : Scan String := do
  advance 1
  let start ← get
  skipUntil source "'" isControl true
  let stop ← get
  advance 1
  pure (source.slice start stop).toString

/-- Up to two more quotes at the end of a string of several lines belong to it. -/
def readMoreQuotes (source : Text) (quote : Char) (text : String) : Scan String := do
  if (← peek source) != some quote then pure text
  else
    advance 1
    if (← peek source) != some quote then pure (text.push quote)
    else
      advance 1
      pure ((text.push quote).push quote)

/-- Skips three quotes and a line end right after them. -/
def skipOpening (source : Text) : Scan Unit := do
  advance 3
  if (← peek source) == some '\n' then advance 1

/-- Reads a string with escapes in several lines. -/
def readBasicLines (source : Text) : Scan String := do
  skipOpening source
  let text ← readBasic source true
  readMoreQuotes source '"' text

/-- Reads a string without escapes in several lines. -/
def readLiteralLines (source : Text) : Scan String := do
  skipOpening source
  let start ← get
  skipUntil source "'''" isControlInLines true
  let stop ← get
  advance 3
  readMoreQuotes source '\'' (source.slice start stop).toString

end BooleanSearch.Toml
