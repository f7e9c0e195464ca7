import BooleanSearch.Decimal.Whole

/-!
# Values as JSON

A value is written as JSON on one line, or with every item on a line of its own.  What JSON has no
form for is written as the text of its display.
-/

namespace BooleanSearch.Json

/-- How JSON is laid out: the width of an indentation, if items stand on lines of their own, and
whether everything beyond ASCII is escaped. -/
structure Layout where
  indent : Option Nat := none
  asciiOnly : Bool := true
  deriving Repr, DecidableEq

def unitEscape (code : Nat) : List Char :=
  '\\' :: 'u' :: Text.hexDigits 4 code

/-- The escape of a character; beyond sixteen bits it is a pair of surrogates. -/
def charEscape (code : Nat) : List Char :=
  if code < 0x10000 then unitEscape code
  else
    unitEscape (0xD800 + (code - 0x10000) / 0x400) ++ unitEscape (0xDC00 + (code - 0x10000) % 0x400)

/-- A character as it stands between quotes. -/
def writtenChar (asciiOnly : Bool) (char : Char) : List Char :=
  if char == '"' || char == '\\' then ['\\', char]
  else if char == '\n' then ['\\', 'n']
  else if char == '\r' then ['\\', 'r']
  else if char == '\t' then ['\\', 't']
  else if char.toNat == 8 then ['\\', 'b']
  else if char.toNat == 12 then ['\\', 'f']
  else if char.toNat < 32 || (asciiOnly && 126 < char.toNat) then charEscape char.toNat
  else [char]

def writtenText (asciiOnly : Bool) (text : String) : String :=
  String.ofList ('"' :: text.toList.flatMap (writtenChar asciiOnly) ++ ['"'])

/-- A double; the three that are no numbers have names. -/
def writtenFloat (value : Float) : String :=
  if value.isNaN then "NaN"
  else if value.isInf then (if value < 0.0 then "-Infinity" else "Infinity")
  else Decimal.shortest value

/-- The text of a key, if values of its kind can be keys. -/
def keyText? : Value → Option String
  | .null => some "null"
  | .bool value => some (if value then "true" else "false")
  | .int value => some (toString value)
  | .float value => some (writtenFloat value)
  | .text value => some value
  | _ => none

def badKey (key : Value) : Failure :=
  .badKind ("keys must be str, int, float, bool or None, not " ++ key.kindName)

/-- The start of a line at some depth of nesting. -/
def lineStart (width depth : Nat) : String :=
  "\n" ++ String.ofList (List.replicate (width * depth) ' ')

/-- The items of a sequence or an object between brackets; `depth` is that of the items. -/
def enclose (layout : Layout) (depth : Nat) (opening closing : Char) (items : List String) :
    String :=
  let body :=
    match items, layout.indent with
    | [], _ => ""
    | _, none => joinWith ", " items
    | _, some width =>
      lineStart width depth ++ joinWith ("," ++ lineStart width depth) items
        ++ lineStart width (depth - 1)
  String.singleton opening ++ body ++ String.singleton closing

mutual

/-- A value at some depth of nesting. -/
def written (layout : Layout) (depth : Nat) : Value → Except Failure String
  | .null => .ok "null"
  | .bool value => .ok (if value then "true" else "false")
  | .int value => .ok (toString value)
  | .float value => .ok (writtenFloat value)
  | .text value => .ok (writtenText layout.asciiOnly value)
  | .list items => do
    return enclose layout (depth + 1) '[' ']' (← writtenItems layout (depth + 1) items)
  | .tuple items => do
    return enclose layout (depth + 1) '[' ']' (← writtenItems layout (depth + 1) items)
  | .dict entries => do
    return enclose layout (depth + 1) (Char.ofNat 123) (Char.ofNat 125)
      (← writtenEntries layout (depth + 1) entries)
  | other => .ok (writtenText layout.asciiOnly other.display)

def writtenItems (layout : Layout) (depth : Nat) : List Value → Except Failure (List String)
  | [] => .ok []
  | item :: rest => do
    let first ← written layout depth item
    return first :: (← writtenItems layout depth rest)

def writtenEntries (layout : Layout) (depth : Nat) :
    List (Value × Value) → Except Failure (List String)
  | [] => .ok []
  | (key, value) :: rest => do
    match keyText? key with
    | none => throw (badKey key)
    | some name =>
      let first ← written layout depth value
      return (writtenText layout.asciiOnly name ++ ": " ++ first)
        :: (← writtenEntries layout depth rest)

end

/-- A value as JSON. -/
def render (layout : Layout) (value : Value) : Except Failure String :=
  written layout 0 value

end BooleanSearch.Json
