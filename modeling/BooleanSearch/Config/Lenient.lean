import BooleanSearch.Config.Issue
import BooleanSearch.Files.Path
import BooleanSearch.Text.Utf8
import BooleanSearch.Text.WholeNumber
import BooleanSearch.Value

/-!
# Lenient readers of settings

A setting may be written in several ways: a truth value as a word or a number, a number as a text,
a text as its bytes.  Every reader tells what is wrong with a value that it does not take.
-/

namespace BooleanSearch.Config

abbrev Reading (α : Type) : Type :=
  Except Complaint α

/-- The text that a value holds, if it is a text or bytes; bytes must be decodable. -/
def textOf? (value : Value) : Option (Option String) :=
  match value with
  | .text chars => some (some chars)
  | .bytes codes =>
    let bytes := codes.toArray
    some (if (Utf8.firstFault? bytes).isSome then none else some (Utf8.decode bytes).toString)
  | _ => none

/-! ## Texts of numbers -/

def isDigit (char : Char) : Bool :=
  '0' ≤ char && char ≤ '9'

/-- A text without its underscores, if each of them stands between other characters. -/
def withoutUnderscores? (chars : List Char) : Option (List Char) :=
  let pairs := chars.zip (chars.drop 1)
  if chars.contains '_' && chars.head? != some '_' && chars.getLast? != some '_'
      && !pairs.contains ('_', '_') then
    some (chars.filter (· != '_'))
  else none

/-- The digits from the first one on that is not zero, or a last zero; underscores among the leading
zeros are dropped with them. -/
def withoutLeadingZeros : List Char → Option (List Char)
  | '0' :: rest => go '0' rest
  | char :: rest => if char == '-' || isDigit char then some (char :: rest) else none
  | [] => none
where
  go (last : Char) : List Char → Option (List Char)
    | [] => some [last]
    | char :: rest =>
      if char == '0' || char == '_' then go char rest
      else if char == '.' then some (last :: char :: rest)
      else if char == '-' || isDigit char then some (char :: rest)
      else none

/-- A text without a point and zeros at its end. -/
def withoutZeroFraction (chars : List Char) : List Char :=
  let fraction := chars.dropWhile (· != '.')
  if fraction.drop 1 |>.all (· == '0') then chars.takeWhile (· != '.') else chars

/-- The digits of a whole number, in the form in which they are read. -/
def cleanWhole? (chars : List Char) : Option (List Char) := do
  let trimmed := Text.trimPadding chars
  let unsigned ←
    match trimmed with
    | '+' :: '-' :: _ => none
    | '+' :: rest => some rest
    | other => some other
  let digits ← withoutLeadingZeros unsigned
  let whole := withoutZeroFraction digits
  pure ((withoutUnderscores? whole).getD whole)

/-- The number with some digits, none of which may be a leading zero. -/
def plainDigits (digits : List Char) : Reading Nat :=
  if digits.isEmpty || !digits.all isDigit then .error .unreadableInt
  else if digits.head? == some '0' && 1 < digits.length then .error .unreadableInt
  else if Text.digitLimit < digits.length then .error .oversizedInt
  else .ok (digits.foldl (fun number digit => 10 * number + (digit.toNat - 48)) 0)

def wholeOfText (text : String) : Reading Int :=
  match cleanWhole? text.toList with
  | none => .error .unreadableInt
  | some ('-' :: digits) => (plainDigits digits).map fun number => -(number : Int)
  | some digits => (plainDigits digits).map fun number => (number : Int)

/-- The digits of a number before and after its point. -/
def mantissa? (chars : List Char) : Option (List Char × List Char × List Char) :=
  let whole := chars.takeWhile isDigit
  match chars.dropWhile isDigit with
  | '.' :: rest =>
    let fraction := rest.takeWhile isDigit
    if whole.isEmpty && fraction.isEmpty then none
    else some (whole, fraction, rest.dropWhile isDigit)
  | rest => if whole.isEmpty then none else some (whole, [], rest)

def exponent? : List Char → Option Int
  | [] => some 0
  | mark :: rest =>
    if mark == 'e' || mark == 'E' then
      let (negative, digits) := match rest with
        | '-' :: digits => (true, digits)
        | '+' :: digits => (false, digits)
        | digits => (false, digits)
      if digits.isEmpty || !digits.all isDigit then none
      else
        let size : Int := digits.foldl (fun number digit => 10 * number + (digit.toNat - 48)) 0
        some (if negative then -size else size)
    else none

/-- Reads a number without sign. -/
def unsignedNumber? (negative : Bool) (chars : List Char) : Option Float :=
  let word := (String.ofList chars).toLower
  if word == "inf" || word == "infinity" then
    some (if negative then -1.0 / 0.0 else 1.0 / 0.0)
  else if word == "nan" then some (0.0 / 0.0)
  else do
    let (whole, fraction, rest) ← mantissa? chars
    let power ← exponent? rest
    let digits := (whole ++ fraction).foldl
      (fun number digit => 10 * number + (digit.toNat - 48)) 0
    pure (Decimal.floatOf negative digits (power - fraction.length))

def number? (chars : List Char) : Option Float :=
  match chars with
  | '-' :: rest => unsignedNumber? true rest
  | '+' :: rest => unsignedNumber? false rest
  | rest => unsignedNumber? false rest

def numberOfText (text : String) : Reading Float :=
  let chars := text.toList
  match number? (Text.trimPadding chars) with
  | some value => .ok value
  | none =>
    match (withoutUnderscores? chars).bind fun stripped => number? (Text.trimPadding stripped) with
    | some value => .ok value
    | none => .error .unreadableNumber

/-! ## Readers -/

/-- The bound of the whole numbers that a machine word holds: the sixty-third power of two. -/
def wordBound : Int := 9223372036854775808

def wholeOfFloat (value : Float) : Reading Int :=
  match Decimal.truncate? value with
  | none => .error .notFinite
  | some whole =>
    if Decimal.ofInt whole != value then .error .fractionalInt
    else if -wordBound < whole && whole < wordBound then .ok whole
    else .error .oversizedInt

def readWhole (value : Value) : Reading Int :=
  match value with
  | .int number => .ok number
  | .bool truth => .ok (if truth then 1 else 0)
  | .float number => wholeOfFloat number
  | other =>
    match textOf? other with
    | some (some text) => wholeOfText text
    | some none => .error .unreadableInt
    | none => .error .notInt

def readNumber (value : Value) : Reading Float :=
  match value with
  | .float number => .ok number
  | .bool truth => .ok (if truth then 1.0 else 0.0)
  | .int number =>
    let nearest := Decimal.ofInt number
    if nearest.isInf then .error .notNumber else .ok nearest
  | other =>
    match textOf? other with
    | some (some text) => numberOfText text
    | some none => .error .unreadableNumber
    | none => .error .notNumber

def falseWords : List String :=
  ["0", "f", "n", "no", "off", "false"]

def trueWords : List String :=
  ["1", "t", "y", "on", "yes", "true"]

/-- Reads a truth value from a text. -/
def boolOfText (text : String) : Reading Bool :=
  let word := text.toLower
  if falseWords.contains word then .ok false
  else if trueWords.contains word then .ok true
  else .error .unreadableBool

/-- Reads a truth value from a whole number. -/
def boolOfWhole (number : Int) : Reading Bool :=
  if number == 0 then .ok false
  else if number == 1 then .ok true
  else .error .unreadableBool

def readBool (value : Value) : Reading Bool :=
  match value with
  | .bool truth => .ok truth
  | .int number =>
    if -wordBound ≤ number && number < wordBound then boolOfWhole number else .error .notBool
  | .float number =>
    match wholeOfFloat number with
    | .ok whole => boolOfWhole whole
    | .error _ => .error .notBool
  | other =>
    match textOf? other with
    | some (some text) => boolOfText text
    | some none => .error .unreadableBool
    | none => .error .notBool

def readText (value : Value) : Reading String :=
  match textOf? value with
  | some (some text) => .ok text
  | some none => .error .undecodableText
  | none => .error .notText

def readPath (value : Value) : Reading Files.Path :=
  match value with
  | .text chars => .ok (Files.Path.ofString chars)
  | _ => .error .notPath

def readOptional {α : Type} (read : Value → Reading α) (value : Value) : Reading (Option α) :=
  match value with
  | .null => .ok none
  | present => (read present).map some

/-! ## Bounds -/

/-- Reads a whole number above a bound. -/
def wholeAbove (bound : Nat) (value : Value) : Reading Int := do
  let number ← readWhole value
  if (bound : Int) < number then pure number else throw (.notAbove bound)

/-- Reads a whole number that is at least a bound. -/
def wholeFrom (bound : Nat) (value : Value) : Reading Int := do
  let number ← readWhole value
  if (bound : Int) ≤ number then pure number else throw (.below bound)

/-- Refuses a number that is not at most a bound. -/
def atMost (bound : Nat) (number : Float) : Reading Float :=
  if number ≤ Decimal.ofInt bound then .ok number else .error (.above bound)

/-- Refuses a number that is not at least a bound. -/
def atLeast (bound : Nat) (number : Float) : Reading Float :=
  if Decimal.ofInt bound ≤ number then .ok number else .error (.below bound)

def aboveBound (bound : Nat) (number : Float) : Reading Float :=
  if Decimal.ofInt bound < number then .ok number else .error (.notAbove bound)

end BooleanSearch.Config
