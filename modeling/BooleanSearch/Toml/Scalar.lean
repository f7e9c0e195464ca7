import BooleanSearch.Toml.Scan

/-!
# Numbers, dates and times of configuration documents

Each reader looks at the characters from the present offset on and tells how many of them it takes.
Digits may be separated by single underscores.
-/

namespace BooleanSearch.Toml

/-! ## Digits -/

/-- Takes digits of a kind that may be separated by single underscores; there must be one. -/
def digitRun? (isDigit : Char → Bool) : List Char → Option (List Char × List Char)
  | [] => none
  | char :: rest =>
    if isDigit char then some (more [char] rest) else none
where
  more (taken : List Char) : List Char → List Char × List Char
    | [] => (taken.reverse, [])
    | [char] => if isDigit char then ((char :: taken).reverse, []) else (taken.reverse, [char])
    | char :: next :: rest =>
      if isDigit char then more (char :: taken) (next :: rest)
      else if char == '_' && isDigit next then more (next :: char :: taken) rest
      else (taken.reverse, char :: next :: rest)

def isDecimal (char : Char) : Bool :=
  '0' ≤ char && char ≤ '9'

/-- A digit in a base up to sixteen. -/
def isDigitIn (base : Nat) (char : Char) : Bool :=
  match hexValue? char with
  | some value => value < base
  | none => false

/-- The base that the second character of a number names. -/
def baseOf? : Char → Option Nat
  | 'x' => some 16
  | 'o' => some 8
  | 'b' => some 2
  | _ => none

/-! ## Numbers -/

/-- The whole part of a decimal number: zero, or digits that do not start with zero. -/
def wholePart? : List Char → Option (List Char × List Char)
  | '0' :: rest => some (['0'], rest)
  | chars => digitRun? isDecimal chars

/-- The digits after a point, if there are any. -/
def fractionPart : List Char → List Char × List Char
  | '.' :: rest => (digitRun? isDecimal rest).getD ([], '.' :: rest)
  | chars => ([], chars)

/-- The sign at the start of some characters. -/
def signPart : List Char → List Char × List Char
  | '+' :: rest => (['+'], rest)
  | '-' :: rest => (['-'], rest)
  | chars => ([], chars)

def exponentPart (chars : List Char) : Option (Bool × List Char × List Char) :=
  match chars with
  | mark :: rest =>
    if mark == 'e' || mark == 'E' then
      let (sign, digits) := signPart rest
      (digitRun? isDecimal digits).map fun taken => (sign == ['-'], taken.1, taken.2)
    else none
  | [] => none

/-- A value with the number of characters that it takes. -/
abbrev Taken : Type := Value × Nat

/-- A whole number in base sixteen, eight or two. -/
def basedNumber? : List Char → Option Taken
  | '0' :: mark :: rest =>
    match baseOf? mark with
    | none => none
    | some base =>
      (digitRun? (isDigitIn base) rest).map fun taken =>
        (.int (numberIn base taken.1), taken.1.length + 2)
  | _ => none

/-- The digits among some characters. -/
def digitsOf (chars : List Char) : List Char :=
  chars.filter isDecimal

/-- A decimal number; it is a double if it has a fraction or an exponent. -/
def decimalNumber? (chars : List Char) : Option (Except ReadError Taken) :=
  let (sign, unsigned) := signPart chars
  match wholePart? unsigned with
  | none => none
  | some (whole, afterWhole) =>
    let negative := sign == ['-']
    let (fraction, afterFraction) := fractionPart afterWhole
    let point := if fraction.isEmpty then 0 else 1
    let length := sign.length + whole.length + point + fraction.length
    let mantissa := digitsOf whole ++ digitsOf fraction
    let places : Int := (digitsOf fraction).length
    match exponentPart afterFraction with
    | some (below, exponent, rest) =>
      let power : Int := numberIn 10 (digitsOf exponent)
      some (.ok (.float (Decimal.floatOf negative (numberIn 10 mantissa)
        ((if below then -power else power) - places)), chars.length - rest.length))
    | none =>
      if fraction.isEmpty then
        let digits := digitsOf whole
        if Text.digitLimit < digits.length then some (.error (.tooManyDigits digits.length))
        else
          let number : Int := numberIn 10 digits
          some (.ok (.int (if negative then -number else number), length))
      else
        some (.ok (.float (Decimal.floatOf negative (numberIn 10 mantissa) (-places)), length))

/-- Infinity or a double that is no number, with an optional sign. -/
def specialNumber? (chars : List Char) : Option Taken :=
  let (sign, unsigned) := signPart chars
  let length := sign.length + 3
  match unsigned with
  | 'i' :: 'n' :: 'f' :: _ =>
    some (.float (if sign == ['-'] then -1.0 / 0.0 else 1.0 / 0.0), length)
  | 'n' :: 'a' :: 'n' :: _ => some (.float (0.0 / 0.0), length)
  | _ => none

/-! ## Dates and times -/

/-- A number of exactly some digits between bounds. -/
def numberOf? (count low high : Nat) (chars : List Char) : Option (Nat × List Char) :=
  let digits := chars.take count
  let number := numberIn 10 digits
  if digits.length == count && digits.all isDecimal && low ≤ number && number ≤ high then
    some (number, chars.drop count)
  else none

def after? (char : Char) : List Char → Option (List Char)
  | first :: rest => if first == char then some rest else none
  | [] => none

/-- A time of the day: the rest after hours, minutes, seconds and, if there are any, fractions. -/
def time? (chars : List Char) : Option (List Char) := do
  let (_, rest) ← numberOf? 2 0 23 chars
  let rest ← after? ':' rest
  let (_, rest) ← numberOf? 2 0 59 rest
  let rest ← after? ':' rest
  let (_, rest) ← numberOf? 2 0 59 rest
  match rest with
  | '.' :: digits =>
    let more := digits.dropWhile isDecimal
    if more.length < digits.length then pure more else pure rest
  | _ => pure rest

/-- The rest after the offset of a time, if it has one. -/
def zoneRest (chars : List Char) : List Char :=
  match chars with
  | 'Z' :: rest => rest
  | 'z' :: rest => rest
  | sign :: rest =>
    if sign == '+' || sign == '-' then
      (do
        let (_, rest) ← numberOf? 2 0 23 rest
        let rest ← after? ':' rest
        let (_, rest) ← numberOf? 2 0 59 rest
        pure rest).getD chars
    else chars
  | [] => chars

def isLeapYear (year : Nat) : Bool :=
  year % 4 == 0 && (year % 100 != 0 || year % 400 == 0)

def daysIn (year month : Nat) : Nat :=
  if month == 2 then (if isLeapYear year then 29 else 28)
  else if [4, 6, 9, 11].contains month then 30
  else 31

/-- A date with a time of the day and its offset, as far as they are there: whether there is such a
day, and the rest. -/
def moment? (chars : List Char) : Option (Bool × List Char) := do
  let (year, rest) ← numberOf? 4 0 9999 chars
  let rest ← after? '-' rest
  let (month, rest) ← numberOf? 2 1 12 rest
  let rest ← after? '-' rest
  let (day, rest) ← numberOf? 2 1 31 rest
  let valid := 1 ≤ year && day ≤ daysIn year month
  match rest with
  | mark :: clock =>
    if mark == 'T' || mark == 't' || mark == ' ' then
      match time? clock with
      | some afterTime => pure (valid, zoneRest afterTime)
      | none => pure (valid, rest)
    else pure (valid, rest)
  | [] => pure (valid, rest)

/-- The characters between some characters and a rest of them, as a value of a kind. -/
def spelled (kind : String) (chars rest : List Char) : Taken :=
  let length := chars.length - rest.length
  (.record kind [("text", .text (String.ofList (chars.take length)))] none, length)

/-- Reads a date, a time or a number. -/
def readScalar (source : Text) : Scan Value := do
  let chars := (source.slice (← get) source.size).toList
  let take (taken : Taken) : Scan Value := do
    advance taken.2
    pure taken.1
  match moment? chars with
  | some (valid, rest) => if valid then take (spelled "date" chars rest) else failHere .invalidMoment
  | none =>
    match time? chars with
    | some rest => take (spelled "time" chars rest)
    | none =>
      match basedNumber? chars with
      | some taken => take taken
      | none =>
        match decimalNumber? chars with
        | some (.ok taken) => take taken
        | some (.error error) => throw error
        | none =>
          match specialNumber? chars with
          | some taken => take taken
          | none => failHere .invalidValue

end BooleanSearch.Toml
