import BooleanSearch.Decimal.General
import BooleanSearch.Decimal.Number
import BooleanSearch.Decimal.Whole

/-!
# Message templates

A template is a text with placeholders: a percent sign, optionally a name in parentheses, flags, a
width and a precision, and a letter that tells how the argument is written.
-/

namespace BooleanSearch.Log.Template

/-- The arguments of a template: values to be used in order, or named values. -/
inductive Arguments
  | ordered (values : List Value)
  | named (entries : List (Value × Value))

/-- A placeholder without its name; the position is that of its letter. -/
structure Placeholder where
  flags : List Char := []
  width : Nat := 0
  precision : Option Nat := none
  letter : Char
  position : Nat

namespace Placeholder

/-- Whether a placeholder has a flag. -/
def has (place : Placeholder) (flag : Char) : Bool :=
  place.flags.contains flag

/-- A text filled up with spaces to the width. -/
def pad (place : Placeholder) (text : List Char) : List Char :=
  let blank := List.replicate (place.width - text.length) ' '
  if place.has '-' then text ++ blank else blank ++ text

/-- A number filled up to the width: with zeros behind its sign, if there is a flag for that. -/
def padNumber (place : Placeholder) (negative : Bool) (lead digits : List Char) : List Char :=
  let sign :=
    if negative then ['-'] else if place.has '+' then ['+'] else if place.has ' ' then [' '] else []
  if place.has '0' && !place.has '-' then
    let used := sign.length + lead.length + digits.length
    sign ++ lead ++ List.replicate (place.width - used) '0' ++ digits
  else place.pad (sign ++ lead ++ digits)

/-- A whole number in a base, its digits filled up to the precision. -/
def wholeText (place : Placeholder) (base : Nat) (lead : String) (value : Int) : List Char :=
  let digits := Nat.toDigits base value.natAbs
  let filled := List.replicate (place.precision.getD 1 - digits.length) '0' ++ digits
  place.padNumber (value < 0) (if place.has '#' then lead.toList else []) filled

def cutText (place : Placeholder) (text : String) : List Char :=
  place.pad (match place.precision with
    | none => text.toList
    | some count => text.toList.take count)

def wrongKind (place : Placeholder) (wanted : String) (value : Value) : Failure :=
  .badKind ("%" ++ String.singleton place.letter ++ " format: " ++ wanted ++ " is required, not "
    ++ value.kindName)

/-- The whole number of a value for the decimal letters. -/
def decimalOf (place : Placeholder) (value : Value) : Except Failure Int :=
  match value with
  | .bool _ | .int _ | .float _ => value.wholeNumber
  | _ =>
    let shown := if place.letter == 'u' then { place with letter := 'd' } else place
    .error (shown.wrongKind "a real number" value)

/-- The whole number of a value for the other bases. -/
def integerOf (place : Placeholder) (value : Value) : Except Failure Int :=
  match value with
  | .bool _ | .int _ => value.wholeNumber
  | _ => .error (place.wrongKind "an integer" value)

/-- A double as a letter writes it. -/
def floatText (place : Placeholder) (value : Float) : List Char :=
  let precision := place.precision.getD 6
  let keep := place.has '#'
  let text :=
    match place.letter.toLower with
    | 'e' => Decimal.scientific value precision keep
    | 'f' => Decimal.fixed value precision ++ (if keep && precision == 0 then "." else "")
    | _ => Decimal.general value precision keep
  let cased := if place.letter.isUpper then text.toUpper else text
  match cased.toList with
  | '-' :: rest => place.padNumber true [] rest
  | chars => place.padNumber false [] chars

/-- A character given as a text or by its code point. -/
def charText (place : Placeholder) (value : Value) : Except Failure (List Char) :=
  match value with
  | .text text =>
    match text.toList with
    | [char] => .ok (place.pad [char])
    | _ => .error (.badKind "%c requires int or char")
  | .int code =>
    if 0 ≤ code && code < 0x110000 then .ok (place.pad [Char.ofNat code.toNat])
    else .error (.overflow "%c arg not in range(0x110000)")
  | .bool truth => .ok (place.pad [Char.ofNat (if truth then 1 else 0)])
  | _ => .error (.badKind "%c requires int or char")

/-- A text with everything beyond ASCII escaped. -/
def asciiOnly (text : String) : String :=
  String.ofList (text.toList.flatMap fun char =>
    if char.toNat < 128 then [char] else Text.escapeCode char.toNat)

def isKnown (letter : Char) : Bool :=
  "sradiuxXoeEfFgGc".toList.contains letter

def unknownLetter (place : Placeholder) : Failure :=
  let code := String.ofList (Nat.toDigits 16 place.letter.toNat)
  let shown := if 31 < place.letter.toNat && place.letter.toNat < 127 then place.letter else '?'
  .badValue ("unsupported format character '" ++ String.singleton shown ++ "' (0x" ++ code
    ++ ") at index " ++ toString place.position)

def write (place : Placeholder) (value : Value) : Except Failure (List Char) := do
  match place.letter with
  | 's' => return place.cutText value.display
  | 'r' => return place.cutText value.literal
  | 'a' => return place.cutText (asciiOnly value.literal)
  | 'd' | 'i' | 'u' => return place.wholeText 10 "" (← place.decimalOf value)
  | 'o' => return place.wholeText 8 "0o" (← place.integerOf value)
  | 'x' => return place.wholeText 16 "0x" (← place.integerOf value)
  | 'X' =>
    return (place.wholeText 16 "0x" (← place.integerOf value)).map Char.toUpper
  | 'c' => place.charText value
  | letter =>
    if isKnown letter then
      match Number.ofValue? value with
      | none => throw (.badKind ("must be real number, not " ++ value.kindName))
      | some number =>
        if number.toFloat.isInf && (match number with | .whole _ => true | .real _ => false) then
          throw (.overflow "int too large to convert to float")
        else return place.floatText number.toFloat
    else throw place.unknownLetter

end Placeholder

/-- The failure of a template that ends within a placeholder. -/
def incomplete : Failure :=
  .badValue "incomplete format"

/-- The arguments that are left: values to be used in order, and named ones. -/
structure Supply where
  values : List Value
  entries : Option (List (Value × Value))

/-- The arguments of a template before any is used. -/
def Supply.ofArguments : Arguments → Supply
  | .ordered values => ⟨values, none⟩
  | .named entries => ⟨[.dict entries], some entries⟩

def Supply.next (supply : Supply) : Except Failure (Value × Supply) :=
  match supply.values with
  | [] => .error (.badKind "not enough arguments for format string")
  | value :: rest => .ok (value, { supply with values := rest })

/-- The supply with a named value as the only one in order. -/
def Supply.select (supply : Supply) (name : String) : Except Failure Supply :=
  match supply.entries with
  | none => .error (.badKind "format requires a mapping")
  | some entries =>
    match Value.lookup? entries name with
    | none => .error (.missingKey (Text.quoted name))
    | some value => .ok { supply with values := [value] }

/-- A name up to its closing parenthesis, and the text behind it. -/
def nameIn : Nat → List Char → List Char → Option (List Char × List Char)
  | _, _, [] => none
  | depth, done, char :: rest =>
    if char == ')' then
      match depth with
      | 0 => some (done.reverse, rest)
      | depth + 1 => nameIn depth (char :: done) rest
    else nameIn (if char == '(' then depth + 1 else depth) (char :: done) rest

/-- A number given by digits or, for a star, by the next value; and the text behind it. -/
def amount (supply : Supply) (chars : List Char) :
    Except Failure (Option Int × Supply × List Char) :=
  match chars with
  | '*' :: rest => do
    let (value, supply) ← supply.next
    match value with
    | .int number => return (some number, supply, rest)
    | .bool truth => return (some (if truth then 1 else 0), supply, rest)
    | _ => throw (.badKind "* wants int")
  | _ =>
    let digits := chars.takeWhile Char.isDigit
    let number := if digits.isEmpty then none else (String.ofList digits).toNat?.map Int.ofNat
    .ok (number, supply, chars.drop digits.length)

/-- Reads a placeholder behind its percent sign and writes its argument; tells the text behind
it.  `length` is that of the whole template. -/
def placeholder (length : Nat) (supply : Supply) (chars : List Char) :
    Except Failure (List Char × Supply × List Char) := do
  let (supply, chars) ←
    match chars with
    | '(' :: rest =>
      match supply.entries, nameIn 0 [] rest with
      | none, _ => throw (.badKind "format requires a mapping")
      | some _, none => throw (.badValue "incomplete format key")
      | some _, some (name, rest) => pure (← supply.select (String.ofList name), rest)
    | _ => pure (supply, chars)
  let flags := chars.takeWhile ['#', '0', '-', ' ', '+'].contains
  let (width, supply, chars) ← amount supply (chars.drop flags.length)
  let flags := if width.getD 0 < 0 then '-' :: flags else flags
  let (precision, supply, chars) ←
    match chars with
    | '.' :: rest =>
      let (number, supply, chars) ← amount supply rest
      pure (some (number.getD 0).toNat, supply, chars)
    | _ => pure (none, supply, chars)
  let chars :=
    match chars with
    | 'h' :: rest | 'l' :: rest | 'L' :: rest => rest
    | _ => chars
  match chars with
  | [] => throw incomplete
  | '%' :: rest => return (['%'], supply, rest)
  | letter :: rest =>
    let place : Placeholder :=
      { flags := flags, width := (width.getD 0).natAbs, precision := precision, letter := letter,
        position := length - chars.length }
    let (value, supply) ← supply.next
    return (← place.write value, supply, rest)

/-- Fills a template; the fuel bounds the number of its parts. -/
def fillFrom (length : Nat) : Nat → Supply → List Char → Except Failure (List Char)
  | 0, _, _ => .ok []
  | fuel + 1, supply, chars =>
    match chars with
    | [] =>
      if supply.entries.isNone && !supply.values.isEmpty then
        .error (.badKind "not all arguments converted during string formatting")
      else .ok []
    | '%' :: rest => do
      let (text, supply, rest) ← placeholder length supply rest
      return text ++ (← fillFrom length fuel supply rest)
    | _ => do
      let plain := chars.takeWhile (· != '%')
      return plain ++ (← fillFrom length fuel supply (chars.drop plain.length))

/-- A template with its placeholders replaced by arguments. -/
def fill (template : String) (arguments : Arguments) : Except Failure String := do
  let chars := template.toList
  return String.ofList
    (← fillFrom chars.length (chars.length + 1) (Supply.ofArguments arguments) chars)

/-- A message with its arguments: without any it stays as it is, and a single dictionary names
them. -/
def message (template : String) (values : List Value) : Except Failure String :=
  match values with
  | [] => .ok template
  | [.dict entries] =>
    fill template (if entries.isEmpty then .ordered values else .named entries)
  | _ => fill template (.ordered values)

/-- Whether a template starts with a placeholder for a named value. -/
def startsNamed (chars : List Char) : Bool :=
  match chars with
  | '%' :: '(' :: rest =>
    let name := rest.takeWhile fun char => char.isAlphanum || char == '_'
    match name.isEmpty, rest.drop name.length with
    | false, ')' :: rest =>
      let rest := rest.dropWhile ['#', '0', '+', ' ', '-'].contains
      let rest := dropAmount rest
      let rest :=
        match rest with
        | '.' :: more => if dropAmount more == more then rest else dropAmount more
        | _ => rest
      match rest with
      | letter :: _ => "diouxefgcrsa%".toList.contains letter.toLower
      | [] => false
    | _, _ => false
  | _ => false
where
  dropAmount : List Char → List Char
    | '*' :: rest => rest
    | chars => chars.dropWhile Char.isDigit

/-- Whether a template has a placeholder for a named value. -/
def hasNamed : List Char → Bool
  | [] => false
  | char :: rest => startsNamed (char :: rest) || hasNamed rest

end BooleanSearch.Log.Template
