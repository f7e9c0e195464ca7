import BooleanSearch.Text.Printable
import BooleanSearch.Text.Basic

/-!
# Quoted texts

A quoted text stands between single quotes, or between double quotes if it holds a single quote
and no double one.  Backslash, the quote itself and everything that does not print are escaped.
-/

namespace BooleanSearch.Text

/-- The lower case hexadecimal digit of a number below sixteen. -/
def hexDigit (value : Nat) : Char :=
  if value < 10 then Char.ofNat (48 + value) else Char.ofNat (87 + value)

/-- The last `width` hexadecimal digits of a number. -/
def hexDigits (width value : Nat) : List Char :=
  (List.range width).reverse.map fun place => hexDigit (value / Nat.pow 16 place % 16)

/-- The escape of a character that does not print, in the shortest of the three widths. -/
def escapeCode (code : Nat) : List Char :=
  if code < 0x100 then '\\' :: 'x' :: hexDigits 2 code
  else if code < 0x10000 then '\\' :: 'u' :: hexDigits 4 code
  else '\\' :: 'U' :: hexDigits 8 code

/-- A character as it stands between quotes of the given kind. -/
def quoteChar (quote char : Char) : List Char :=
  if char == quote || char == '\\' then ['\\', char]
  else if char == '\n' then ['\\', 'n']
  else if char == '\r' then ['\\', 'r']
  else if char == '\t' then ['\\', 't']
  else if isPrintable char then [char]
  else escapeCode char.toNat

def quoteFor (chars : List Char) : Char :=
  if chars.contains '\'' && !chars.contains '"' then '"' else '\''

def quoted (text : String) : String :=
  let chars := text.toList
  let quote := quoteFor chars
  String.ofList (quote :: chars.flatMap (quoteChar quote) ++ [quote])

/-- The quoted form of bytes: like that of a text, marked with a `b`, and with every byte beyond
ASCII escaped. -/
def quotedBytes (bytes : List UInt8) : String :=
  let chars := bytes.map fun byte => Char.ofNat byte.toNat
  let quote := quoteFor chars
  let one (char : Char) : List Char :=
    if char.toNat < 128 then quoteChar quote char else escapeCode char.toNat
  String.ofList ('b' :: quote :: chars.flatMap one ++ [quote])

end BooleanSearch.Text
