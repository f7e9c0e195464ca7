/-!
# Blank characters

The characters that separate words: the ASCII blanks and separators, the next-line and no-break
spaces, and the spaces and line breaks of other scripts.
-/

namespace BooleanSearch.Text

/-- Whether a code point separates words. -/
def isBlankCode (code : Nat) : Bool :=
  (9 ≤ code && code ≤ 13) || (28 ≤ code && code ≤ 32) || code == 0x85 || code == 0xA0
    || code == 0x1680 || (0x2000 ≤ code && code ≤ 0x200A) || code == 0x2028 || code == 0x2029
    || code == 0x202F || code == 0x205F || code == 0x3000

/-- Whether a character separates words. -/
def isBlank (char : Char) : Bool :=
  isBlankCode char.toNat

/-- Whether a code point is one of the six ASCII blanks: tab, the line breaks and the space. -/
def isAsciiBlankCode (code : Nat) : Bool :=
  (9 ≤ code && code ≤ 13) || code == 32

/-- A text without the blanks at both ends. -/
def strip (text : String) : String :=
  let inner := text.toList.dropWhile isBlank
  String.ofList (inner.reverse.dropWhile isBlank).reverse

/-- Whether a character may stand around a number: any blank but the four ASCII separators. -/
def isPadding (char : Char) : Bool :=
  isBlank char && !(28 ≤ char.toNat && char.toNat ≤ 31)

/-- A text without the padding at both ends. -/
def trimPadding (chars : List Char) : List Char :=
  ((chars.dropWhile isPadding).reverse.dropWhile isPadding).reverse

/-- The maximal runs of characters that are not blank, in order. -/
def splitBlanks (chars : List Char) : List (List Char) :=
  let step : List (List Char) × List Char → Char → List (List Char) × List Char :=
    fun (done, word) char =>
      if isBlank char then
        (if word.isEmpty then (done, []) else (word.reverse :: done, []))
      else (done, char :: word)
  let (done, word) := chars.foldl step ([], [])
  (if word.isEmpty then done else word.reverse :: done).reverse

end BooleanSearch.Text
