import BooleanSearch.Pattern.Compiled

/-!
# Patterns for literal texts

A text becomes a pattern that matches just this text by escaping the characters that have a
meaning in patterns.  As a whole word it must not touch another word character.
-/

namespace BooleanSearch.Pattern

/-- The characters that have a meaning in some pattern, blanks included. -/
def specialChars : List Char :=
  "()[]\x7b\x7d?*+-|^$\\.&~# \t\n\r\x0b\x0c".toList

def escapeChar (char : Char) : List Char :=
  if specialChars.contains char then ['\\', char] else [char]

/-- The source of a pattern for a literal text. -/
def escape (text : String) : String :=
  String.ofList (text.toList.flatMap escapeChar)

/-- The source of a pattern for a text as a whole word. -/
def wholeWordSource (text : String) : String :=
  "(?<!\\w)" ++ escape text ++ "(?!\\w)"

/-- The switches that make a pattern case sensitive or not. -/
def caseFlags (caseSensitive : Bool) : Flags :=
  { ignoreCase := !caseSensitive }

/-- The matches of an own pattern, which is known to compile. -/
def spansOf (source : String) (flags : Flags) (text : Text) : List (Nat × Nat) :=
  match compileWith source flags with
  | .ok pattern => pattern.spans text
  | .error _ => []

def wholeWordSpans (part : String) (caseSensitive : Bool) (text : Text) : List (Nat × Nat) :=
  spansOf (wholeWordSource part) (caseFlags caseSensitive) text

end BooleanSearch.Pattern
