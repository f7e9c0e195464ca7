import BooleanSearch.Text.Basic
import BooleanSearch.Text.CodeRanges
import BooleanSearch.Text.NameTable.BasicPlane
import BooleanSearch.Text.NameTable.OtherPlanes

/-!
# Names of characters

The character of a name.  Hangul syllables are named by their letters and ideographs by their code
points; all other names are in tables.  Only in the names of syllables and unified ideographs does
the case of the letters count.  The names of sequences of characters name no character.
-/

namespace BooleanSearch.Text

/-! ## Names that a rule gives -/

def leadingLetters : List String :=
  ["G", "GG", "N", "D", "DD", "R", "M", "B", "BB", "S", "SS", "", "J", "JJ", "C", "K", "T", "P", "H"]

def vowelLetters : List String :=
  ["A", "AE", "YA", "YAE", "EO", "E", "YEO", "YE", "O", "WA", "WAE", "OE", "YO", "U", "WEO", "WE",
    "WI", "YU", "EU", "YI", "I"]

def trailingLetters : List String :=
  ["", "G", "GG", "GS", "N", "NJ", "NH", "D", "L", "LG", "LM", "LB", "LS", "LT", "LP", "LH", "M", "B",
    "BS", "S", "SS", "NG", "J", "C", "K", "T", "P", "H"]

def isVowelPart (char : Char) : Bool :=
  "AEIOUWY".toList.contains char

/-- The Hangul syllable that is written with some letters. -/
def syllableCode? (letters : List Char) : Option Nat := do
  let after := letters.dropWhile fun char => !isVowelPart char
  let leading ← leadingLetters.idxOf? (String.ofList (letters.takeWhile fun char => !isVowelPart char))
  let vowel ← vowelLetters.idxOf? (String.ofList (after.takeWhile isVowelPart))
  let trailing ← trailingLetters.idxOf? (String.ofList (after.dropWhile isVowelPart))
  return 0xAC00 + (leading * vowelLetters.length + vowel) * trailingLetters.length + trailing

def unifiedIdeographs : CodeRanges :=
  ⟨#[
    (13312, 19903), (19968, 40959), (131072, 173791), (173824, 177976), (177984, 178205),
    (178208, 183969), (183984, 191456), (196608, 201546)
  ]⟩

/-- The value of a hexadecimal digit in upper case. -/
def upperHexValue? (char : Char) : Option Nat :=
  if '0' ≤ char ∧ char ≤ '9' then some (char.toNat - 48)
  else if 'A' ≤ char ∧ char ≤ 'F' then some (char.toNat - 55)
  else none

/-- The code point of four or five hexadecimal digits in upper case. -/
def codeOfDigits? (digits : List Char) : Option Nat :=
  if digits.length = 4 ∨ digits.length = 5 then
    (digits.mapM upperHexValue?).map (·.foldl (fun code value => 16 * code + value) 0)
  else none

/-- Kinds of characters that are told apart by their code points only. -/
def numberedKinds : List (String × CodeRanges) :=
  [("CJK COMPATIBILITY IDEOGRAPH-", ⟨#[(63744, 64109), (64112, 64217), (194560, 195101)]⟩),
    ("KHITAN SMALL SCRIPT CHARACTER-", ⟨#[(101120, 101589)]⟩),
    ("NUSHU CHARACTER-", ⟨#[(110960, 111355)]⟩)]

/-- The part of a name behind a prefix. -/
def behind? (lead : String) (name : List Char) : Option (List Char) :=
  if lead.toList.isPrefixOf name then some (name.drop lead.length) else none

/-- The character of a kind whose name ends in its code point, without needless zeros. -/
def numberedCode? (name : List Char) : Option Nat :=
  numberedKinds.findSome? fun (lead, codes) => do
    let digits ← behind? lead name
    let code ← codeOfDigits? digits
    if codes.contains code && digits.length == (if code < 0x10000 then 4 else 5) then code else none

/-! ## Names in tables -/

/-- A name up to the end of its first `count` words.  A blank or a hyphen ends a word. -/
def leadingWords : Nat → List Char → List Char
  | 0, _ => []
  | _, [] => []
  | count + 1, char :: rest =>
    char :: leadingWords (if char == ' ' || char == '-' then count else count + 1) rest

/-- The name that an item tells behind another name. -/
def nameAfter (before item : List Char) : List Char :=
  match item.dropWhile fun char => char == '\n' || char == ' ' with
  | [] => []
  | shared :: rest => leadingWords (shared.toNat - 48) before ++ rest

/-- The place of a name among those that some items tell behind another name. -/
def placeAmong? (name before : List Char) : List (List Char) → Option Nat
  | [] => none
  | item :: rest =>
    let next := nameAfter before item
    if next == name then some 0 else (placeAmong? name next rest).map (· + 1)

/-- The character of a name in a run. -/
def codeInRun? (name : List Char) (run : Nat × String) : Option Nat :=
  (placeAmong? name [] (splitChars ',' run.2.toList)).map (run.1 + ·)

example : codeInRun? "DIGIT TWO".toList (48, "0DIGIT ZERO,1ONE,1TWO,0COLON") = some 50 := by decide

def nameRuns : List (Nat × String) :=
  basicNameRuns.toList ++ otherNameRuns.toList ++ furtherNameRuns.toList

def upperAscii (char : Char) : Char :=
  if 'a' ≤ char ∧ char ≤ 'z' then Char.ofNat (char.toNat - 32) else char

/-- The code point of the character with a name. -/
def namedCode? (name : List Char) : Option Nat :=
  match behind? "HANGUL SYLLABLE " name, behind? "CJK UNIFIED IDEOGRAPH-" name with
  | some letters, _ => syllableCode? letters
  | none, some digits => (codeOfDigits? digits).filter unifiedIdeographs.contains
  | none, none =>
    let upper := name.map upperAscii
    (numberedCode? upper).or (nameRuns.findSome? (codeInRun? upper))

end BooleanSearch.Text
