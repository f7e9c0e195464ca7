import BooleanSearch.Pattern.Tree
import BooleanSearch.Text.Blank
import BooleanSearch.Text.DecimalDigit
import BooleanSearch.Text.Lettercase
import BooleanSearch.Text.WordChar

/-!
# Tests of single characters

What one character of the text has to be.  Where case is ignored, the text's character is first
put into lower case, and a member of a set stands for all characters that fold to the same one.
-/

namespace BooleanSearch.Pattern

/-- How case is compared: exactly, without regard to the case of ASCII letters, or without regard
to the case of all letters. -/
inductive CaseRule
  | exact
  | ascii
  | unicode
  deriving Repr, DecidableEq

/-- The code point under which a character is compared. -/
def CaseRule.fold : CaseRule → Nat → Nat
  | .exact, code => code
  | .ascii, code => Text.asciiLowerCode code
  | .unicode, code => Text.lowerCode code

/-- Lower case code points whose upper case is shared with other lower case code points. -/
def sharedUpperCases : List (Nat × List Nat) :=
  [
    (105, [305]), (115, [383]), (181, [956]), (305, [105]), (383, [115]), (837, [953, 8126]),
    (912, [8147]), (944, [8163]), (946, [976]), (949, [1013]), (952, [977]), (953, [837, 8126]),
    (954, [1008]), (956, [181]), (960, [982]), (961, [1009]), (962, [963]), (963, [962]),
    (966, [981]), (976, [946]), (977, [952]), (981, [966]), (982, [960]), (1008, [954]),
    (1009, [961]), (1013, [949]), (1074, [7296]), (1076, [7297]), (1086, [7298]), (1089, [7299]),
    (1090, [7300, 7301]), (1098, [7302]), (1123, [7303]), (7296, [1074]), (7297, [1076]),
    (7298, [1086]), (7299, [1089]), (7300, [1090, 7301]), (7301, [1090, 7300]), (7302, [1098]),
    (7303, [1123]), (7304, [42571]), (7777, [7835]), (7835, [7777]), (8126, [837, 953]),
    (8147, [912]), (8163, [944]), (42571, [7304]), (64261, [64262]), (64262, [64261])]

/-- The other lower case code points with the same upper case. -/
def caseSiblings (code : Nat) : List Nat :=
  (sharedUpperCases.lookup code).getD []

/-- Whether some code point of a range folds to the given one. -/
def CaseRule.someFolds (rule : CaseRule) (first last code : Nat) : Bool :=
  let within (value : Nat) : Bool := first ≤ value && value ≤ last
  match rule with
  | .exact => within code
  | .ascii =>
    if Text.isAsciiLetterCode code then
      97 ≤ code && (within code || within (code - 32))
    else within code
  | .unicode =>
    (code :: caseSiblings code).any fun sibling => (Text.lowerPreimages sibling).any within

/-- A member of a set as it is tested against a folded character. -/
inductive Member
  | code (value : Nat)
  | range (first last : Nat)
  | foldedRange (rule : CaseRule) (first last : Nat)
  | eitherCaseRange (first last : Nat)
  | class (kind : ClassKind) (ascii negated : Bool)
  deriving Repr, DecidableEq

/-- Whether a code point is of a kind. -/
def ClassKind.holds (kind : ClassKind) (ascii : Bool) (code : Nat) : Bool :=
  match kind, ascii with
  | .digit, true => 48 ≤ code && code ≤ 57
  | .digit, false => Text.isDecimalCode code
  | .space, true => Text.isAsciiBlankCode code
  | .space, false => Text.isBlankCode code
  | .word, true => code < 128 && Text.isAsciiWordCode code
  | .word, false => Text.isWordCode code

/-- Whether a folded code point is covered by a member. -/
def Member.covers (member : Member) (point : Nat) : Bool :=
  match member with
  | .code value => value == point
  | .range first last => first ≤ point && point ≤ last
  | .foldedRange rule first last => rule.someFolds first last point
  | .eitherCaseRange first last =>
    let upper := Text.firstUpperCode point
    (first ≤ point && point ≤ last) || (first ≤ upper && upper ≤ last)
  | .class kind ascii negated => kind.holds ascii point != negated

/-- A test of one character: it is folded and looked for among the members. -/
structure CharTest where
  rule : CaseRule
  negated : Bool
  members : List Member
  deriving Repr, DecidableEq

/-- Whether a code point passes the test. -/
def CharTest.acceptsCode (test : CharTest) (code : Nat) : Bool :=
  let folded := test.rule.fold code
  test.members.any (fun member => member.covers folded) != test.negated

/-- Whether a character passes the test. -/
def CharTest.accepts (test : CharTest) (char : Char) : Bool :=
  test.acceptsCode char.toNat

def Flags.caseRule (flags : Flags) : CaseRule :=
  if !flags.ignoreCase then .exact else if flags.unicode then .unicode else .ascii

/-- Whether case matters to a code point under a rule. -/
def CaseRule.isCased : CaseRule → Nat → Bool
  | .exact, _ => false
  | .ascii, code => Text.isAsciiLetterCode code
  | .unicode, code => Text.isCasedCode code

/-- Whether case matters to some code point of a range. -/
def CaseRule.someCased (rule : CaseRule) (first last : Nat) : Bool :=
  match rule with
  | .exact => false
  | .ascii => (first ≤ 90 && 65 ≤ last) || (first ≤ 122 && 97 ≤ last)
  | .unicode =>
    (List.range (min (last + 1 - first) 0x10000)).any fun offset =>
      Text.isCasedCode (first + offset)

/-- The test for a single code point. -/
def CharTest.ofCode (flags : Flags) (value : Nat) (negated : Bool) : CharTest :=
  let rule := flags.caseRule
  if !rule.isCased value then ⟨.exact, negated, [.code value]⟩
  else
    let folded := rule.fold value
    let siblings := if rule == .unicode then caseSiblings folded else []
    ⟨rule, negated, (folded :: siblings).map Member.code⟩

/-- The test for any character, or for any but the line feed. -/
def CharTest.any (flags : Flags) : CharTest :=
  if flags.dotAll then ⟨.exact, true, []⟩ else ⟨.exact, true, [.code 10]⟩

/-- The first code point beyond the basic plane. -/
def supplementaryStart : Nat :=
  0x10000

/-- The members that a set member stands for under a rule, and whether it makes case matter.
Beyond the basic plane a single code point is compared as it is, and a range holds a character
if it holds either case of it. -/
def SetMember.resolve (flags : Flags) : SetMember → List Member × Bool
  | .class kind negated => ([.class kind (!flags.unicode) negated], false)
  | .code value =>
    let rule := flags.caseRule
    if rule == .exact then ([.code value], false)
    else
      let folded := rule.fold value
      if supplementaryStart ≤ folded then ([.code value], true)
      else
        let siblings := if rule == .unicode then caseSiblings folded else []
        ((folded :: siblings).map Member.code, rule.isCased value)
  | .range first last =>
    let rule := flags.caseRule
    if rule == .exact then ([.range first last], false)
    else if supplementaryStart ≤ last then
      ((if first < supplementaryStart then [.foldedRange rule first (supplementaryStart - 1)]
        else []) ++ [.eitherCaseRange first last], true)
    else ([.foldedRange rule first last], rule.someCased first last)

def CharTest.ofSet (flags : Flags) (negated : Bool) (members : List SetMember) : CharTest :=
  let resolved := members.map (SetMember.resolve flags)
  let cased := resolved.any Prod.snd
  ⟨if cased then flags.caseRule else .exact, negated, resolved.flatMap Prod.fst⟩

end BooleanSearch.Pattern
