import BooleanSearch.Pattern.CharTest
import BooleanSearch.Pattern.Reader

/-!
# Resolved patterns

A pattern whose switches have been resolved: every item says exactly what it tests.
-/

namespace BooleanSearch.Pattern

/-- A place between characters, with the switches that matter to it resolved. -/
inductive Place
  | textStart
  | lineStart
  | textEnd
  | lastLineEnd
  | lineEnd
  | boundary (ascii : Bool)
  | insideWord (ascii : Bool)
  deriving Repr, DecidableEq

/-- A pattern ready to be matched.  `run` is the repetition of a single character, `look` has the
width to step back for a lookbehind. -/
inductive Node
  | empty
  | char (test : CharTest)
  | place (kind : Place)
  | run (mode : RepeatMode) (least : Nat) (most : Option Nat) (test : CharTest)
  | repeated (mode : RepeatMode) (least : Nat) (most : Option Nat) (body : Node)
  | capture (index : Nat) (body : Node)
  | atomic (body : Node)
  | look (back : Nat) (negative : Bool) (body : Node)
  | backreference (index : Nat) (rule : CaseRule)
  | conditional (index : Nat) (yes no : Node)
  | seq (first second : Node)
  | choice (first second : Node)
  deriving Repr, DecidableEq

/-- The place that an anchor means under some switches. -/
def Anchor.resolve (flags : Flags) : Anchor → Place
  | .lineStart => if flags.multiLine then .lineStart else .textStart
  | .lineEnd => if flags.multiLine then .lineEnd else .lastLineEnd
  | .textStart => .textStart
  | .textEnd => .textEnd
  | .boundary => .boundary (!flags.unicode)
  | .insideWord => .insideWord (!flags.unicode)

/-- The name of a repetition in the wording of a fault. -/
def RepeatMode.operator : RepeatMode → String
  | .greedy => "MAX_REPEAT"
  | .lazy => "MIN_REPEAT"
  | .possessive => "POSSESSIVE_REPEAT"

/-- A repetition; that of a single character is told apart. -/
def Node.ofRepeat (mode : RepeatMode) (least : Nat) (most : Option Nat) : Node → Node
  | .char test => .run mode least most test
  | body => .repeated mode least most body

def lookbehindLimit : Nat :=
  4294967295

/-- The width that a lookbehind steps back, if it is fixed and not too large. -/
def lookbehindWidth (groups : Nat → Nat × Nat) (body : Tree) : Except Fault Nat :=
  let (low, high) := body.width groups
  if lookbehindLimit < low then .error (.invalid .wideLookbehind none)
  else if low != high then .error (.invalid .variableLookbehind none)
  else .ok low

/-- The set of characters that a tree begins with, if it begins with one, and the switches there. -/
def Tree.leadingSet? (flags : Flags) : Tree → Option (Flags × Bool × List SetMember)
  | .set negated members => some (flags, negated, members)
  | .group _ added removed body => body.leadingSet? (flags.within added removed)
  | .seq first _ => first.leadingSet? flags
  | _ => none

/-- Whether case matters to some member of a set. -/
def someMemberCased (rule : CaseRule) (members : List SetMember) : Bool :=
  members.any fun member =>
    match member with
    | .class _ _ => false
    | .code value => rule.isCased value
    | .range first last => rule != .exact && (supplementaryStart ≤ last || rule.someCased first last)

/-- What the first character of a match has to be beside what the tree says.  The set that a tree
begins with also has to hold it under the switches of the whole pattern, which matters where a
group has changed what letters are. -/
def Tree.opening? (groups : Nat → Nat × Nat) (flags : Flags) (tree : Tree) : Option CharTest :=
  match tree.leadingSet? flags with
  | none => none
  | some (inner, negated, members) =>
    if inner.unicode == flags.unicode || (tree.width groups).1 == 0
        || someMemberCased inner.caseRule members then none
    else some (CharTest.ofSet { flags with ignoreCase := false } negated members)

/-- Resolves the switches of a tree, from left to right. -/
def Tree.resolve (groups : Nat → Nat × Nat) (flags : Flags) : Tree → Except Fault Node
  | .empty => .ok .empty
  | .code value negated => .ok (.char (CharTest.ofCode flags value negated))
  | .any => .ok (.char (CharTest.any flags))
  | .set negated members => .ok (.char (CharTest.ofSet flags negated members))
  | .anchor kind => .ok (.place (kind.resolve flags))
  | .repeated mode least most body =>
    if flags.template then .error (.invalid (.repeatInTemplate mode.operator) none)
    else do
      let inner ← body.resolve groups flags
      pure (.ofRepeat mode least most inner)
  | .group index added removed body => do
    let inner ← body.resolve groups (flags.within added removed)
    match index with
    | none => pure inner
    | some index => pure (.capture index inner)
  | .atomic body => do
    let inner ← body.resolve groups flags
    pure (.atomic inner)
  | .look behind negative body => do
    let back ← if behind then lookbehindWidth groups body else pure 0
    let inner ← body.resolve groups flags
    pure (.look back negative inner)
  | .backreference index => .ok (.backreference index flags.caseRule)
  | .conditional index yes no => do
    let yesNode ← yes.resolve groups flags
    let noNode ← no.resolve groups flags
    pure (.conditional index yesNode noNode)
  | .seq first second => do
    let firstNode ← first.resolve groups flags
    let secondNode ← second.resolve groups flags
    pure (.seq firstNode secondNode)
  | .choice first second => do
    let firstNode ← first.resolve groups flags
    let secondNode ← second.resolve groups flags
    pure (.choice firstNode secondNode)

end BooleanSearch.Pattern
