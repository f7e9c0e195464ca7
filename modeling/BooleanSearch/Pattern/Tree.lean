import BooleanSearch.Pattern.Flags

/-!
# Pattern trees

The tree of a pattern as it is read, before its switches are resolved, and the least and greatest
number of characters that it can match.
-/

namespace BooleanSearch.Pattern

/-- The kinds of characters that have an escape of their own. -/
inductive ClassKind
  | digit
  | space
  | word
  deriving Repr, DecidableEq

inductive SetMember
  | code (value : Nat)
  | range (first last : Nat)
  | class (kind : ClassKind) (negated : Bool)
  deriving Repr, DecidableEq

/-- Places between characters. -/
inductive Anchor
  | lineStart
  | lineEnd
  | textStart
  | textEnd
  | boundary
  | insideWord
  deriving Repr, DecidableEq

/-- The order in which repetition counts are tried; a possessive repetition tries only one. -/
inductive RepeatMode
  | greedy
  | lazy
  | possessive
  deriving Repr, DecidableEq

/-- A pattern as it is read. -/
inductive Tree
  | empty
  | code (value : Nat) (negated : Bool)
  | any
  | set (negated : Bool) (members : List SetMember)
  | anchor (kind : Anchor)
  | repeated (mode : RepeatMode) (least : Nat) (most : Option Nat) (body : Tree)
  | group (index : Option Nat) (added removed : Flags) (body : Tree)
  | atomic (body : Tree)
  | look (behind negative : Bool) (body : Tree)
  | backreference (index : Nat)
  | conditional (index : Nat) (yes no : Tree)
  | seq (first second : Tree)
  | choice (first second : Tree)
  deriving Repr, DecidableEq

namespace Tree

def items : Tree → List Tree
  | .empty => []
  | .seq first second => first.items ++ second.items
  | other => [other]

def ofItems : List Tree → Tree
  | [] => .empty
  | [only] => only
  | first :: rest => .seq first (ofItems rest)

/-- The choice between some trees, tried in order. -/
def ofChoices : List Tree → Tree
  | [] => .empty
  | [only] => only
  | first :: rest => .choice first (ofChoices rest)

/-- The body of a group that neither captures nor changes switches. -/
def plainBody? : Tree → Option Tree
  | .group none added removed body => if added.isNone && removed.isNone then some body else none
  | _ => none

/-- The items with plain groups replaced by what they hold. -/
def unpack (items : List Tree) : List Tree :=
  items.flatMap fun item =>
    match item.plainBody? with
    | some body => body.items
    | none => [item]

/-- The greatest width that is told apart. -/
def widthLimit : Nat :=
  Nat.pow 2 64

/-- The least and greatest number of characters that a tree matches, given those of the groups
that a backreference can name. -/
def width (groups : Nat → Nat × Nat) : Tree → Nat × Nat
  | .empty => (0, 0)
  | .code _ _ => (1, 1)
  | .any => (1, 1)
  | .set _ _ => (1, 1)
  | .anchor _ => (0, 0)
  | .repeated _ least most body =>
    let (low, high) := body.width groups
    let high :=
      match most with
      | none => if high == 0 then 0 else widthLimit
      | some count => high * count
    (min (low * least) widthLimit, min high widthLimit)
  | .group _ _ _ body => body.width groups
  | .atomic body => body.width groups
  | .look _ _ _ => (0, 0)
  | .backreference index => groups index
  | .conditional _ yes no =>
    let (yesLow, yesHigh) := yes.width groups
    let (noLow, noHigh) := no.width groups
    (min yesLow noLow, max yesHigh noHigh)
  | .seq first second =>
    let (firstLow, firstHigh) := first.width groups
    let (secondLow, secondHigh) := second.width groups
    (min (firstLow + secondLow) widthLimit, min (firstHigh + secondHigh) widthLimit)
  | .choice first second =>
    let (firstLow, firstHigh) := first.width groups
    let (secondLow, secondHigh) := second.width groups
    (min firstLow secondLow, max firstHigh secondHigh)

/-- Whether two items are the same character, set, place or backreference. -/
def sameLeaf : Tree → Tree → Bool
  | .code left leftNegated, .code right rightNegated =>
    left == right && leftNegated == rightNegated
  | .any, .any => true
  | .set leftNegated left, .set rightNegated right =>
    leftNegated == rightNegated && left == right
  | .anchor left, .anchor right => left == right
  | .backreference left, .backreference right => left == right
  | _, _ => false

/-- The members that an item adds to a set which stands for a choice of single characters. -/
def setMembers? : Tree → Option (List SetMember)
  | .code value false => some [.code value]
  | .set false members => some members
  | _ => none

/-- The first item that all branches share. -/
def sharedHead? : List (List Tree) → Option Tree
  | (head :: _) :: rest =>
    if rest.all fun branch => (branch.head?.map (sameLeaf head)).getD false then some head
    else none
  | _ => none

/-- Takes shared items off the front of all branches, at most as many as the fuel. -/
def splitShared : Nat → List (List Tree) → List Tree × List (List Tree)
  | 0, branches => ([], branches)
  | fuel + 1, branches =>
    match sharedHead? branches with
    | none => ([], branches)
    | some head =>
      let (shared, rest) := splitShared fuel (branches.map List.tail)
      (head :: shared, rest)

/-- The members that a branch of one character adds to the set of a choice. -/
def branchMembers? : List Tree → Option (List SetMember)
  | [only] => only.setMembers?
  | _ => none

/-- The members of the set that stands for branches of one character each. -/
def choiceMembers? (branches : List (List Tree)) : Option (List SetMember) :=
  (branches.mapM branchMembers?).map fun members => members.flatten.eraseDups

/-- The tree of branches: shared first items stand once, before the choice, and branches of one
character each become a set. -/
def ofBranches : List (List Tree) → Tree
  | [] => .empty
  | [only] => ofItems only
  | branches =>
    let fuel := (branches.map List.length).foldl Nat.max 0
    let (shared, rest) := splitShared fuel branches
    let last :=
      match choiceMembers? rest with
      | some members => Tree.set false members
      | none => ofChoices (rest.map ofItems)
    ofItems (shared ++ [last])

end Tree

end BooleanSearch.Pattern
