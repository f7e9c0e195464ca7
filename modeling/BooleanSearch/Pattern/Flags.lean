/-!
# Pattern flags

The switches that change how a pattern is read and matched.  A pattern literal may carry the
letters `i`, `m`, `s` and `x`; inside a pattern the letters `a` and `u` choose the character
classes, and `t` asks for a pattern without repetition.
-/

namespace BooleanSearch.Pattern

/-- A set of switches. -/
structure Flags where
  template : Bool := false
  ignoreCase : Bool := false
  multiLine : Bool := false
  dotAll : Bool := false
  unicode : Bool := false
  verbose : Bool := false
  ascii : Bool := false
  deriving Repr, DecidableEq, Inhabited

namespace Flags

/-- No switch. -/
def none : Flags := {}

/-- The switches of both sets. -/
def union (left right : Flags) : Flags where
  template := left.template || right.template
  ignoreCase := left.ignoreCase || right.ignoreCase
  multiLine := left.multiLine || right.multiLine
  dotAll := left.dotAll || right.dotAll
  unicode := left.unicode || right.unicode
  verbose := left.verbose || right.verbose
  ascii := left.ascii || right.ascii

/-- The switches of both sets at once. -/
def inter (left right : Flags) : Flags where
  template := left.template && right.template
  ignoreCase := left.ignoreCase && right.ignoreCase
  multiLine := left.multiLine && right.multiLine
  dotAll := left.dotAll && right.dotAll
  unicode := left.unicode && right.unicode
  verbose := left.verbose && right.verbose
  ascii := left.ascii && right.ascii

/-- The switches of the first set that are not in the second. -/
def minus (left right : Flags) : Flags where
  template := left.template && !right.template
  ignoreCase := left.ignoreCase && !right.ignoreCase
  multiLine := left.multiLine && !right.multiLine
  dotAll := left.dotAll && !right.dotAll
  unicode := left.unicode && !right.unicode
  verbose := left.verbose && !right.verbose
  ascii := left.ascii && !right.ascii

/-- Whether no switch is set. -/
def isNone (flags : Flags) : Bool :=
  flags == none

/-- The two switches that choose character classes. -/
def classFlags : Flags := { unicode := true, ascii := true }

/-- The switches inside a group that adds some and removes some; a choice of character classes
replaces the outer one. -/
def within (outer added removed : Flags) : Flags :=
  let base := if (added.inter classFlags).isNone then outer else outer.minus classFlags
  (base.union added).minus removed

/-- The number that encodes the switches, one bit each. -/
def toNat (flags : Flags) : Nat :=
  (if flags.template then 1 else 0) + (if flags.ignoreCase then 2 else 0)
    + (if flags.multiLine then 8 else 0) + (if flags.dotAll then 16 else 0)
    + (if flags.unicode then 32 else 0) + (if flags.verbose then 64 else 0)
    + (if flags.ascii then 256 else 0)

/-- The switch that a letter stands for inside a pattern. -/
def ofInlineLetter? : Char → Option Flags
  | 'i' => some { ignoreCase := true }
  | 'm' => some { multiLine := true }
  | 's' => some { dotAll := true }
  | 'x' => some { verbose := true }
  | 'a' => some { ascii := true }
  | 't' => some { template := true }
  | 'u' => some { unicode := true }
  | _ => Option.none

/-- The switch that a letter after a pattern literal stands for; `g`, `u` and `y` are accepted
without effect. -/
def ofLiteralLetter? : Char → Option Flags
  | 'i' => some { ignoreCase := true }
  | 'm' => some { multiLine := true }
  | 's' => some { dotAll := true }
  | 'x' => some { verbose := true }
  | 'g' => some {}
  | 'u' => some {}
  | 'y' => some {}
  | _ => Option.none

end Flags

end BooleanSearch.Pattern
