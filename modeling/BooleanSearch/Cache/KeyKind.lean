import BooleanSearch.Error

/-!
# Values that can be keys

A key must not change, so lists, sets and dictionaries cannot be keys, nor can anything that is
composed of them.
-/

namespace BooleanSearch.Value

mutual

/-- The kind of the first part of a value that keeps it from being a key. -/
def unstableKind? : Value → Option String
  | .list _ => some "list"
  | .set _ => some "set"
  | .dict _ => some "dict"
  | .tuple items => firstUnstable? items
  | .record _ fields _ => firstUnstableField? fields
  | _ => none

/-- The first such kind among several values. -/
def firstUnstable? : List Value → Option String
  | [] => none
  | first :: rest =>
    match unstableKind? first with
    | some kind => some kind
    | none => firstUnstable? rest

/-- The first such kind among the fields of a record. -/
def firstUnstableField? : List (String × Value) → Option String
  | [] => none
  | (_, value) :: rest =>
    match unstableKind? value with
    | some kind => some kind
    | none => firstUnstableField? rest

end

/-- Refuses a value that cannot be a key. -/
def checkKey (value : Value) : Except Failure Unit :=
  match value.unstableKind? with
  | none => .ok ()
  | some kind => .error (.badKind ("unhashable type: '" ++ kind ++ "'"))

end BooleanSearch.Value
