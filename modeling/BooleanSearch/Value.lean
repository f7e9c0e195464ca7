import BooleanSearch.Decimal.Fixed
import BooleanSearch.Text.Quoted

/-!
# Values

Values whose kind is known only at run time: what a configuration file holds, what a caller may
offer as a distance, what a log record carries and what a cache may store.  Two texts exist for a
value: `show`, which leaves a text as it is, and `literal`, which quotes it.
-/

namespace BooleanSearch

/-- A value of a kind known only at run time.  A record names its kind and may declare how many
bytes it occupies. -/
inductive Value
  | null
  | bool (value : Bool)
  | int (value : Int)
  | float (value : Float)
  | text (value : String)
  | bytes (value : List UInt8)
  | list (items : List Value)
  | tuple (items : List Value)
  | set (items : List Value)
  | dict (entries : List (Value × Value))
  | record (kind : String) (fields : List (String × Value)) (size : Option Nat)
  deriving Inhabited

namespace Value

/-- The spelling of a truth value. -/
def boolText (value : Bool) : String :=
  if value then "True" else "False"

mutual

/-- The text of a value with texts quoted. -/
def literal : Value → String
  | .null => "None"
  | .bool value => boolText value
  | .int value => toString value
  | .float value => Decimal.shortest value
  | .text value => Text.quoted value
  | .bytes value => Text.quotedBytes value
  | .list items => "[" ++ joinWith ", " (literals items) ++ "]"
  | .tuple items =>
    match literals items with
    | [only] => "(" ++ only ++ ",)"
    | several => "(" ++ joinWith ", " several ++ ")"
  | .set items =>
    match literals items with
    | [] => "set()"
    | several => "\x7b" ++ joinWith ", " several ++ "\x7d"
  | .dict entries => "\x7b" ++ joinWith ", " (entryLiterals entries) ++ "\x7d"
  | .record kind fields _ => kind ++ "(" ++ joinWith ", " (fieldLiterals fields) ++ ")"

/-- The texts of several values. -/
def literals : List Value → List String
  | [] => []
  | first :: rest => literal first :: literals rest

/-- The texts of the entries of a dictionary. -/
def entryLiterals : List (Value × Value) → List String
  | [] => []
  | (key, value) :: rest => (literal key ++ ": " ++ literal value) :: entryLiterals rest

def fieldLiterals : List (String × Value) → List String
  | [] => []
  | (name, value) :: rest => (name ++ "=" ++ literal value) :: fieldLiterals rest

end

/-- The text of a value, a text being left as it is. -/
def display : Value → String
  | .text value => value
  | other => literal other

/-- The number that a truth value, whole number or double stands for, as a whole number if it is
one. -/
def number? : Value → Option (Int ⊕ Float)
  | .bool value => some (.inl (if value then 1 else 0))
  | .int value => some (.inl value)
  | .float value =>
    match Decimal.truncate? value with
    | some whole => if Decimal.ofInt whole == value then some (.inl whole) else some (.inr value)
    | none => some (.inr value)
  | _ => none

def sameNumber : Int ⊕ Float → Int ⊕ Float → Bool
  | .inl left, .inl right => left == right
  | .inr left, .inr right => left == right
  | _, _ => false

mutual

/-- Whether two values are equal: numbers by value whatever their kind, sequences item by item. -/
def same : Value → Value → Bool
  | .null, .null => true
  | .text left, .text right => left == right
  | .bytes left, .bytes right => left == right
  | .list left, .list right => sameItems left right
  | .tuple left, .tuple right => sameItems left right
  | .set left, .set right => left.length == right.length && includes left right
  | .dict left, .dict right => left.length == right.length && includesEntries left right
  | .record leftKind leftFields _, .record rightKind rightFields _ =>
    leftKind == rightKind && sameFields leftFields rightFields
  | left, right =>
    match number? left, number? right with
    | some leftNumber, some rightNumber => sameNumber leftNumber rightNumber
    | _, _ => false

/-- Whether two sequences are equal item by item. -/
def sameItems : List Value → List Value → Bool
  | [], [] => true
  | left :: lefts, right :: rights => same left right && sameItems lefts rights
  | _, _ => false

/-- Whether every value of the first list occurs in the second. -/
def includes : List Value → List Value → Bool
  | [], _ => true
  | left :: lefts, rights => rights.any (fun right => same left right) && includes lefts rights

/-- Whether every entry of the first dictionary occurs in the second. -/
def includesEntries : List (Value × Value) → List (Value × Value) → Bool
  | [], _ => true
  | (key, value) :: rest, rights =>
    rights.any (fun entry => same key entry.1 && same value entry.2) && includesEntries rest rights

/-- Whether two records have equal fields. -/
def sameFields : List (String × Value) → List (String × Value) → Bool
  | [], [] => true
  | (leftName, left) :: lefts, (rightName, right) :: rights =>
    leftName == rightName && same left right && sameFields lefts rights
  | _, _ => false

end

instance : BEq Value := ⟨same⟩

/-- Whether a member of a set is listed before another: whole numbers and texts ascend. -/
def precedes (left right : Value) : Bool :=
  match left, right with
  | .text left, .text right => left ≤ right
  | left, right =>
    match number? left, number? right with
    | some (.inl left), some (.inl right) => left ≤ right
    | _, _ => true

/-- The set of some values: of equal values the first is its member. -/
def ofMembers (values : List Value) : Value :=
  .set ((values.foldl (fun kept value => if kept.any (same value) then kept else kept ++ [value])
    []).mergeSort precedes)

/-- Entries with a further one: an equal key keeps its place and gets the new value. -/
def withEntry (entries : List (Value × Value)) (key value : Value) : List (Value × Value) :=
  if entries.any (fun entry => same entry.1 key) then
    entries.map fun entry => if same entry.1 key then (entry.1, value) else entry
  else entries ++ [(key, value)]

/-- The dictionary of some entries: of the entries with equal keys the first one has the place and
the last one the value. -/
def ofEntries (entries : List (Value × Value)) : Value :=
  .dict (entries.foldl (fun kept entry => withEntry kept entry.1 entry.2) [])

/-- The value under a text key of a dictionary. -/
def lookup? (entries : List (Value × Value)) (name : String) : Option Value :=
  (entries.find? fun entry => same entry.1 (.text name)).map Prod.snd

end Value

end BooleanSearch
