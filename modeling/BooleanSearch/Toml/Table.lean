import BooleanSearch.Toml.Fault

/-!
# Tables under construction

A document is read into a tree of tables.  Values are final; tables and lists of tables may still
grow, unless their keys are marked.
-/

namespace BooleanSearch.Toml

/-- What stands under a name: a final value, a table, or a list of tables whose last one may
grow. -/
inductive Node
  | value (value : Value)
  | table (entries : List (String × Node))
  | tables (items : List (List (String × Node)))
  deriving Inhabited

/-- The entries of a table, in the order in which their names came first. -/
abbrev Entries := List (String × Node)

/-- Entries with one of them replaced or, if the name is new, added. -/
def setNode (name : String) (node : Node) : Entries → Entries
  | [] => [(name, node)]
  | (other, inside) :: rest =>
    if other == name then (name, node) :: rest else (other, inside) :: setNode name node rest

/-- Changes the table under a key; tables on the way are made, and the last table of a list stands
for the list.  There is none behind a value. -/
def changeTable (change : Entries → Option Entries) : Key → Entries → Option Entries
  | [], entries => change entries
  | name :: rest, entries =>
    match entries.lookup name with
    | none => (changeTable change rest []).map fun inside => setNode name (.table inside) entries
    | some (.table inside) =>
      (changeTable change rest inside).map fun changed => setNode name (.table changed) entries
    | some (.tables items) =>
      match items.getLast? with
      | none => none
      | some last =>
        (changeTable change rest last).map fun changed =>
          setNode name (.tables (items.dropLast ++ [changed])) entries
    | some (.value _) => none

/-- Adds a table to the list of tables under a key. -/
def appendTable (key : Key) (entries : Entries) : Option Entries :=
  match key.getLast? with
  | none => none
  | some name =>
    changeTable
      (fun inside =>
        match inside.lookup name with
        | none => some (setNode name (.tables [[]]) inside)
        | some (.tables items) => some (setNode name (.tables (items ++ [[]])) inside)
        | some _ => none)
      key.dropLast entries

mutual

def Node.toValue : Node → Value
  | .value value => value
  | .table entries => .dict (entryValues entries)
  | .tables items => .list (tableValues items)

/-- The entries of a finished table as those of a dictionary. -/
def entryValues : List (String × Node) → List (Value × Value)
  | [] => []
  | (name, node) :: rest => (.text name, node.toValue) :: entryValues rest

def tableValues : List (List (String × Node)) → List Value
  | [] => []
  | entries :: rest => .dict (entryValues entries) :: tableValues rest

end

/-- The marks of keys: frozen ones hold final values, declared ones have been opened by a header or
will have been when the next header comes. -/
structure Marks where
  frozen : List Key := []
  declared : List Key := []
  pending : List Key := []
  deriving Inhabited

namespace Marks

def isFrozen (marks : Marks) (key : Key) : Bool :=
  marks.frozen.any fun frozen => frozen.isPrefixOf key

def isDeclared (marks : Marks) (key : Key) : Bool :=
  marks.declared.contains key

def freeze (marks : Marks) (key : Key) : Marks :=
  { marks with frozen := key :: marks.frozen }

def declare (marks : Marks) (key : Key) : Marks :=
  { marks with declared := key :: marks.declared }

/-- Declares keys when the next header comes. -/
def postpone (marks : Marks) (keys : List Key) : Marks :=
  { marks with pending := keys ++ marks.pending }

/-- Declares what was postponed. -/
def settle (marks : Marks) : Marks :=
  { marks with declared := marks.pending ++ marks.declared, pending := [] }

/-- Forgets the marks at and below a key. -/
def release (marks : Marks) (key : Key) : Marks :=
  { marks with
    frozen := marks.frozen.filter fun other => !key.isPrefixOf other
    declared := marks.declared.filter fun other => !key.isPrefixOf other }

end Marks

end BooleanSearch.Toml
