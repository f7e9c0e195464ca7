import BooleanSearch.Display.Wrap

/-!
# Drawn trees

A tree is drawn with its root first and every other label behind guides that lead to it.
-/

namespace BooleanSearch.Display

inductive LabelTree
  | node (label : Line) (branches : List LabelTree)

namespace LabelTree

/-- The guide that leads to a label from its left. -/
def turn (last : Bool) : String :=
  if last then "└── " else "├── "

/-- The guide that passes by a label and what is below it. -/
def passage (last : Bool) : String :=
  if last then "    " else "│   "

/-- The lines of a label behind guides: the first line has its own. -/
def labelLines (first others : String) : List Line → List Line
  | [] => []
  | line :: lines =>
    (Piece.ofString first :: line) :: lines.map fun line => Piece.ofString others :: line

mutual

/-- The lines of branches in some columns; `guides` lead past what is above them. -/
def branchLines (room : Nat) (guides : String) : List LabelTree → List Line
  | [] => []
  | branch :: rest =>
    treeLines room guides rest.isEmpty branch ++ branchLines room guides rest

/-- The lines of a branch; `last` tells that no other follows. -/
def treeLines (room : Nat) (guides : String) (last : Bool) : LabelTree → List Line
  | .node label branches =>
    labelLines (guides ++ turn last) (guides ++ passage last) (wrap (room - 4) label)
      ++ branchLines (room - 4) (guides ++ passage last) branches

end

/-- The lines of a tree in some columns. -/
def lines (room : Nat) : LabelTree → List Line
  | .node label branches => wrap room label ++ branchLines room "" branches

end LabelTree

end BooleanSearch.Display
