import BooleanSearch.Decimal.Fixed
import BooleanSearch.Display.Wrap

/-!
# Tables

A table has a title, a row of headings and rows of cells, with rules between them.  Its columns are
as wide as their contents; if that is too much, the widest ones give way first.
-/

namespace BooleanSearch.Display

/-- A column with its heading, its cells from top to bottom and the place of their texts. -/
structure Column where
  heading : Line
  cells : List Line
  alignment : Alignment := .left
  deriving Inhabited

structure Table where
  title : Line
  headingStyle : Style
  columns : List Column

namespace Column

/-- The columns of the terminal on both sides of a cell's text. -/
def padding : Nat := 2

/-- The width that a text asks for, of at most `room` columns. -/
def widthOf (room : Nat) (text : Line) : Nat :=
  if room ≤ padding then room
  else min room (min room (longestLine text.plain) + padding)

def width (room : Nat) (column : Column) : Nat :=
  if room == 0 then 0
  else ((column.heading :: column.cells).map (widthOf room)).foldl max 0

/-- The lines of a cell in a column of some width. -/
def cellLines (width : Nat) (alignment : Alignment) (style : Style) (text : Line) : List Line :=
  (wrap (width - padding) text alignment .ellipsis).map fun line =>
    Line.under style ([Piece.spaces 1] ++ line.fit (width - padding) {} ++ [Piece.spaces 1])

end Column

/-- Takes an amount from the values with a share, as evenly as shares of one allow, and from none
more than its bound; halves go to the even amount. -/
def takeShares (bound : Nat) (amount shares : Nat) : List (Nat × Bool) → List Nat
  | [] => []
  | (value, false) :: rest => value :: takeShares bound amount shares rest
  | (value, true) :: rest =>
    let taken := min bound (Decimal.roundHalfEven amount shares)
    (value - taken) :: takeShares bound (amount - taken) (shares - 1) rest

/-- The sum of some widths. -/
def total (widths : List Nat) : Nat :=
  widths.foldr (· + ·) 0

/-- One step towards widths of at most `room`: the widest ones give up what they have beyond the
next width, if that much is too much. -/
def narrowOnce (room : Nat) (widths : List Nat) : Option (List Nat) :=
  let excess := total widths - room
  let widest := widths.foldl max 0
  let next := (widths.filter fun width => width != widest).foldl max 0
  let shares := (widths.filter fun width => width == widest).length
  if excess == 0 || widest == next then none
  else
    some (takeShares (min excess (widest - next)) excess shares
      (widths.map fun width => (width, width == widest)))

/-- Widths of at most `room`, as far as that is possible; the fuel bounds the steps. -/
def narrow (room : Nat) : Nat → List Nat → List Nat
  | 0, widths => widths
  | fuel + 1, widths =>
    match narrowOnce room widths with
    | none => widths
    | some narrower => narrow room fuel narrower

/-- Widths of at most `room`: what is still too much is taken evenly from those that have some. -/
def shrink (room : Nat) (widths : List Nat) : List Nat :=
  let narrowed := narrow room (total widths + 1) widths
  let excess := total narrowed - room
  if excess == 0 then narrowed
  else takeEvenly excess (narrowed.filter fun width => width != 0).length narrowed
where
  /-- Takes an amount evenly from widths, and from none more than it has. -/
  takeEvenly (amount shares : Nat) : List Nat → List Nat
    | [] => []
    | 0 :: rest => 0 :: takeEvenly amount shares rest
    | width :: rest =>
      let taken := min width (Decimal.roundHalfEven amount shares)
      (width - taken) :: takeEvenly (amount - taken) (shares - 1) rest

namespace Table

/-- The columns of the terminal that rules take. -/
def rules (table : Table) : Nat :=
  table.columns.length + 1

/-- The widths of the columns on a terminal of `room` columns. -/
def widths (room : Nat) (table : Table) : List Nat :=
  let room := room - table.rules
  let wanted := table.columns.map fun column => max 1 (column.width room)
  if total wanted ≤ room then wanted
  else ((shrink room wanted).zip table.columns).map fun (width, column) => column.width width

def rule (left line crossing right : String) (widths : List Nat) : Line :=
  [Piece.ofString (left ++ joinWith crossing (widths.map fun width => repeated width line) ++ right)]

/-- The cells of a row side by side; each is filled up to the height of the row, below or above its
lines.  A row without any line is blank and has no style. -/
def rowLines (edge : String) (atBottom : Bool) (style : Style) (widths : List Nat)
    (alignments : List Alignment) (cells : List Line) : List Line :=
  let blocks := (widths.zip (alignments.zip cells)).map fun (width, alignment, cell) =>
    (width, Column.cellLines width alignment style cell)
  let drawn := (blocks.map fun block => block.2.length).foldl max 0
  let height := max drawn 1
  let blankStyle := if drawn == 0 then {} else style
  let filled := blocks.map fun (width, lines) =>
    let blank := List.replicate (height - lines.length) [Piece.spaces width blankStyle]
    (if atBottom then blank ++ lines else lines ++ blank).map (Line.fit width style)
  (List.range height).map fun index =>
    let parts := filled.map fun lines => lines.getD index []
    [Piece.ofString edge] ++ (parts.intersperse [Piece.ofString edge]).flatten
      ++ [Piece.ofString edge]

/-- The lines of a table on a terminal of `room` columns. -/
def lines (room : Nat) (table : Table) : List Line :=
  let widths := table.widths room
  let alignments := table.columns.map Column.alignment
  let count := (table.columns.map fun column => column.cells.length).foldl max 0
  let titleLines := (wrap (total widths + table.rules) table.title .center).map
    (Line.under (.having [.italic]))
  titleLines
    ++ [rule "┏" "━" "┳" "┓" widths]
    ++ rowLines "┃" true table.headingStyle widths alignments (table.columns.map Column.heading)
    ++ [rule "┡" "━" "╇" "┩" widths]
    ++ (List.range count).flatMap (fun index =>
      rowLines "│" false {} widths alignments
        (table.columns.map fun column => column.cells.getD index []))
    ++ [rule "└" "─" "┴" "┘" widths]

end Table

end BooleanSearch.Display
