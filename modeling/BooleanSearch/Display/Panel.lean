import BooleanSearch.Display.Wrap

/-!
# Panels

A text in a frame with round corners, with a title in the middle of its upper edge.
-/

namespace BooleanSearch.Display

/-- A piece with spaces for its line feeds. -/
def onOneLine (piece : Piece) : Piece :=
  { piece with chars := piece.chars.map fun char => if char == '\n' then ' ' else char }

/-- The upper edge of a frame of some columns.  A title that is too long is cut, and a frame that is
too narrow has none. -/
def upperEdge (room : Nat) (style : Style) (title : Line) : Line :=
  if room ≤ 4 then [Piece.ofString ("╭" ++ repeated (room - 2) "─" ++ "╮") style]
  else
    let padded : Line := Line.padEnd 1 (Line.indent 1 (expandTabs 0 (title.map onOneLine)))
    let shown := (padded.truncate (room - 4) .fold).under style
    let excess := room - 4 - shown.width
    let edge (count : Nat) : Line :=
      if excess == 0 then [] else [Piece.ofString (repeated count "─") style]
    [Piece.ofString "╭─" style] ++ edge (excess / 2) ++ shown ++ edge (excess - excess / 2)
      ++ [Piece.ofString "─╮" style]

/-- The lower edge of a frame of some columns. -/
def lowerEdge (room : Nat) (style : Style) : Line :=
  [Piece.ofString ("╰" ++ repeated (room - 2) "─" ++ "╯") style]

/-- A text in a frame of some columns. -/
def panel (room : Nat) (style : Style) (title text : Line) : List Line :=
  let side := Piece.ofString "│" style
  let inner := (wrap (room - 4) text).map fun line =>
    [side, Piece.spaces 1] ++ line.fit (room - 4) {} ++ [Piece.spaces 1, side]
  [upperEdge room style title] ++ inner ++ [lowerEdge room style]

end BooleanSearch.Display
