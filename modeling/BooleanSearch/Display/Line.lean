import BooleanSearch.Display.Style
import BooleanSearch.Text.Blank
import BooleanSearch.Text.Columns

/-!
# Styled lines

A styled text is a list of pieces of one style each.  Lines are cut and filled up to a number of
columns, and drawn with the codes of their styles or without any.
-/

namespace BooleanSearch.Display

/-- A text repeated some times. -/
def repeated (count : Nat) (text : String) : String :=
  String.join (List.replicate count text)

/-- A text of one style. -/
structure Piece where
  chars : List Char
  style : Style := {}
  deriving Repr, DecidableEq, Inhabited

/-- A text of several styles. -/
abbrev Line := List Piece

namespace Piece

/-- The controls that a terminal acts on: bell, backspace, the vertical moves and the return. -/
def isMove (char : Char) : Bool :=
  [7, 8, 11, 12, 13].contains char.toNat

/-- A string of one style, without the controls that a terminal acts on. -/
def ofString (text : String) (style : Style := {}) : Piece :=
  ⟨text.toList.filter fun char => !isMove char, style⟩

def spaces (count : Nat) (style : Style := {}) : Piece :=
  ⟨List.replicate count ' ', style⟩

def draw (colored : Bool) (piece : Piece) : String :=
  if colored then piece.style.paint (String.ofList piece.chars) else String.ofList piece.chars

end Piece

namespace Line

/-- The characters of a line. -/
def plain (line : Line) : List Char :=
  line.flatMap Piece.chars

/-- The columns of a line. -/
def width (line : Line) : Nat :=
  (line.map fun piece => Text.columns piece.chars).foldr (· + ·) 0

/-- The first characters of a line, and the others. -/
def splitAt (count : Nat) : Line → Line × Line
  | [] => ([], [])
  | piece :: rest =>
    if count == 0 then ([], piece :: rest)
    else if piece.chars.length ≤ count then
      let (taken, others) := splitAt (count - piece.chars.length) rest
      (piece :: taken, others)
    else
      ([{ piece with chars := piece.chars.take count }],
        { piece with chars := piece.chars.drop count } :: rest)

/-- The parts of a line between offsets, which increase and count from `start`. -/
def divideFrom (start : Nat) (line : Line) : List Nat → List Line
  | [] => [line]
  | offset :: offsets =>
    let (first, rest) := splitAt (offset - start) line
    first :: divideFrom offset rest offsets

/-- The parts of a line between increasing offsets. -/
def divide (line : Line) (offsets : List Nat) : List Line :=
  divideFrom 0 line offsets

/-- The parts of a text between line feeds. -/
def splitLines (text : Line) : List Line :=
  (splitChars '\n' text.plain).map List.length |> cut text
where
  /-- Cuts off lines of the given lengths, dropping the line feed after each. -/
  cut (text : Line) : List Nat → List Line
    | [] => []
    | length :: lengths =>
      let (line, rest) := splitAt length text
      line :: cut (splitAt 1 rest).2 lengths

/-- A line under a style: the styles of its pieces are drawn over it. -/
def under (style : Style) (line : Line) : Line :=
  line.map fun piece => { piece with style := style.topped piece.style }

/-- The pieces that fit into some columns; the one that does not is cut. -/
def crop (room : Nat) : Line → Line
  | [] => []
  | piece :: rest =>
    let own := Text.columns piece.chars
    if own < room then piece :: crop (room - own) rest
    else [{ piece with chars := Text.fitColumns room piece.chars }]

/-- A line of at most some columns. -/
def cropped (room : Nat) (line : Line) : Line :=
  if line.width ≤ room then line else crop room line

/-- A line of exactly some columns; spaces of a style fill it up. -/
def fit (room : Nat) (style : Style) (line : Line) : Line :=
  if line.width < room then line ++ [Piece.spaces (room - line.width) style] else cropped room line

def draw (colored : Bool) (line : Line) : String :=
  String.join (line.map (Piece.draw colored))

end Line

/-- Lines as they are drawn on a terminal of some columns, without the blanks at their end. -/
def drawLines (room : Nat) (colored : Bool) (lines : List Line) : String :=
  let drawn := joinWith "\n" (lines.map fun line => (line.cropped room).draw colored)
  String.ofList (drawn.toList.reverse.dropWhile Text.isBlank).reverse

end BooleanSearch.Display
