import BooleanSearch.Display.Line

/-!
# Wrapping

A text is wrapped between words into lines of some columns.  A word that is too long for any line is
folded over several lines, or cut and marked with an ellipsis.  The blanks after a word stay on its
line, as far as there is room.
-/

namespace BooleanSearch.Display

/-- Where the text of a line stands: at the left without spaces behind it, or at one of three
places of a line filled up with spaces. -/
inductive Alignment
  | loose
  | left
  | center
  | right
  deriving Repr, DecidableEq

/-- What becomes of a word that is too long for a line. -/
inductive Overflow
  | fold
  | ellipsis
  deriving Repr, DecidableEq

/-- The distance between the stops of tabs, in columns. -/
def tabDistance : Nat := 8

/-- A piece with its tabs replaced by spaces up to the next stop, cut behind each of them;
`column` is where it starts.  The column where it ends is told too. -/
def expandPiece (column : Nat) (piece : Piece) : List Piece × Nat :=
  let step : List Piece × List Char × Nat → Char → List Piece × List Char × Nat :=
    fun (done, chars, column) char =>
      if char == '\t' then
        let count := tabDistance - column % tabDistance
        (⟨chars.reverse ++ List.replicate count ' ', piece.style⟩ :: done, [], column + count)
      else (done, char :: chars, column + Text.charColumns char)
  let (done, chars, after) := piece.chars.foldl step ([], [], column)
  let last : List Piece := if chars.isEmpty then [] else [⟨chars.reverse, piece.style⟩]
  (done.reverse ++ last, after)

/-- A text with its tabs replaced by spaces up to the next stop; `column` is where it starts.  A
piece that has a style is cut behind its tabs. -/
def expandTabs (column : Nat) : Line → Line
  | [] => []
  | piece :: rest =>
    let (parts, after) := expandPiece column piece
    let whole : Line := [{ piece with chars := parts.flatMap Piece.chars }]
    (if piece.style == {} || parts.isEmpty then whole else parts) ++ expandTabs after rest

/-- A word with the blanks before and behind it, if there is one, and what follows. -/
def nextWord? (chars : List Char) : Option (List Char × List Char) :=
  let before := chars.takeWhile Text.isBlank
  let word := (chars.drop before.length).takeWhile fun char => !Text.isBlank char
  if word.isEmpty then none
  else
    let behind := (chars.drop (before.length + word.length)).takeWhile Text.isBlank
    let length := before.length + word.length + behind.length
    some (chars.take length, chars.drop length)

/-- The words of a text with the blanks around them; the fuel bounds their number. -/
def wordsOf : Nat → List Char → List (List Char)
  | 0, _ => []
  | fuel + 1, chars =>
    match nextWord? chars with
    | none => []
    | some (word, rest) => word :: wordsOf fuel rest

/-- A word in parts of at most some columns. -/
def foldWord (room : Nat) (word : List Char) : List (List Char) :=
  let step : List (List Char) × List Char × Nat → Char → List (List Char) × List Char × Nat :=
    fun (done, part, used) char =>
      let own := Text.charColumns char
      if room < used + own then (part.reverse :: done, [char], own)
      else (done, char :: part, used + own)
  let (done, part, _) := word.foldl step ([], [], 0)
  (part.reverse :: done).reverse

/-- The breaks of a text so far, the last one first, the column reached, and the offset of the next
word. -/
structure Breaking where
  offsets : List Nat := []
  column : Nat := 0
  start : Nat := 0

namespace Breaking

/-- Breaks the line before an offset, unless the text starts there. -/
def breakAt (state : Breaking) (offset : Nat) : Breaking :=
  if offset == 0 then state else { state with offsets := offset :: state.offsets }

/-- Places the parts of a folded word, each on a line of its own. -/
def placeParts (state : Breaking) (offset : Nat) : List (List Char) → Breaking
  | [] => state
  | [part] => { state.breakAt offset with column := Text.columns part }
  | part :: parts => placeParts (state.breakAt offset) (offset + part.length) parts

/-- The columns of a word without the blanks behind it. -/
def wordColumns (word : List Char) : Nat :=
  Text.columns (word.reverse.dropWhile Text.isBlank).reverse

def place (room : Nat) (overflow : Overflow) (state : Breaking) (word : List Char) : Breaking :=
  let own := wordColumns word
  let placed :=
    if state.column + own ≤ room then { state with column := state.column + Text.columns word }
    else if room < own then
      match overflow with
      | .fold => placeParts state state.start (foldWord room word)
      | .ellipsis => { state.breakAt state.start with column := Text.columns word }
    else if state.column != 0 && state.start != 0 then
      { state.breakAt state.start with column := Text.columns word }
    else state
  { placed with start := state.start + word.length }

end Breaking

/-- The offsets at which a line is broken to fit into some columns. -/
def breaks (room : Nat) (overflow : Overflow) (chars : List Char) : List Nat :=
  ((wordsOf chars.length chars).foldl (Breaking.place room overflow) {}).offsets.reverse

namespace Line

/-- A line without some characters at its end. -/
def dropEnd (count : Nat) (line : Line) : Line :=
  (line.splitAt (line.plain.length - count)).1

/-- The number of blanks at the end of a line. -/
def blanksBehind (line : Line) : Nat :=
  (line.plain.reverse.takeWhile Text.isBlank).length

/-- A line without the blanks at its end. -/
def trimEnd (line : Line) : Line :=
  dropEnd line.blanksBehind line

/-- A line without those blanks at its end that are beyond some characters. -/
def trimBeyond (length : Nat) (line : Line) : Line :=
  dropEnd (min line.blanksBehind (line.plain.length - length)) line

/-- A line with its last characters replaced by an ellipsis, which is drawn like the first of
them. -/
def endWithEllipsis (kept : Line) (dropped : Line) : Line :=
  match dropped with
  | piece :: _ =>
    match kept.getLast? with
    | some last =>
      if last.style == piece.style then
        kept.dropLast ++ [{ last with chars := last.chars ++ ['…'] }]
      else kept ++ [⟨['…'], piece.style⟩]
    | none => [⟨['…'], piece.style⟩]
  | [] => kept ++ [⟨['…'], {}⟩]

/-- A line of at most some columns, marked with an ellipsis if that is asked for. -/
def truncate (room : Nat) (overflow : Overflow) (line : Line) : Line :=
  if line.width ≤ room then line
  else
    match overflow with
    | .fold => crop room line
    | .ellipsis =>
      let kept := crop (room - 1) line
      endWithEllipsis kept (line.splitAt kept.plain.length).2

/-- A line behind some spaces, which join its first piece if that has no style. -/
def indent (count : Nat) : Line → Line
  | [] => [Piece.spaces count]
  | piece :: rest =>
    if piece.style == {} then { piece with chars := List.replicate count ' ' ++ piece.chars } :: rest
    else Piece.spaces count :: piece :: rest

/-- A line before some spaces, which join its last piece if that has no style. -/
def padEnd (count : Nat) : Line → Line
  | [] => [Piece.spaces count]
  | [piece] =>
    if piece.style == {} then [{ piece with chars := piece.chars ++ List.replicate count ' ' }]
    else [piece, Piece.spaces count]
  | piece :: rest => piece :: padEnd count rest

/-- A line at its place among some columns. -/
def align (alignment : Alignment) (room : Nat) (overflow : Overflow) (line : Line) : Line :=
  match alignment with
  | .loose => truncate room overflow line
  | .left =>
    let kept := truncate room overflow line
    padEnd (room - kept.width) kept
  | .center =>
    let kept := truncate room overflow line.trimEnd
    let before := (room - kept.width) / 2
    padEnd (room - kept.width - before) (indent before kept)
  | .right =>
    let kept := truncate room overflow line.trimEnd
    indent (room - kept.width) kept

end Line

/-- The lines of a text that is wrapped into some columns.  Without any column nothing is shown. -/
def wrap (room : Nat) (text : Line) (alignment : Alignment := .loose)
    (overflow : Overflow := .fold) : List Line :=
  if room == 0 then []
  else
    text.splitLines.flatMap fun line =>
      let tabless := if line.plain.contains '\t' then expandTabs 0 line else line
      (tabless.divide (breaks room overflow tabless.plain)).map fun part =>
        (part.trimBeyond room).align alignment room overflow

/-- Whether a character ends a line when lines are measured. -/
def endsLine (char : Char) : Bool :=
  [10, 28, 29, 30, 0x85, 0x2028, 0x2029].contains char.toNat

def longestLine (chars : List Char) : Nat :=
  let lines := (chars.map fun char => if endsLine char then '\n' else char)
  ((splitChars '\n' lines).map Text.columns).foldl max 0

end BooleanSearch.Display
