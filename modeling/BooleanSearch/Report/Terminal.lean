import BooleanSearch.Cache.Lru
import BooleanSearch.Display.Markup
import BooleanSearch.Display.Panel
import BooleanSearch.Display.Table
import BooleanSearch.Display.Tree
import BooleanSearch.Files.Size
import BooleanSearch.Query.Expr
import BooleanSearch.Report.Plain

/-!
# Texts for terminals

Reports with styled lines, tables, trees and panels.
-/

namespace BooleanSearch.Report.Terminal

open Display

/-- A style that switches one attribute on. -/
def trait (trait : Attribute) : Style :=
  .having [trait]

/-- A style of one of the first eight colors. -/
def colored (number : Nat) (traits : List Attribute := []) : Style :=
  .having traits (some (.numbered number))

def pathStyle : Style := colored 6 [.bold]

def failureStyle : Style := colored 1 [.bold]

/-- The text of a cell or of a title, which may be marked up. -/
def markedUp (text : String) : Except Failure Line :=
  match Markup.read text with
  | .ok line => .ok line
  | .error fault => .error (.markup fault.message)

/-- The texts of a file that matched: its path, and its lines behind their offsets. -/
def findingTexts (showLines : Bool) (finding : Finding) : List Line :=
  let row (line : Int × String) : Line :=
    [.ofString "  ", .ofString (toString line.1) (colored 2), .ofString ": ", .ofString line.2]
  [Piece.ofString finding.path pathStyle] ::
    if showLines && !finding.lines.isEmpty then
      finding.offsetLines.map row
        ++ (if finding.truncated then
            [[Piece.ofString "  … more lines not shown" (trait .dim)]]
          else [])
    else []

/-- The table of the files that could not be searched. -/
def failureTable (failed : List Finding) : Except Failure Table := do
  let paths ← failed.mapM fun finding => markedUp finding.path
  let errors ← failed.mapM fun finding => markedUp (finding.error.getD "")
  return {
    title := [.ofString "Errors"]
    headingStyle := failureStyle
    columns := [{ heading := [.ofString "File"], cells := paths },
      { heading := [.ofString "Error"], cells := errors }] }

/-- The text that sums a report up. -/
def summary (verbose : Bool) (report : Report) : Line :=
  [.ofString (toString report.matchCount) (colored 2 [.bold]),
    .ofString (" of " ++ toString report.searched ++ " files matched")]
    ++ (if report.failed.isEmpty then []
      else [.ofString (", " ++ toString report.failed.length ++ " errors") (colored 3)])
    ++ (if verbose then
        [.ofString (" (" ++ Plain.duration report.milliseconds ++ ")") (trait .dim)]
      else [])

/-- The lines of a report on a terminal of `room` columns. -/
def reportLines (room : Nat) (showLines verbose : Bool) (report : Report) :
    Except Failure (List Line) := do
  let failures ←
    if verbose && !report.failed.isEmpty then
      let table ← failureTable report.failed
      pure (table.lines room)
    else pure []
  return (report.matched.flatMap (findingTexts showLines)).flatMap (wrap room) ++ failures
    ++ wrap room (summary verbose report)

/-- The label of a term: its kind, and how a query writes it. -/
def termLabel (term : Query.Literal) : Line :=
  let kind := if term.isPattern then "regex" else if term.isFuzzy then "fuzzy" else "term"
  [.ofString kind (trait .dim), .ofString " ", .ofString term.render (colored 6)]

def operatorLabel (text : String) : Line :=
  [.ofString text (colored 5)]

def queryTree : Query.Expr → LabelTree
  | .literal term => .node (termLabel term) []
  | .not child => .node (operatorLabel "NOT") [queryTree child]
  | .and left right => .node (operatorLabel "AND") [queryTree left, queryTree right]
  | .or left right => .node (operatorLabel "OR") [queryTree left, queryTree right]
  | .near left right distance =>
    .node (operatorLabel ("NEAR distance=" ++ distance.display)) [queryTree left, queryTree right]

/-- The lines of a query on a terminal of `room` columns: the query, and its tree below it. -/
def queryLines (room : Nat) (query : Query.Expr) : List Line :=
  (LabelTree.node [.ofString query.render (trait .bold)] [queryTree query]).lines room

def statsTable (stats : List Cache.Stats) : Except Failure Table := do
  let sizes ← stats.mapM fun stats => Files.humanSize (.whole stats.memory)
  let names ← stats.mapM fun stats => markedUp stats.name
  let counted (heading : String) (cell : Cache.Stats → String) : Column :=
    { heading := [.ofString heading], cells := stats.map fun stats => [.ofString (cell stats)],
      alignment := .right }
  return {
    title := [.ofString "Caches"]
    headingStyle := trait .bold
    columns := [{ heading := [.ofString "Name"], cells := names },
      counted "Size" fun stats => toString stats.size ++ "/" ++ toString stats.capacity,
      counted "Hits" fun stats => toString stats.hits,
      counted "Misses" fun stats => toString stats.misses,
      counted "Hit rate" fun stats => Decimal.fixed (stats.hitRate * 100.0) 0 ++ "%",
      counted "Evictions" fun stats => toString stats.evictions,
      { heading := [.ofString "Memory"], cells := sizes.map fun size => [.ofString size],
        alignment := .right }] }

/-- The lines of the counters of caches on a terminal of `room` columns. -/
def statsLines (room : Nat) (stats : List Cache.Stats) : Except Failure (List Line) := do
  return (← statsTable stats).lines room

/-- The lines of an error on a terminal of `room` columns: in a panel, if it has a title. -/
def errorLines (room : Nat) (message : String) (title : Option String) :
    Except Failure (List Line) := do
  let text : Line := [.ofString ("Error: " ++ message) failureStyle]
  match filled? title with
  | none => return wrap room text
  | some title => return panel room (colored 1) (← markedUp title) text

end BooleanSearch.Report.Terminal
