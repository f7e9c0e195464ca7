import BooleanSearch.Config.Settings
import BooleanSearch.Report.Structured
import BooleanSearch.Report.Terminal
import BooleanSearch.Text.Lettercase

/-!
# Writers

A writer gives reports, queries, counters and errors the text of one format.
-/

namespace BooleanSearch.Report

/-- A format with its options: whether times and failures are told and lines are shown, the layout
of structured texts, and the columns and colors of a terminal. -/
structure Writer where
  format : Config.Format
  verbose : Bool := false
  showLines : Bool := true
  layout : Json.Layout := ⟨some 2, false⟩
  room : Nat := 80
  colored : Bool := true

namespace Writer

def formatOf (name : String) : Except Failure Config.Format :=
  let lowered := Text.lower name
  match Config.Format.ofName? lowered with
  | some format => .ok format
  | none => .error (.badValue (Text.quoted lowered ++ " is not a valid OutputFormat"))

/-- Lines as a terminal shows them. -/
def draw (writer : Writer) (lines : List Display.Line) : String :=
  Display.drawLines writer.room writer.colored lines

def report (writer : Writer) (report : Report) : Except Failure String := do
  match writer.format with
  | .plain => return Plain.report writer.showLines writer.verbose report
  | .json => Json.render writer.layout (report.toValue writer.showLines)
  | .rich =>
    return writer.draw (← Terminal.reportLines writer.room writer.showLines writer.verbose report)

def query (writer : Writer) (query : Query.Expr) : Except Failure String := do
  match writer.format with
  | .plain => return query.render
  | .json => Json.render writer.layout (Structured.queryValue query)
  | .rich => return writer.draw (Terminal.queryLines writer.room query)

def cacheStats (writer : Writer) (stats : List Cache.Stats) : Except Failure String := do
  match writer.format with
  | .plain => Plain.cacheStats stats
  | .json => Json.render writer.layout (Structured.cacheStatsValue stats)
  | .rich => return writer.draw (← Terminal.statsLines writer.room stats)

def error (writer : Writer) (message : String) (title : Option String) :
    Except Failure String := do
  match writer.format with
  | .plain => return Plain.error message title
  | .json => Json.render writer.layout (Structured.errorValue message title)
  | .rich => return writer.draw (← Terminal.errorLines writer.room message title)

/-- What a stream receives of a text: the text and a line feed, or nothing of an empty one. -/
def printed (text : String) : String :=
  if text.isEmpty then "" else text ++ "\n"

end Writer

end BooleanSearch.Report
