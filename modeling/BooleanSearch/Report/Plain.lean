import BooleanSearch.Cache.Lru
import BooleanSearch.Files.Size
import BooleanSearch.Report.Basic

/-!
# Plain texts

Reports for other programs: one path per line, or each accepted line behind its path and offset.
-/

namespace BooleanSearch.Report.Plain

def findingLines (showLines : Bool) (finding : Finding) : List String :=
  if showLines && !finding.lines.isEmpty then
    (finding.offsetLines.map fun (offset, line) =>
      finding.path ++ ":" ++ toString offset ++ ":" ++ line)
      ++ (if finding.truncated then [finding.path ++ ": (more lines not shown)"] else [])
  else [finding.path]

/-- The line of a file that could not be searched. -/
def failureLine (finding : Finding) : String :=
  "error: " ++ finding.path ++ ": " ++ finding.error.getD "None"

def duration (milliseconds : Float) : String :=
  Decimal.fixed milliseconds 1 ++ " ms"

/-- The line that sums a report up. -/
def summary (report : Report) : String :=
  toString report.matchCount ++ " of " ++ toString report.searched ++ " files matched ("
    ++ toString report.failed.length ++ " errors, " ++ duration report.milliseconds ++ ")"

def report (showLines verbose : Bool) (report : Report) : String :=
  let details := if verbose then report.failed.map failureLine ++ ["", summary report] else []
  joinWith "\n" (report.matched.flatMap (findingLines showLines) ++ details)

def statsLine (stats : Cache.Stats) : Except Failure String := do
  return stats.name ++ ": " ++ toString stats.size ++ "/" ++ toString stats.capacity
    ++ " entries, " ++ toString stats.hits ++ " hits, " ++ toString stats.misses ++ " misses, "
    ++ toString stats.evictions ++ " evictions, " ++ (← Files.humanSize (.whole stats.memory))

def cacheStats (stats : List Cache.Stats) : Except Failure String := do
  return joinWith "\n" (← stats.mapM statsLine)

def error (message : String) (title : Option String) : String :=
  match filled? title with
  | some title => "Error (" ++ title ++ "): " ++ message
  | none => "Error: " ++ message

end BooleanSearch.Report.Plain
