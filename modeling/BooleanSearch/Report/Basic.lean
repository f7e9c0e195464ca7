import BooleanSearch.Decimal.Number

/-!
# Reports of searches

What a search has found in one file, and in all files below a path.
-/

namespace BooleanSearch

/-- What was found in a file: whether it matched, its accepted lines with the offsets of their first
bytes, whether there are more of them, and the error that ended the search, if any. -/
structure Finding where
  path : String
  matched : Bool
  lines : List String := []
  offsets : List Int := []
  truncated : Bool := false
  error : Option String := none
  deriving Repr, DecidableEq, Inhabited

namespace Finding

def offsetLines (finding : Finding) : List (Int × String) :=
  finding.offsets.zip finding.lines

/-- A line with its offset as plain data. -/
def lineValue (line : Int × String) : Value :=
  .dict [(.text "offset", .int line.1), (.text "text", .text line.2)]

/-- The lines of a finding as plain data, if there are any. -/
def lineEntries (finding : Finding) : List (Value × Value) :=
  if finding.lines.isEmpty then []
  else [(.text "lines", .list (finding.offsetLines.map lineValue)),
    (.text "truncated", .bool finding.truncated)]

def error? (finding : Finding) : Option String :=
  finding.error.filter fun text => !text.isEmpty

/-- The error of a finding as plain data, if it has a text. -/
def errorEntries (finding : Finding) : List (Value × Value) :=
  match finding.error? with
  | none => []
  | some text => [(.text "error", .text text)]

/-- A finding as plain data, with its lines or without them. -/
def toValue (finding : Finding) (showLines : Bool) : Value :=
  .dict ([(.text "path", .text finding.path), (.text "matched", .bool finding.matched)]
    ++ (if showLines then finding.lineEntries else []) ++ finding.errorEntries)

/-- A finding of a file that could not be searched as plain data. -/
def failureValue (finding : Finding) : Value :=
  .dict [(.text "path", .text finding.path),
    (.text "error", (finding.error.map Value.text).getD .null)]

end Finding

/-- What was found below a path: the files that matched, those that could not be searched, the
number of all files, and the time that it took. -/
structure Report where
  query : String
  root : String
  matched : List Finding := []
  failed : List Finding := []
  searched : Int := 0
  milliseconds : Float := 0.0
  deriving Inhabited

namespace Report

def matchCount (report : Report) : Nat :=
  report.matched.length

/-- A report as plain data, with the lines of its findings or without them. -/
def toValue (report : Report) (showLines : Bool) : Value :=
  .dict [(.text "query", .text report.query), (.text "root", .text report.root),
    (.text "files_searched", .int report.searched),
    (.text "files_matched", .int report.matchCount),
    (.text "elapsed_ms", .float (Decimal.roundTo report.milliseconds 2)),
    (.text "matches", .list (report.matched.map fun finding => finding.toValue showLines)),
    (.text "errors", .list (report.failed.map Finding.failureValue))]

end Report

end BooleanSearch
