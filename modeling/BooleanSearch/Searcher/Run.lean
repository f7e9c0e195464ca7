import BooleanSearch.Files.Walk
import BooleanSearch.Match.Evaluate
import BooleanSearch.Query.Grammar
import BooleanSearch.Report.Basic
import BooleanSearch.Searcher.Basic

/-!
# Searching files

A query is evaluated against one file, or against all wanted files below a path.  A file that cannot
be read or is too large is an entry of the report and does not end the search.
-/

namespace BooleanSearch.Searcher

open Files

/-- Steps of a searcher: its reports are gathered in order. -/
abbrev Searching (α : Type) : Type :=
  ExceptT Failure (StateM (Searcher × Array Log.Record)) α

/-- A step of an evaluation as a matcher of texts. -/
def asMatcher (step : Text → Search Bool) : Stream.Matcher (StateM Session) :=
  fun text => (step text).run

def queryMatcher (query : Query.Expr) (options : MatchOptions) :
    Stream.Matcher (StateM Session) :=
  asMatcher fun text => evaluate query text options

/-- Whether a line holds some of several terms. -/
def holdsSome (line : Text) (options : MatchOptions) : List Query.Literal → Search Bool
  | [] => pure false
  | term :: rest => do
    if ← termMatches line term options .leaf then pure true else holdsSome line options rest

/-- The matcher of lines that hold some term of a query that does not stand below a negation. -/
def lineMatcher (query : Query.Expr) (options : MatchOptions) : Stream.Matcher (StateM Session) :=
  asMatcher fun line => holdsSome line options query.positiveLiterals

/-- Runs a step of the scanner that may evaluate.  What evaluations report comes before what the
scanner reports. -/
def scanning {α : Type}
    (step : Stream.Scanner → StateM Session (Except Failure α × Stream.Scanner)) :
    Searching α := do
  let (searcher, records) ← get
  let ((outcome, scanner), session) := (step searcher.scanner).run searcher.session
  set (σ := Searcher × Array Log.Record)
    ({ searcher with
        scanner := { scanner with records := #[] }
        session := { session with records := #[] } },
      records ++ session.records ++ scanner.records)
  liftExcept outcome
where
  liftExcept (outcome : Except Failure α) : Searching α :=
    match outcome with
    | .ok value => pure value
    | .error failure => throw failure

/-- Evaluates a query against one file.  Its lines are gathered if they are wanted and it
matches. -/
def searchFile (files : Tree) (path : String) (query : Query.Expr) (options : MatchOptions)
    (lines : Bool) : Searching Finding := do
  let streaming := (← get).1.settings.streaming
  let scan ← scanning fun scanner =>
    scanner.process files path (queryMatcher query options) {} streaming.firstOnly
  let finding : Finding :=
    { path := path, matched := scan.matched, error := scan.error.map SearchError.message }
  if lines && scan.matched && scan.error.isNone then
    let found ← scanning fun scanner =>
      scanner.lines files path (lineMatcher query options) {} streaming.lineLimit
    return { finding with
      lines := found.lines.map Text.toString
      offsets := found.offsets.map Int.ofNat
      truncated := found.truncated }
  else return finding

/-- Evaluates a query against several files. -/
def searchFiles (files : Tree) (query : Query.Expr) (options : MatchOptions) (lines : Bool) :
    List Path → Searching (List Finding)
  | [] => pure []
  | path :: rest => do
    let first ← searchFile files path.text query options lines
    let others ← searchFiles files query options lines rest
    pure (first :: others)

def finishedRecord (report : Report) : Log.Record where
  level := Log.infoLevel
  logger := "fileseek.engine"
  message := "Searched " ++ toString report.searched ++ " files, " ++ toString report.matchCount
    ++ " matched, " ++ toString report.failed.length ++ " errors"
  context := []

/-- Findings as a report: those with an error apart from those that matched. -/
def reportOf (query : String) (root : Path) (findings : List Finding) : Report where
  query := query
  root := root.text
  matched := findings.filter fun finding => finding.error?.isNone && finding.matched
  failed := findings.filter fun finding => finding.error?.isSome
  searched := findings.length

def addRecords (added : List Log.Record) : Searching Unit :=
  modify fun (searcher, records) => (searcher, records ++ added.toArray)

/-- A query with the text that names it in reports. -/
structure Question where
  text : String
  query : Query.Expr

def Question.ofText (text : String) : Except Failure Question := do
  return ⟨text, ← Query.parse text⟩

/-- Evaluates a query against all wanted files below a path, and checks the memory in use. -/
def searchTree (files : Tree) (root : Path) (question : Question) (options : Option MatchOptions)
    (wanted : Wanted) (lines : Bool) (used : Number) : Searching Report := do
  let options := options.getD (← get).1.defaultOptions
  let paths ←
    match listing files root wanted with
    | .ok paths => pure paths
    | .error failure => throw failure
  let findings ← searchFiles files question.query options lines paths
  modify fun (searcher, records) =>
    let (_, added, after) := searcher.checkMemory used
    (after, records ++ added.toArray)
  let report := reportOf question.text root findings
  addRecords [finishedRecord report]
  return report

end BooleanSearch.Searcher
