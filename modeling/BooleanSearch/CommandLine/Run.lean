import BooleanSearch.CommandLine.Command
import BooleanSearch.Config.Load
import BooleanSearch.Decimal.General
import BooleanSearch.Log.Outlet
import BooleanSearch.Report.Writer
import BooleanSearch.Searcher.Run

/-!
# Runs

A run of the program, as a function: what it writes, how it ends, and what the files are afterwards.
Files are given as a tree whose root is the current folder.
-/

namespace BooleanSearch.CommandLine

open Files

/-- What a run finds: the files, the variables of the environment, the time in seconds, and the
fraction of the memory in use. -/
structure Surroundings where
  files : Tree
  environment : Config.Environment
  now : Float
  memoryUsed : Number := .real 0.1

/-- What a run leaves behind: its exit code, what it wrote to both streams, and the files. -/
structure Outcome where
  code : Nat
  output : String := ""
  errors : String := ""
  files : Tree

/-- What a run has written so far. -/
structure Progress where
  output : String := ""
  errors : String := ""
  files : Tree

/-- Steps of a run; they stop with an exit code. -/
abbrev Running (α : Type) : Type := ExceptT Nat (StateM Progress) α

/-- The exit code of a run that is used wrongly. -/
def usageCode : Nat := 2

/-- The exit code of a run that fails for no reason of a category. -/
def failureCode : Nat := 1

def columns : Nat := 80

/-- What the program calls itself with its version. -/
def versionText : String := "fileseek version 0.1.0"

/-- How the program is used. -/
def helpText : String :=
  joinWith "\n" [
    "Usage: fileseek [--version] COMMAND",
    "",
    "search QUERY [PATH]  search files for a query",
    "parse QUERY          show how a query is read",
    "config               show the settings",
    ""]

namespace Running

def stop {α : Type} (code : Nat) : Running α :=
  throw code

/-- The value of a step that may fail; a failure stops the run. -/
def orStop {α : Type} : Except Failure α → Running α
  | .ok value => pure value
  | .error _ => stop failureCode

def write (text : String) : Running Unit :=
  modify fun progress => { progress with output := progress.output ++ text }

/-- Writes to the error stream. -/
def complain (text : String) : Running Unit :=
  modify fun progress => { progress with errors := progress.errors ++ text }

/-- The lines of a marked-up text, wrapped into the columns of a terminal. -/
def wrapped (text : String) : Except Failure String := do
  let lines := Display.wrap columns (← Report.Terminal.markedUp text)
  return String.join (lines.map fun line => line.draw false ++ "\n")

def writeMarkup (text : String) : Running Unit := do
  write (← orStop (wrapped text))

/-- Writes what a writer made of an error, and stops. -/
def refuse {α : Type} (writer : Report.Writer) (message : String) (title : Option String)
    (code : Nat) : Running α := do
  complain (Report.Writer.printed (← orStop (writer.error message title)))
  stop code

/-- The value of a step that may fail with an error of a search, which is then written. -/
def orRefuse {α : Type} (writer : Report.Writer) : Except Failure α → Running α
  | .ok value => pure value
  | .error (.error fault) => refuse writer fault.message (some fault.description) fault.exitCode
  | .error _ => stop failureCode

end Running

open Running

/-! ## Settings -/

def documentPath (environment : Config.Environment) (wished : Option String) : Path :=
  match wished with
  | some text => Path.ofString text
  | none => Config.documentPath environment

def issuesText (issues : List Config.Issue) : String :=
  joinWith ", " (issues.map fun issue =>
    joinWith "." issue.place ++ ": " ++ issue.complaint.message)

/-- The error of a document that cannot be loaded; any other failure is none. -/
def loadError? : Config.LoadFailure → Option SearchError
  | .failure (.error fault) => some fault
  | .failure _ => none
  | .invalid issues =>
    some (.ofText .configValidation ("Invalid configuration: " ++ issuesText issues))

/-- Loads the settings.  Why they cannot be loaded is told on the error stream. -/
def loadSettings (surroundings : Surroundings) (path : Path) (create : Bool) :
    Running Config.Settings := do
  let (loaded, files) :=
    Config.load (← get).files surroundings.environment path create surroundings.now
  modify fun progress => { progress with files := files }
  match loaded with
  | .ok settings => return settings
  | .error failure =>
    match loadError? failure with
    | none => stop failureCode
    | some fault =>
      complain (← orStop (wrapped ("[red]Error:[/red] " ++ fault.message)))
      stop fault.exitCode

def settingsLines (path : Path) (present : Bool) (settings : Config.Settings) : List String :=
  let shown (value : Bool) : String := (Value.bool value).display
  let search := settings.search
  ["[bold]fileseek configuration[/bold]",
    "",
    "Config file: " ++ path.text ++ (if present then "" else " (not found, using defaults)"),
    "Case sensitive: " ++ shown search.caseSensitive,
    "Whole word: " ++ shown search.wholeWord,
    "Fuzzy: " ++ shown search.fuzzy ++ " (NEAR: " ++ shown search.fuzzyNear ++ ", threshold "
      ++ Decimal.general search.threshold 6 ++ ")",
    "Chunk size: " ++ toString settings.streaming.chunkSize ++ " bytes",
    "Cache enabled: " ++ shown settings.cache.enabled,
    "Output format: OutputFormat." ++ Text.upper settings.output.format.name]

def showSettings (surroundings : Surroundings) (wish : SettingsWish) : Running Unit := do
  let path := documentPath surroundings.environment wish.document
  if wish.onlyPath then writeMarkup path.text
  else
    let settings ← loadSettings surroundings path wish.create
    let present ← orStop ((← get).files.present path)
    (settingsLines path present settings).forM writeMarkup

/-! ## Queries -/

def showQuery (wish : ParseWish) : Running Unit := do
  let writer : Report.Writer := { format := wish.format.getD .rich }
  let query ← orRefuse writer (Query.parse wish.query)
  write (Report.Writer.printed (← orStop (writer.query query)))

/-! ## Searches -/

/-- The settings of a search. -/
def SearchWish.adjust (wish : SearchWish) (settings : Config.Settings) : Config.Settings :=
  if wish.uncached then { settings with cache := { settings.cache with enabled := false } }
  else settings

/-- The options of a search: what is wished for, and otherwise what the settings say. -/
def SearchWish.options (wish : SearchWish) (settings : Config.Settings) : MatchOptions :=
  let usual := settings.search.options
  { usual with
    caseSensitive := wish.caseSensitive.getD usual.caseSensitive
    wholeWord := wish.wholeWord.getD usual.wholeWord
    fuzzy := usual.fuzzy && !wish.unfuzzy
    fuzzyNear := usual.fuzzyNear && !wish.unfuzzy }

/-- The files of a search. -/
def SearchWish.wanted (wish : SearchWish) : Wanted where
  hidden := wish.hidden
  extensions := normalizeExtensions wish.extensions
  maxDepth := wish.maxDepth

def SearchWish.writer (wish : SearchWish) (settings : Config.Settings) : Report.Writer where
  format := wish.format.getD settings.output.format
  verbose := wish.verbose
  showLines := wish.showLines.getD settings.output.showLines
  room := columns
  colored := settings.output.color

def SearchWish.outlets (wish : SearchWish) (settings : Config.Settings) : Log.Wishes where
  level := if wish.verbose then "DEBUG" else settings.logging.level
  file := settings.logging.file
  json := settings.logging.json

def openOutlets (surroundings : Surroundings) (wishes : Log.Wishes) : Running Log.Outlets := do
  let (outlets, files) ← orStop (Log.Outlets.create wishes (← get).files surroundings.now)
  modify fun progress => { progress with files := files }
  return outlets

def writeRecords (surroundings : Surroundings) (outlets : Log.Outlets)
    (records : List Log.Record) : Running Unit := do
  let time := (← orStop (Log.Moment.ofFloat surroundings.now)).text
  let written ← orStop
    (records.foldlM (outlets.write time surroundings.now) { files := (← get).files })
  complain written.stream
  modify fun progress => { progress with files := written.files }

/-- Searches files and shows the report, with the counters of the caches if they are wished for. -/
def showSearch (surroundings : Surroundings) (wish : SearchWish) : Running Unit := do
  let path := documentPath surroundings.environment wish.document
  let loaded ← loadSettings surroundings path false
  let outlets ← openOutlets surroundings (wish.outlets loaded)
  let settings := wish.adjust loaded
  let writer := wish.writer settings
  let root := Path.ofString wish.path
  let files := (← get).files
  if !(← orStop (files.present root)) then
    refuse writer ("No such file or directory: " ++ root.text) none failureCode
  let searcher ← orStop (Searcher.create settings)
  let question ← orRefuse writer (Searcher.Question.ofText wish.query)
  let search := Searcher.searchTree files root question (some (wish.options settings)) wish.wanted
    writer.showLines surroundings.memoryUsed
  let (found, after, records) := search.run.run (searcher, #[])
  writeRecords surroundings outlets records.toList
  let report ← orRefuse writer found
  write (Report.Writer.printed (← orStop (writer.report report)))
  if wish.counters then
    write (Report.Writer.printed (← orStop (writer.cacheStats after.stats)))

/-! ## Commands -/

/-- Does what a command asks for. -/
def perform (surroundings : Surroundings) : Command → Running Unit
  | .version => writeMarkup versionText
  | .help => write helpText
  | .search wish => showSearch surroundings wish
  | .parse wish => showQuery wish
  | .settings wish => showSettings surroundings wish

/-- Runs the program with some arguments. -/
def run (surroundings : Surroundings) (arguments : List String) : Outcome :=
  match Command.read arguments with
  | .error fault =>
    ⟨usageCode, "", "Error: " ++ fault.message ++ "\n", surroundings.files⟩
  | .ok command =>
    let (ended, progress) := (perform surroundings command).run.run { files := surroundings.files }
    let code :=
      match ended with
      | .ok _ => 0
      | .error code => code
    ⟨code, progress.output, progress.errors, progress.files⟩

end BooleanSearch.CommandLine
