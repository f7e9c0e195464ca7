import BooleanSearch.CommandLine.Arguments
import BooleanSearch.Config.Settings
import BooleanSearch.Text.Lettercase
import BooleanSearch.Text.WholeNumber

/-!
# Commands

What a user can ask for: a search, the reading of a query, or the settings.  Of several options of
one kind, the last one counts.
-/

namespace BooleanSearch.CommandLine

/-- The wish for a search; what is not said is left to the settings. -/
structure SearchWish where
  query : String
  path : String := "."
  caseSensitive : Option Bool := none
  wholeWord : Option Bool := none
  unfuzzy : Bool := false
  showLines : Option Bool := none
  extensions : List String := []
  hidden : Bool := false
  maxDepth : Option Int := none
  counters : Bool := false
  format : Option Config.Format := none
  document : Option String := none
  uncached : Bool := false
  verbose : Bool := false
  deriving Repr, DecidableEq

/-- The wish to see how a query is read. -/
structure ParseWish where
  query : String
  format : Option Config.Format := none
  deriving Repr, DecidableEq

/-- The wish to see the settings, or only the path of their document. -/
structure SettingsWish where
  onlyPath : Bool := false
  create : Bool := false
  document : Option String := none
  deriving Repr, DecidableEq

/-- What a user asks for. -/
inductive Command
  | version
  | help
  | search (wish : SearchWish)
  | parse (wish : ParseWish)
  | settings (wish : SettingsWish)
  deriving Repr, DecidableEq

/-! ## Options -/

/-- The options before a command. -/
inductive CommonMark
  | version
  | help
  deriving Repr, DecidableEq

/-- The options of commands. -/
inductive Mark
  | help
  | caseSensitive (wanted : Bool)
  | wholeWord (wanted : Bool)
  | unfuzzy
  | showLines (wanted : Bool)
  | fileType (extension : String)
  | hidden
  | maxDepth (text : String)
  | counters
  | format (name : String)
  | document (path : String)
  | uncached
  | verbose
  | onlyPath
  | create
  deriving Repr, DecidableEq

/-- Several names of one meaning. -/
def allOf {α : Type} (names : List String) (meaning : Meaning α) : Vocabulary α :=
  names.map fun name => (name, meaning)

def commonOptions : Vocabulary CommonMark :=
  allOf ["--version", "-V"] (.switch .version) ++ allOf ["--help"] (.switch .help)

def formatOption : Vocabulary Mark :=
  allOf ["--format", "-f"] (.valued .format)

def documentOption : Vocabulary Mark :=
  allOf ["--config", "-c"] (.valued .document)

def helpOption : Vocabulary Mark :=
  allOf ["--help"] (.switch .help)

def searchOptions : Vocabulary Mark :=
  allOf ["--case-sensitive", "-s"] (.switch (.caseSensitive true))
    ++ allOf ["--ignore-case", "-i"] (.switch (.caseSensitive false))
    ++ allOf ["--whole-word", "-w"] (.switch (.wholeWord true))
    ++ allOf ["--substring", "-W"] (.switch (.wholeWord false))
    ++ allOf ["--no-fuzzy"] (.switch .unfuzzy)
    ++ allOf ["--lines", "-l"] (.switch (.showLines true))
    ++ allOf ["--no-lines", "-L"] (.switch (.showLines false))
    ++ allOf ["--ext", "-e"] (.valued .fileType)
    ++ allOf ["--hidden", "-a"] (.switch .hidden)
    ++ allOf ["--max-depth", "-d"] (.valued .maxDepth)
    ++ allOf ["--stats"] (.switch .counters)
    ++ allOf ["--no-cache"] (.switch .uncached)
    ++ allOf ["--verbose", "-v"] (.switch .verbose)
    ++ formatOption ++ documentOption ++ helpOption

def parseOptions : Vocabulary Mark :=
  formatOption ++ helpOption

def settingsOptions : Vocabulary Mark :=
  allOf ["--path", "-p"] (.switch .onlyPath) ++ allOf ["--init"] (.switch .create)
    ++ documentOption ++ helpOption

/-! ## Reading commands -/

/-- A name without its case; a long s counts as an s. -/
def withoutCase (name : String) : String :=
  Text.lower (name.map fun char => if char == 'ſ' then 's' else char)

def formatOf? (marks : List Mark) : Except UsageFault (Option Config.Format) :=
  match lastOf? (fun | .format name => some name | _ => none) marks with
  | none => .ok none
  | some name =>
    match Config.Format.ofName? (withoutCase name) with
    | some format => .ok (some format)
    | none => .error (.badValue "--format" name)

def maxDepthOf? (marks : List Mark) : Except UsageFault (Option Int) :=
  match lastOf? (fun | .maxDepth text => some text | _ => none) marks with
  | none => .ok none
  | some text =>
    match Text.readInt text with
    | .ok depth => .ok (some depth)
    | .error _ => .error (.badValue "--max-depth" text)

def documentOf? (marks : List Mark) : Option String :=
  lastOf? (fun | .document path => some path | _ => none) marks

/-- The wish for a search, of its options and its other arguments. -/
def readSearch (arguments : Arguments Mark) : Except UsageFault Command := do
  let marks := arguments.marks
  let format ← formatOf? marks
  let maxDepth ← maxDepthOf? marks
  let wish (query path : String) : Command :=
    .search {
      query := query
      path := path
      caseSensitive := lastOf? (fun | .caseSensitive wanted => some wanted | _ => none) marks
      wholeWord := lastOf? (fun | .wholeWord wanted => some wanted | _ => none) marks
      unfuzzy := marks.contains .unfuzzy
      showLines := lastOf? (fun | .showLines wanted => some wanted | _ => none) marks
      extensions := marks.filterMap (fun | .fileType extension => some extension | _ => none)
      hidden := marks.contains .hidden
      maxDepth := maxDepth
      counters := marks.contains .counters
      format := format
      document := documentOf? marks
      uncached := marks.contains .uncached
      verbose := marks.contains .verbose }
  match arguments.others with
  | [] => throw (.missingArgument "QUERY")
  | [query] => return wish query "."
  | [query, path] => return wish query path
  | _ :: _ :: rest => throw (.needlessArguments rest)

/-- The wish to see how a query is read, of its options and its other arguments. -/
def readParse (arguments : Arguments Mark) : Except UsageFault Command := do
  let format ← formatOf? arguments.marks
  match arguments.others with
  | [] => throw (.missingArgument "QUERY")
  | [query] => return .parse ⟨query, format⟩
  | _ :: rest => throw (.needlessArguments rest)

/-- The wish to see the settings, of its options and its other arguments. -/
def readSettings (arguments : Arguments Mark) : Except UsageFault Command :=
  let marks := arguments.marks
  match arguments.others with
  | [] => .ok (.settings ⟨marks.contains .onlyPath, marks.contains .create, documentOf? marks⟩)
  | others => .error (.needlessArguments others)

/-- Reads the arguments of a command of some options.  Help is given whatever else is asked. -/
def readWith (options : Vocabulary Mark) (read : Arguments Mark → Except UsageFault Command)
    (arguments : List String) : Except UsageFault Command := do
  let found ← readArguments options true arguments
  if found.marks.contains .help then return .help else read found

/-- Reads the arguments of a command of a name. -/
def readNamed (name : String) (arguments : List String) : Except UsageFault Command :=
  match name with
  | "search" => readWith searchOptions readSearch arguments
  | "parse" => readWith parseOptions readParse arguments
  | "config" => readWith settingsOptions readSettings arguments
  | _ => .error (.unknownCommand name)

/-- Reads all arguments.  The version or help is given whatever command is named. -/
def Command.read (arguments : List String) : Except UsageFault Command := do
  let found ← readArguments commonOptions false arguments
  match found.marks, found.others with
  | .version :: _, _ => return .version
  | .help :: _, _ => return .help
  | [], [] => throw .missingCommand
  | [], name :: rest => readNamed name rest

end BooleanSearch.CommandLine
