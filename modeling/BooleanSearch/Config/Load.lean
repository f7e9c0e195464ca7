import BooleanSearch.Config.Validate
import BooleanSearch.Files.Tree
import BooleanSearch.Toml.Reader

/-!
# Loading settings

Settings come from a document in a file and are overridden by the environment.
-/

namespace BooleanSearch.Config

open Files

abbrev Environment := List (String × String)

def filledVariable? (environment : Environment) (name : String) : Option String :=
  filled? (environment.lookup name)

def switchWords : List String :=
  ["1", "true", "yes", "on"]

def isSwitchedOn (environment : Environment) (name : String) : Bool :=
  match filledVariable? environment name with
  | none => false
  | some value => switchWords.contains (Text.lower (Text.strip value))

def override (environment : Environment) (settings : Settings) : Settings :=
  let level :=
    match filledVariable? environment "FILESEEK_LOG_LEVEL" with
    | some value => Text.upper value
    | none => settings.logging.level
  let unfuzzy := isSwitchedOn environment "FILESEEK_NO_FUZZY"
  { settings with
    logging := { settings.logging with level := level }
    cache := { settings.cache with
      enabled := settings.cache.enabled && !isSwitchedOn environment "FILESEEK_NO_CACHE" }
    search := { settings.search with
      caseSensitive :=
        settings.search.caseSensitive || isSwitchedOn environment "FILESEEK_CASE_SENSITIVE"
      fuzzy := settings.search.fuzzy && !unfuzzy
      fuzzyNear := settings.search.fuzzyNear && !unfuzzy } }

/-- The path of the document: the environment names it, or it is in the home folder. -/
def documentPath (environment : Environment) : Path :=
  match filledVariable? environment "FILESEEK_CONFIG" with
  | some text => Path.ofString text
  | none =>
    Path.ofString ((environment.lookup "HOME").getD "" ++ "/.config/fileseek/config.toml")

def newDocumentLines : List String :=
  ["# fileseek configuration", "", "[search]", "case_sensitive = false", "whole_word = false",
    "fuzzy_enabled = true", "fuzzy_near_enabled = true", "fuzzy_threshold = 70.0", "",
    "[streaming]", "chunk_size = 65536          # 64 KiB", "max_file_size = 67108864    # 64 MiB",
    "max_buffer_size = 1048576   # 1 MiB", "max_result_lines = 10000",
    "early_termination = true", "", "[cache]", "enabled = true", "stats_max_size = 100",
    "content_max_size = 50", "content_ttl_seconds = 300.0", "word_index_max_size = 50",
    "max_memory_mb = 256", "", "[memory]", "medium_threshold = 0.70", "high_threshold = 0.85", "",
    "[output]", "default_format = \"rich\"", "color = true", "", "[logging]",
    "level = \"WARNING\"", "json_format = false", ""]

def newDocument : String :=
  joinWith "\n" newDocumentLines

/-- Why settings cannot be loaded: a failure, or issues of the settings. -/
inductive LoadFailure
  | failure (failure : Failure)
  | invalid (issues : List Issue)
  deriving Repr, DecidableEq

/-- The error of a document that cannot be created or read. -/
def documentError (action : String) (path : Path) (reason : String) : LoadFailure :=
  .failure (.error (.ofText .config
    ("Failed to " ++ action ++ " " ++ path.text ++ ": " ++ reason)))

/-- A refusal of the file system becomes an error of the document; other failures stay. -/
def documentFailure (action : String) (path : Path) : Failure → LoadFailure
  | .file fault place => documentError action path (fault.message place)
  | other => .failure other

/-- The first undecodable bytes of a document. -/
def undecodableText (fault : Utf8.Fault) : String :=
  let reason :=
    match fault.kind with
    | .invalidStart => "invalid start byte"
    | .invalidContinuation => "invalid continuation byte"
    | .unexpectedEnd => "unexpected end of data"
  let place :=
    if fault.stop == fault.start + 1 then
      "byte 0x" ++ String.ofList (Text.hexDigits 2 fault.byte.toNat) ++ " in position "
        ++ toString fault.start
    else "bytes in position " ++ toString fault.start ++ "-" ++ toString (fault.stop - 1)
  "'utf-8' codec can't decode " ++ place ++ ": " ++ reason

/-- Reads the bytes of a document as plain data. -/
def readDocument (path : Path) (bytes : Bytes) : Except LoadFailure Value :=
  match Utf8.firstFault? bytes with
  | some fault => .error (.failure (.undecodable (undecodableText fault)))
  | none =>
    match Toml.read (Utf8.decode bytes).toString with
    | .ok data => .ok data
    | .error (.malformed text) => .error (documentError "load config from" path text)
    | .error (.tooManyDigits count) => .error (.failure (.badValue (Text.tooManyDigits count)))

/-- The settings of the document at a path of a tree. -/
def readSettings (files : Tree) (path : Path) : Except LoadFailure Settings := do
  match files.read path with
  | .error failure => throw (documentFailure "load config from" path failure)
  | .ok bytes =>
    let data ← readDocument path bytes
    match validate data with
    | .ok settings => pure settings
    | .error issues => throw (.invalid issues)

/-- Writes a new document at a path, with the folders above it. -/
def createDocument (files : Tree) (path : Path) (now : Float) : Except LoadFailure Tree :=
  let written := do
    let ready ← files.makeFolders path.parent
    ready.write path (Utf8.encodeString newDocument) now
  match written with
  | .ok tree => .ok tree
  | .error failure => .error (documentFailure "create config at" path failure)

/-- Loads the settings of the document at a path and tells the tree afterwards.  A document that is
not there is made first, if that is asked for; otherwise the defaults hold. -/
def load (files : Tree) (environment : Environment) (path : Path) (create : Bool) (now : Float) :
    Except LoadFailure Settings × Tree :=
  let finish (tree : Tree) : Except LoadFailure Settings × Tree :=
    ((readSettings tree path).map (override environment), tree)
  match files.present path with
  | .error failure => (.error (.failure failure), files)
  | .ok true => finish files
  | .ok false =>
    if create then
      match createDocument files path now with
      | .ok tree => finish tree
      | .error failure => (.error failure, files)
    else (.ok (override environment {}), files)

end BooleanSearch.Config
