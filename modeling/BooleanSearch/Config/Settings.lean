import BooleanSearch.Files.Path
import BooleanSearch.Match.Options

/-!
# Settings

The settings of a search tool, by sections, with what holds where nothing is said.
-/

namespace BooleanSearch.Config

inductive Format
  | rich
  | plain
  | json
  deriving Repr, DecidableEq, Inhabited

def Format.name : Format → String
  | .rich => "rich"
  | .plain => "plain"
  | .json => "json"

def Format.ofName? (name : String) : Option Format :=
  match name with
  | "rich" => some .rich
  | "plain" => some .plain
  | "json" => some .json
  | _ => none

/-- How texts are matched. -/
structure SearchSettings where
  caseSensitive : Bool := false
  wholeWord : Bool := false
  fuzzy : Bool := true
  fuzzyNear : Bool := true
  threshold : Float := 70.0
  sizeLimit : Option Int := some 67108864
  deriving Inhabited

/-- How files are read. -/
structure StreamingSettings where
  chunkSize : Int := 65536
  sizeLimit : Option Int := some 67108864
  bufferLimit : Int := 1048576
  lineLimit : Int := 10000
  keptChunks : Int := 100
  firstOnly : Bool := true
  deriving Inhabited

/-- The sizes of caches and the lifetimes of their entries, in seconds. -/
structure CacheSettings where
  enabled : Bool := true
  statsSize : Int := 100
  statsLifetime : Option Float := some 60.0
  contentSize : Int := 50
  contentLifetime : Option Float := some 300.0
  contentFileLimit : Int := 1048576
  wordsSize : Int := 50
  fuzzySize : Int := 2000
  proximitySize : Int := 2000
  proximityLifetime : Option Float := some 1200.0
  memoryMegabytes : Option Int := some 256
  deriving Inhabited

/-- The thresholds of memory pressure, as fractions of the memory. -/
structure MemorySettings where
  medium : Float := 0.70
  high : Float := 0.85
  historyLimit : Int := 20
  pollSeconds : Float := 30.0
  deriving Inhabited

/-- How results are shown. -/
structure OutputSettings where
  format : Format := .rich
  color : Bool := true
  showLines : Bool := false
  deriving Inhabited

/-- What is reported, and where. -/
structure LoggingSettings where
  level : String := "WARNING"
  file : Option Files.Path := none
  json : Bool := false
  deriving Inhabited

structure Settings where
  search : SearchSettings := {}
  streaming : StreamingSettings := {}
  cache : CacheSettings := {}
  memory : MemorySettings := {}
  output : OutputSettings := {}
  logging : LoggingSettings := {}
  deriving Inhabited

/-- The options of an evaluation under some settings. -/
def SearchSettings.options (settings : SearchSettings) : MatchOptions where
  caseSensitive := settings.caseSensitive
  wholeWord := settings.wholeWord
  fuzzy := settings.fuzzy
  fuzzyNear := settings.fuzzyNear
  sizeLimit := settings.sizeLimit
  threshold := .real settings.threshold

/-- A dictionary with texts as keys. -/
def named (entries : List (String × Value)) : Value :=
  .dict (entries.map fun (name, value) => (.text name, value))

/-- A value that may be missing. -/
def optional {α : Type} (toValue : α → Value) (value : Option α) : Value :=
  (value.map toValue).getD .null

/-- Settings as plain data. -/
def SearchSettings.toValue (settings : SearchSettings) : Value :=
  named [("case_sensitive", .bool settings.caseSensitive),
    ("whole_word", .bool settings.wholeWord), ("fuzzy_enabled", .bool settings.fuzzy),
    ("fuzzy_near_enabled", .bool settings.fuzzyNear),
    ("fuzzy_threshold", .float settings.threshold),
    ("max_content_size", optional .int settings.sizeLimit)]

/-- Settings as plain data. -/
def StreamingSettings.toValue (settings : StreamingSettings) : Value :=
  named [("chunk_size", .int settings.chunkSize),
    ("max_file_size", optional .int settings.sizeLimit),
    ("max_buffer_size", .int settings.bufferLimit),
    ("max_result_lines", .int settings.lineLimit),
    ("max_matched_chunks", .int settings.keptChunks),
    ("early_termination", .bool settings.firstOnly)]

/-- Settings as plain data. -/
def CacheSettings.toValue (settings : CacheSettings) : Value :=
  named [("enabled", .bool settings.enabled), ("stats_max_size", .int settings.statsSize),
    ("stats_ttl_seconds", optional .float settings.statsLifetime),
    ("content_max_size", .int settings.contentSize),
    ("content_ttl_seconds", optional .float settings.contentLifetime),
    ("content_max_file_size", .int settings.contentFileLimit),
    ("word_index_max_size", .int settings.wordsSize),
    ("fuzzy_max_size", .int settings.fuzzySize),
    ("proximity_max_size", .int settings.proximitySize),
    ("proximity_ttl_seconds", optional .float settings.proximityLifetime),
    ("max_memory_mb", optional .int settings.memoryMegabytes)]

/-- Settings as plain data. -/
def MemorySettings.toValue (settings : MemorySettings) : Value :=
  named [("medium_threshold", .float settings.medium), ("high_threshold", .float settings.high),
    ("history_limit", .int settings.historyLimit),
    ("poll_interval_seconds", .float settings.pollSeconds)]

/-- Settings as plain data. -/
def OutputSettings.toValue (settings : OutputSettings) : Value :=
  named [("default_format", .text settings.format.name), ("color", .bool settings.color),
    ("show_lines", .bool settings.showLines)]

/-- Settings as plain data. -/
def LoggingSettings.toValue (settings : LoggingSettings) : Value :=
  named [("level", .text settings.level),
    ("file", optional (fun path => .text (Files.Path.text path)) settings.file),
    ("json_format", .bool settings.json)]

/-- All settings as plain data, by sections. -/
def Settings.toValue (settings : Settings) : Value :=
  named [("search", settings.search.toValue), ("streaming", settings.streaming.toValue),
    ("cache", settings.cache.toValue), ("memory", settings.memory.toValue),
    ("output", settings.output.toValue), ("logging", settings.logging.toValue)]

end BooleanSearch.Config
