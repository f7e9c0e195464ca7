import BooleanSearch.Config.Lenient
import BooleanSearch.Config.Settings

/-!
# Validating settings

Plain data are read as settings.  All issues are gathered, in the order of the sections and of the
settings in them; there are settings only if there is no issue.
-/

namespace BooleanSearch.Config

/-- A reading that gathers issues and goes on. -/
abbrev Gathering (α : Type) : Type :=
  StateM (List Issue) α

structure Section where
  name : String
  entries : List (Value × Value)

/-- Reads a setting of a section; one that is not there has its default. -/
def Section.setting {α : Type} (within : Section) (name : String) (default : α)
    (read : Value → Reading α) : Gathering α := do
  match Value.lookup? within.entries name with
  | none => pure default
  | some value =>
    match read value with
    | .ok found => pure found
    | .error complaint =>
      modify fun issues => issues ++ [⟨[within.name, name], complaint⟩]
      pure default

def readSearch (within : Section) : Gathering SearchSettings := do
  let base : SearchSettings := {}
  return {
    caseSensitive := ← within.setting "case_sensitive" base.caseSensitive readBool
    wholeWord := ← within.setting "whole_word" base.wholeWord readBool
    fuzzy := ← within.setting "fuzzy_enabled" base.fuzzy readBool
    fuzzyNear := ← within.setting "fuzzy_near_enabled" base.fuzzyNear readBool
    threshold := ← within.setting "fuzzy_threshold" base.threshold
      (fun value => readNumber value >>= atMost 100 >>= atLeast 0)
    sizeLimit := ← within.setting "max_content_size" base.sizeLimit (readOptional (wholeAbove 0)) }

def readStreaming (within : Section) : Gathering StreamingSettings := do
  let base : StreamingSettings := {}
  return {
    chunkSize := ← within.setting "chunk_size" base.chunkSize (wholeAbove 0)
    sizeLimit := ← within.setting "max_file_size" base.sizeLimit (readOptional (wholeAbove 0))
    bufferLimit := ← within.setting "max_buffer_size" base.bufferLimit (wholeAbove 0)
    lineLimit := ← within.setting "max_result_lines" base.lineLimit (wholeAbove 0)
    keptChunks := ← within.setting "max_matched_chunks" base.keptChunks (wholeFrom 0)
    firstOnly := ← within.setting "early_termination" base.firstOnly readBool }

def readCache (within : Section) : Gathering CacheSettings := do
  let base : CacheSettings := {}
  let lifetime := readOptional readNumber
  return {
    enabled := ← within.setting "enabled" base.enabled readBool
    statsSize := ← within.setting "stats_max_size" base.statsSize (wholeAbove 0)
    statsLifetime := ← within.setting "stats_ttl_seconds" base.statsLifetime lifetime
    contentSize := ← within.setting "content_max_size" base.contentSize (wholeAbove 0)
    contentLifetime := ← within.setting "content_ttl_seconds" base.contentLifetime lifetime
    contentFileLimit := ← within.setting "content_max_file_size" base.contentFileLimit
      (wholeFrom 0)
    wordsSize := ← within.setting "word_index_max_size" base.wordsSize (wholeAbove 0)
    fuzzySize := ← within.setting "fuzzy_max_size" base.fuzzySize (wholeAbove 0)
    proximitySize := ← within.setting "proximity_max_size" base.proximitySize (wholeAbove 0)
    proximityLifetime := ← within.setting "proximity_ttl_seconds" base.proximityLifetime lifetime
    memoryMegabytes := ← within.setting "max_memory_mb" base.memoryMegabytes
      (readOptional (wholeAbove 0)) }

def readFraction (value : Value) : Reading Float :=
  readNumber value >>= atMost 1 >>= aboveBound 0

/-- Reads the thresholds of memory pressure.  If nothing else is wrong, their order is checked. -/
def readMemory (within : Section) : Gathering MemorySettings := do
  let base : MemorySettings := {}
  let before ← get
  let settings : MemorySettings := {
    medium := ← within.setting "medium_threshold" base.medium readFraction
    high := ← within.setting "high_threshold" base.high readFraction
    historyLimit := ← within.setting "history_limit" base.historyLimit (wholeAbove 0)
    pollSeconds := ← within.setting "poll_interval_seconds" base.pollSeconds
      (fun value => readNumber value >>= aboveBound 0) }
  let after ← get
  if after.length == before.length && settings.high < settings.medium then
    set (after ++ [⟨[within.name],
      .contradiction "medium_threshold must not exceed high_threshold"⟩])
  return settings

def readFormat (value : Value) : Reading Format :=
  match readText value with
  | .ok name =>
    match Format.ofName? name with
    | some format => .ok format
    | none => .error .notFormat
  | .error _ => .error .notFormat

def readOutput (within : Section) : Gathering OutputSettings := do
  let base : OutputSettings := {}
  return {
    format := ← within.setting "default_format" base.format readFormat
    color := ← within.setting "color" base.color readBool
    showLines := ← within.setting "show_lines" base.showLines readBool }

def readLogging (within : Section) : Gathering LoggingSettings := do
  let base : LoggingSettings := {}
  return {
    level := ← within.setting "level" base.level readText
    file := ← within.setting "file" base.file (readOptional readPath)
    json := ← within.setting "json_format" base.json readBool }

def readSection {α : Type} (entries : List (Value × Value)) (name model : String) (base : α)
    (read : Section → Gathering α) : Gathering α :=
  match Value.lookup? entries name with
  | none => pure base
  | some (.dict inside) => read ⟨name, inside⟩
  | some _ => do
    modify fun issues => issues ++ [⟨[name], .notSection model⟩]
    pure base

def readSections (entries : List (Value × Value)) : Gathering Settings := do
  return {
    search := ← readSection entries "search" "SearchConfig" {} readSearch
    streaming := ← readSection entries "streaming" "StreamingConfig" {} readStreaming
    cache := ← readSection entries "cache" "CacheConfig" {} readCache
    memory := ← readSection entries "memory" "MemoryConfig" {} readMemory
    output := ← readSection entries "output" "OutputConfig" {} readOutput
    logging := ← readSection entries "logging" "LoggingConfig" {} readLogging }

/-- Plain data as settings, or everything that is wrong with them. -/
def validate (data : Value) : Except (List Issue) Settings :=
  match data with
  | .dict entries =>
    let (settings, issues) := readSections entries []
    if issues.isEmpty then .ok settings else .error issues
  | _ => .error [⟨[], .notSection "FileSeekConfig"⟩]

end BooleanSearch.Config
