import BooleanSearch.Cache.Registry
import BooleanSearch.Config.Settings
import BooleanSearch.Match.Session
import BooleanSearch.Stream.Scanner

/-!
# Searchers

A searcher owns what searches share: the session of its evaluations, the scanner of its files and
the monitor of memory.  Its five caches, if they are enabled, are trimmed under pressure like those
of a registry: the facts about files lightly, all others heavily.
-/

namespace BooleanSearch

structure Searcher where
  settings : Config.Settings
  session : Session
  scanner : Stream.Scanner
  monitor : Cache.Monitor

namespace Searcher

def megabyte : Int := 1048576

def makeCache {ν : Type} (settings : Config.Settings) (name : String) (size : Int)
    (lifetime : Option Float) (ceiling : Option Int) (weigh : String → ν → Nat) :
    Except Failure (Option (Cache.Lru String ν)) :=
  if settings.cache.enabled then
    (Cache.Lru.create name size (lifetime.map Number.real) ceiling weigh).map some
  else .ok none

/-- The scanner of a searcher, without its caches. -/
def scannerSettings (settings : Config.Settings) : Stream.Settings where
  chunkSize := settings.streaming.chunkSize
  sizeLimit := settings.streaming.sizeLimit
  bufferLimit := settings.streaming.bufferLimit
  keptChunks := settings.streaming.keptChunks
  cachedSize := settings.cache.contentFileLimit

/-- A searcher with empty caches. -/
def create (settings : Config.Settings) : Except Failure Searcher := do
  let cache := settings.cache
  let memory := settings.memory
  let session : Session := {
    matcher := some (.real settings.search.threshold)
    words := ← makeCache settings "word_index" cache.wordsSize none none Session.weighWords
    fuzzy := ← makeCache settings "fuzzy_results" cache.fuzzySize none none Session.weighFuzzy
    near := ← makeCache settings "proximity_results" cache.proximitySize cache.proximityLifetime none
      Session.weighVerdict }
  let scanner : Stream.Scanner := {
    settings := scannerSettings settings
    facts := ← makeCache settings "file_stats" cache.statsSize cache.statsLifetime none
      Stream.weighFacts
    texts := ← makeCache settings "file_content" cache.contentSize cache.contentLifetime
      (cache.memoryMegabytes.map (· * megabyte)) Stream.weighText }
  let monitor ← Cache.Monitor.create (.real memory.medium) (.real memory.high)
    (some memory.historyLimit)
  return ⟨settings, session, scanner, monitor⟩

/-- The options that hold where a search gives none. -/
def defaultOptions (searcher : Searcher) : MatchOptions :=
  searcher.settings.search.options

/-! ## Caches -/

/-- The counters of the caches, in the order of their creation. -/
def stats (searcher : Searcher) : List Cache.Stats :=
  let one {ν : Type} (cache : Option (Cache.Lru String ν)) : List Cache.Stats :=
    (cache.map Cache.Lru.stats).toList
  one searcher.session.words ++ one searcher.session.fuzzy ++ one searcher.session.near
    ++ one searcher.scanner.facts ++ one searcher.scanner.texts

/-- Empties the caches and counts the entries removed. -/
def clear (searcher : Searcher) : Int × Searcher :=
  let session := searcher.session
  ((searcher.stats.map Cache.Stats.size).foldr (· + ·) 0,
    { searcher with
      scanner := searcher.scanner.clear
      session := { session with
        words := session.words.map fun cache => cache.clear.2
        fuzzy := session.fuzzy.map fun cache => cache.clear.2
        near := session.near.map fun cache => cache.clear.2 } })

/-- Trims a cache for a pressure and tells its name with the number of entries that it gave up. -/
def trimCache {ν : Type} (pressure : Cache.Pressure) (profile : Cache.Profile)
    (cache : Option (Cache.Lru String ν)) :
    List (String × Nat) × Option (Cache.Lru String ν) :=
  match cache with
  | none => ([], none)
  | some present =>
    let (removed, after) := present.trimTo (profile.target pressure present.size)
    (if removed == 0 then [] else [(present.name, removed)], some after)

/-- Trims all caches for a pressure: what each of them gave up, and the reports. -/
def applyPressure (searcher : Searcher) (pressure : Cache.Pressure) :
    List (String × Nat) × List Log.Record × Searcher :=
  if pressure == .low then ([], [], searcher)
  else
    let (fromWords, words) := trimCache pressure .heavy searcher.session.words
    let (fromFuzzy, fuzzy) := trimCache pressure .heavy searcher.session.fuzzy
    let (fromNear, near) := trimCache pressure .heavy searcher.session.near
    let (fromFacts, facts) := trimCache pressure .light searcher.scanner.facts
    let (fromTexts, texts) := trimCache pressure .heavy searcher.scanner.texts
    let removed := fromWords ++ fromFuzzy ++ fromNear ++ fromFacts ++ fromTexts
    (removed, Cache.trimRecords pressure removed,
      { searcher with
        session := { searcher.session with words := words, fuzzy := fuzzy, near := near }
        scanner := { searcher.scanner with facts := facts, texts := texts } })

/-- Checks a reading of the memory in use; the caches are trimmed if the monitor tells of it. -/
def checkMemory (searcher : Searcher) (used : Number) :
    Cache.Sample × List Log.Record × Searcher :=
  let (found, monitor) := searcher.monitor.check used
  let checked : Searcher := { searcher with monitor := monitor }
  if found.notify then
    let (_, records, after) := checked.applyPressure found.sample.pressure
    (found.sample, found.records ++ records, after)
  else (found.sample, found.records, checked)

end Searcher

end BooleanSearch
