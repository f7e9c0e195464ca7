import BooleanSearch.Cache.Lru
import BooleanSearch.Files.Tree
import BooleanSearch.Log.Record
import BooleanSearch.Stream.Lines

/-!
# Scanners

A scanner reads the files of a tree for matchers.  It may keep the facts about files, and the texts
of small files, in caches.  Errors of reading and of size are part of its answers; only other
failures stop it.
-/

namespace BooleanSearch.Stream

open Files

/-- What is known of a file before it is read. -/
structure FileFacts where
  size : Nat
  modified : Float
  isFolder : Bool
  deriving Inhabited

/-- The bytes that facts are taken to occupy. -/
def FileFacts.footprint (_ : FileFacts) : Nat :=
  20

/-- The settings of a scanner.  Sizes of files and chunks are in bytes, that of the buffer in
characters. -/
structure Settings where
  chunkSize : Int := 65536
  sizeLimit : Option Int := none
  bufferLimit : Int := 1048576
  keptChunks : Int := 100
  cachedSize : Int := 1048576
  deriving Inhabited

/-- A scanner with its caches, as far as they exist, its reports, and the number of its look-ups so
far. -/
structure Scanner where
  settings : Settings := {}
  facts : Option (Cache.Lru String FileFacts) := none
  texts : Option (Cache.Lru String Text) := none
  records : Array Log.Record := #[]
  clock : Nat := 0

/-- The bytes of facts under their key. -/
def weighFacts (key : String) (facts : FileFacts) : Nat :=
  2 * key.length + facts.footprint

/-- The bytes of a text under its key. -/
def weighText (key : String) (text : Text) : Nat :=
  2 * key.length + 2 * text.size

/-- A failure that is part of an answer: a file that cannot be read, or a content that is too
large. -/
def answered? : Failure → Option SearchError
  | .error error =>
    match error.category with
    | .fileRead | .contentTooLarge => some error
    | _ => none
  | _ => none

/-- The error of a file that cannot be read. -/
def unreadable (path reason : String) : SearchError :=
  ⟨.unreadable path (some reason), none⟩

/-- A refusal of the file system as an error of the file; other failures stay. -/
def asUnreadable (path : String) : Failure → Failure
  | .file fault _ => .error (unreadable path fault.reason)
  | failure => failure

/-- A file read whole: its text and its facts, as far as they are known, and the error, if any. -/
structure FileText where
  content : Option Text := none
  error : Option SearchError := none
  facts : Option FileFacts := none

/-- The facts about what stands in a tree.  The size of a folder means nothing. -/
def factsOf : Tree → FileFacts
  | .file content modified _ => ⟨content.size, modified, false⟩
  | .folder _ _ => ⟨0, 0.0, true⟩

namespace Scanner

/-- The time of a scanner: every look-up takes a millionth of a second, and nothing else takes
any. -/
def now (scanner : Scanner) : Float :=
  Decimal.ofInt scanner.clock / 1000000.0

/-- The scanner after a look-up that left a cache of facts. -/
def keepFacts (scanner : Scanner) (cache : Cache.Lru String FileFacts) : Scanner :=
  { scanner with facts := some cache, clock := scanner.clock + 1 }

/-- The scanner after a look-up that left a cache of texts. -/
def keepTexts (scanner : Scanner) (cache : Cache.Lru String Text) : Scanner :=
  { scanner with texts := some cache, clock := scanner.clock + 1 }

/-- The facts about a path. -/
def stats (scanner : Scanner) (files : Tree) (path : String) :
    Except Failure FileFacts × Scanner :=
  let fresh : Except Failure FileFacts :=
    match files.require (Path.ofString path) with
    | .ok found => .ok (factsOf found)
    | .error failure => .error (asUnreadable path failure)
  match scanner.facts with
  | none => (fresh, scanner)
  | some cache =>
    match cache.get scanner.now path with
    | (some known, after) => (.ok known, scanner.keepFacts after)
    | (none, after) =>
      match fresh with
      | .ok facts => (.ok facts, scanner.keepFacts (after.set scanner.now path facts))
      | .error failure => (.error failure, scanner.keepFacts after)

/-- The facts about a file that may be read: not those of a folder or of a file beyond the size
limit. -/
def checkedStats (scanner : Scanner) (files : Tree) (path : String) (limit : Option Int) :
    Except Failure FileFacts × Scanner :=
  match scanner.stats files path with
  | (.error failure, after) => (.error failure, after)
  | (.ok facts, after) =>
    if facts.isFolder then (.error (.error (unreadable path "is a directory")), after)
    else
      match limit <|> scanner.settings.sizeLimit with
      | none => (.ok facts, after)
      | some bytes =>
        if bytes < facts.size then
          (.error (.error ⟨.tooLarge facts.size bytes (some path), none⟩), after)
        else (.ok facts, after)

def versionKey (path : String) (facts : FileFacts) : String :=
  path ++ ":" ++ Decimal.shortest facts.modified ++ ":" ++ toString facts.size

/-- The bytes of a file, or the error of reading it. -/
def bytesAt (files : Tree) (path : String) : Except Failure Bytes :=
  match files.read (Path.ofString path) with
  | .ok bytes => .ok bytes
  | .error failure => .error (asUnreadable path failure)

/-- The text of a file whose facts are known.  Texts of small files are kept. -/
def readText (scanner : Scanner) (files : Tree) (path : String) (facts : FileFacts) :
    Except Failure Text × Scanner :=
  let fresh : Except Failure Text := (bytesAt files path).map Utf8.decode
  match if facts.size ≤ scanner.settings.cachedSize then scanner.texts else none with
  | none => (fresh, scanner)
  | some cache =>
    let key := versionKey path facts
    match cache.get scanner.now key with
    | (some known, after) => (.ok known, scanner.keepTexts after)
    | (none, after) =>
      match fresh with
      | .ok text => (.ok text, scanner.keepTexts (after.set scanner.now key text))
      | .error failure => (.error failure, scanner.keepTexts after)

def wholeText (scanner : Scanner) (files : Tree) (path : String) (limit : Option Int) :
    Except Failure FileText × Scanner :=
  let answer (facts : Option FileFacts) (failure : Failure) : Except Failure FileText :=
    match answered? failure with
    | some error => .ok { error := some error, facts := facts }
    | none => .error failure
  match scanner.checkedStats files path limit with
  | (.error failure, after) => (answer none failure, after)
  | (.ok facts, after) =>
    match after.readText files path facts with
    | (.error failure, last) => (answer (some facts) failure, last)
    | (.ok text, last) => (.ok { content := some text, facts := some facts }, last)

/-- Forgets what the caches hold. -/
def clear (scanner : Scanner) : Scanner :=
  { scanner with
    facts := scanner.facts.map fun cache => cache.clear.2
    texts := scanner.texts.map fun cache => cache.clear.2 }

/-- How a file of some size is read by chunks of a wished size. -/
inductive Reading
  | whole
  | inChunks (size : Nat)
  | atOnce
  | refused
  deriving Repr, DecidableEq

/-- A file that is smaller than one chunk is read whole.  A chunk size of minus one means all that
is there. -/
def reading (chunkSize : Int) (size : Nat) : Reading :=
  if (size : Int) < chunkSize then .whole
  else if 0 ≤ chunkSize then .inChunks chunkSize.toNat
  else if chunkSize == -1 then .atOnce
  else .refused

/-- The bytes of a file that is opened by the spelling of its path, or the error of reading it. -/
def spelledBytesAt (files : Tree) (path : String) : Except Failure Bytes :=
  match files.readSpelled path with
  | .ok bytes => .ok bytes
  | .error failure => .error (asUnreadable path failure)

/-- The parts of a file as they are read.  Only a file that is read whole is opened by the path that
its spelling stands for; parts are read under the spelling itself. -/
def chunks (files : Tree) (path : String) (how : Reading) : Except Failure (List Bytes) :=
  match spelledBytesAt files path with
  | .error failure => .error failure
  | .ok bytes =>
    match how with
    | .whole => .ok [bytes]
    | .atOnce => .ok (if bytes.isEmpty then [] else [bytes])
    | .inChunks size => .ok (chunksOf size bytes)
    | .refused => .error (.badValue "read length must be non-negative or -1")

/-- What is asked of one scan; what is not said is decided by the scanner's settings. -/
structure Request where
  chunkSize : Option Int := none
  sizeLimit : Option Int := none

/-- The chunk size of a request; zero counts as not said. -/
def chunkSize (scanner : Scanner) (request : Request) : Int :=
  match request.chunkSize with
  | some size => if size == 0 then scanner.settings.chunkSize else size
  | none => scanner.settings.chunkSize

def failedRecord (path : String) (error : SearchError) : Log.Record where
  level := Log.debugLevel
  logger := "fileseek.stream.processor"
  message := "Scan failed"
  context := [("path", .text path), ("error", .text error.message)]

structure ChunkOutcome where
  matched : Bool
  kept : Option (List Text)
  error : Option SearchError

/-- A finished scan as an outcome.  An error is reported and becomes part of the outcome. -/
def conclude (path : String) (scan : ChunkScan) (scanner : Scanner) :
    Except Failure ChunkOutcome × Scanner :=
  match scan.failure with
  | none => (.ok ⟨scan.matched, scan.kept, none⟩, scanner)
  | some failure =>
    match answered? failure with
    | none => (.error failure, scanner)
    | some error =>
      (.ok ⟨scan.matched, scan.kept, some error⟩,
        { scanner with records := scanner.records.push (failedRecord path error) })

variable {m : Type → Type} [Monad m]

/-- Scans a file whose text is at hand: the whole text is offered unless it is empty. -/
def scanText (accepts : Matcher m) (limit : Int) (start : ChunkScan) (text : Text) : m ChunkScan :=
  if text.isEmpty then pure start else start.offer accepts limit text

/-- Scans a file by chunks for texts that a matcher accepts. -/
def process (scanner : Scanner) (files : Tree) (path : String) (accepts : Matcher m)
    (request : Request) (firstOnly : Bool) : m (Except Failure ChunkOutcome × Scanner) := do
  let start : ChunkScan := { kept := if firstOnly then none else some [] }
  let limits : ChunkLimits := ⟨scanner.settings.bufferLimit, scanner.settings.keptChunks, firstOnly⟩
  let size := scanner.chunkSize request
  match scanner.checkedStats files path request.sizeLimit with
  | (.error failure, after) => pure (conclude path { start with failure := some failure } after)
  | (.ok facts, after) =>
    match reading size facts.size with
    | .whole =>
      match after.readText files path facts with
      | (.error failure, last) => pure (conclude path { start with failure := some failure } last)
      | (.ok text, last) =>
        return conclude path (← scanText accepts limits.kept start text) last
    | how =>
      match chunks files path how with
      | .error failure => pure (conclude path { start with failure := some failure } after)
      | .ok pieces => return conclude path (← scanChunks accepts limits start pieces) after

structure LineOutcome where
  lines : List Text
  offsets : List Nat
  truncated : Bool
  error : Option SearchError

/-- A finished scan of lines as an outcome. -/
def concludeLines (scan : LineScan) : Except Failure LineOutcome :=
  match scan.failure with
  | none => .ok ⟨scan.lines, scan.offsets, scan.truncated, none⟩
  | some failure =>
    match answered? failure with
    | none => .error failure
    | some error => .ok ⟨scan.lines, scan.offsets, scan.truncated, some error⟩

/-- Gathers the lines of a file that a matcher accepts, at most `limit` of them. -/
def lines (scanner : Scanner) (files : Tree) (path : String) (accepts : Matcher m)
    (request : Request) (limit : Int) : m (Except Failure LineOutcome × Scanner) := do
  let size := scanner.chunkSize request
  match scanner.checkedStats files path request.sizeLimit with
  | (.error failure, after) => pure (concludeLines { failure := some failure }, after)
  | (.ok facts, after) =>
    match reading size facts.size with
    | .whole =>
      match bytesAt files path with
      | .error failure => pure (concludeLines { failure := some failure }, after)
      | .ok bytes => return (concludeLines (← scanWhole accepts limit bytes), after)
    | how =>
      match chunks files path how with
      | .error failure => pure (concludeLines { failure := some failure }, after)
      | .ok pieces =>
        return (concludeLines (← scanLines accepts limit scanner.settings.bufferLimit pieces), after)

end Scanner

end BooleanSearch.Stream
