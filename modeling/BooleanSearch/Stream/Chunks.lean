import BooleanSearch.Error
import BooleanSearch.Text.Utf8

/-!
# Scanning a file in chunks

A file is read in chunks of a fixed number of bytes and decoded as it comes.  Each decoded text is
offered to a matcher.  The texts are also gathered in a buffer, which is offered up to its last line
end whenever it grows beyond its limit, and once more at the end of the file, so that a match across
chunks is still found.
-/

namespace BooleanSearch.Stream

abbrev Matcher (m : Type → Type) : Type :=
  Text → m (Except Failure Bool)

/-- The pieces of `size` bytes of a file; the last one may be shorter.  There are none if the size
is zero. -/
def chunksOf (size : Nat) (bytes : Bytes) : List Bytes :=
  (List.range ((bytes.size + size - 1) / size)).map fun index =>
    bytes.extract (index * size) ((index + 1) * size)

/-- What a scan has found: whether anything matched, the texts that matched, if they are wanted, and
the failure of the matcher that ended the scan, if any. -/
structure ChunkScan where
  matched : Bool := false
  kept : Option (List Text) := none
  failure : Option Failure := none
  deriving Inhabited

namespace ChunkScan

/-- Notes a match.  At most `limit` texts are kept. -/
def note (scan : ChunkScan) (limit : Int) (text : Text) : ChunkScan :=
  { scan with
    matched := true
    kept := scan.kept.map fun texts =>
      if (texts.length : Int) < limit then texts ++ [text] else texts }

variable {m : Type → Type} [Monad m]

/-- Offers a text to a matcher and notes the outcome. -/
def offer (scan : ChunkScan) (accepts : Matcher m) (limit : Int) (text : Text) : m ChunkScan := do
  match ← accepts text with
  | .error failure => pure { scan with failure := some failure }
  | .ok true => pure (scan.note limit text)
  | .ok false => pure scan

/-- Offers a text unless it is empty or something has matched already. -/
def offerUnmatched (scan : ChunkScan) (accepts : Matcher m) (limit : Int) (text : Text) :
    m ChunkScan :=
  if scan.matched || scan.failure.isSome || text.isEmpty then pure scan
  else scan.offer accepts limit text

end ChunkScan

/-- How far a buffer is offered when it is too long: up to and with its last line end, or whole if
it has none. -/
def flushPoint (buffer : Text) : Nat :=
  match (buffer.toList.reverse.findIdx? (· == '\n')) with
  | some index => buffer.size - index
  | none => buffer.size

/-- The limits of a scan: characters in the buffer, texts that are kept, and whether the first match
ends the scan. -/
structure ChunkLimits where
  buffer : Int
  kept : Int
  firstOnly : Bool

/-- A scan under way: the decoder, the buffer, the findings, and whether the scan is over. -/
structure ChunkState where
  decoder : Utf8.Decoder := .boundary
  buffer : Text := #[]
  scan : ChunkScan
  ended : Bool := false

namespace ChunkState

variable {m : Type → Type} [Monad m]

/-- Offers the buffer as far as its last line end and keeps the rest. -/
def flush (state : ChunkState) (accepts : Matcher m) (limits : ChunkLimits) : m ChunkState := do
  let point := flushPoint state.buffer
  let head := state.buffer.slice 0 point
  let scan ←
    if state.scan.matched then pure state.scan else state.scan.offer accepts limits.kept head
  pure { state with
    buffer := state.buffer.slice point state.buffer.size
    scan := scan
    ended := scan.failure.isSome }

/-- Adds a decoded text to the buffer, which is flushed when it is too long. -/
def gather (state : ChunkState) (accepts : Matcher m) (limits : ChunkLimits) (text : Text) :
    m ChunkState :=
  let grown : ChunkState := { state with buffer := state.buffer ++ text }
  if limits.buffer < grown.buffer.size then grown.flush accepts limits else pure grown

def takeText (state : ChunkState) (accepts : Matcher m) (limits : ChunkLimits) (text : Text) :
    m ChunkState :=
  if text.isEmpty then pure state
  else do
    match ← accepts text with
    | .error failure =>
      pure { state with scan := { state.scan with failure := some failure }, ended := true }
    | .ok true =>
      let scan := state.scan.note limits.kept text
      if limits.firstOnly then pure { state with scan := scan, ended := true }
      else gather { state with scan := scan } accepts limits text
    | .ok false => gather state accepts limits text

def takeChunk (accepts : Matcher m) (limits : ChunkLimits) (state : ChunkState) (chunk : Bytes) :
    m ChunkState :=
  if state.ended then pure state
  else
    let (decoder, text) := state.decoder.feed chunk
    takeText { state with decoder := decoder } accepts limits text

def takeEnd (accepts : Matcher m) (limits : ChunkLimits) (state : ChunkState) : m ChunkScan := do
  if state.ended then pure state.scan
  else
    let last ← takeText { state with decoder := .boundary } accepts limits state.decoder.finish
    if last.ended then pure last.scan
    else last.scan.offerUnmatched accepts limits.kept last.buffer

end ChunkState

def scanChunks {m : Type → Type} [Monad m] (accepts : Matcher m) (limits : ChunkLimits)
    (start : ChunkScan) (chunks : List Bytes) : m ChunkScan := do
  let last ← chunks.foldlM (ChunkState.takeChunk accepts limits) { scan := start }
  last.takeEnd accepts limits

end BooleanSearch.Stream
