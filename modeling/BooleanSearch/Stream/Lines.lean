import BooleanSearch.Stream.Chunks

/-!
# Scanning a file line by line

Lines end with the byte of a line feed.  Each line is decoded, loses its trailing carriage returns
and is offered to a matcher.  Accepted lines are gathered with the offsets of their first bytes, up
to a limit; the first accepted line beyond the limit ends the scan.
-/

namespace BooleanSearch.Stream

def lineFeed : UInt8 := 10

/-- The text of a line: its bytes decoded, without carriage returns at its end. -/
def lineText (bytes : Bytes) : Text :=
  let text := Utf8.decode bytes
  text.extract 0 (text.size - (text.toList.reverse.takeWhile (· == '\r')).length)

/-- The accepted lines with the offsets of their first bytes, whether a further line was accepted,
and the failure of the matcher that ended the scan, if any. -/
structure LineScan where
  lines : List Text := []
  offsets : List Nat := []
  truncated : Bool := false
  failure : Option Failure := none
  deriving Inhabited

/-- Whether a scan looks at no further lines. -/
def LineScan.ended (scan : LineScan) : Bool :=
  scan.truncated || scan.failure.isSome

/-- Adds an accepted line, or notes that there is no room for it. -/
def LineScan.add (scan : LineScan) (limit : Int) (line : Text) (offset : Nat) : LineScan :=
  if limit ≤ scan.lines.length then { scan with truncated := true }
  else { scan with lines := scan.lines ++ [line], offsets := scan.offsets ++ [offset] }

/-- A scan of lines under way: the bytes since the last line end, the offset of the first of them,
and the findings. -/
structure LineState where
  pending : Bytes := #[]
  offset : Nat := 0
  scan : LineScan := {}

namespace LineState

variable {m : Type → Type} [Monad m]

/-- Offers the pending bytes as a line; `skipped` bytes stand between it and the next one. -/
def endLine (accepts : Matcher m) (limit : Int) (skipped : Nat) (state : LineState) :
    m LineState := do
  let line := lineText state.pending
  let next : LineState :=
    { state with pending := #[], offset := state.offset + state.pending.size + skipped }
  match ← accepts line with
  | .error failure => pure { next with scan := { state.scan with failure := some failure } }
  | .ok true => pure { next with scan := state.scan.add limit line state.offset }
  | .ok false => pure next

def takeByte (accepts : Matcher m) (limit : Int) (state : LineState) (byte : UInt8) :
    m LineState :=
  if state.scan.ended then pure state
  else if byte == lineFeed then state.endLine accepts limit 1
  else pure { state with pending := state.pending.push byte }

/-- Takes a chunk.  If no line ends in it and the pending bytes are more than `longest`, they count
as a line of their own. -/
def takeBytes (accepts : Matcher m) (limit longest : Int) (state : LineState) (chunk : Bytes) :
    m LineState := do
  let next ← chunk.foldlM (takeByte accepts limit) state
  if !next.scan.ended && !chunk.contains lineFeed && longest < next.pending.size then
    next.endLine accepts limit 0
  else pure next

/-- Takes the end of the file: bytes after the last line end are a line. -/
def finish (accepts : Matcher m) (limit : Int) (state : LineState) : m LineScan := do
  if state.scan.ended || state.pending.isEmpty then pure state.scan
  else return (← state.endLine accepts limit 0).scan

end LineState

/-- Scans the lines of a file that is read in chunks. -/
def scanLines {m : Type → Type} [Monad m] (accepts : Matcher m) (limit longest : Int)
    (chunks : List Bytes) : m LineScan := do
  let last ← chunks.foldlM (LineState.takeBytes accepts limit longest) {}
  last.finish accepts limit

/-- Scans the lines of a file that is read whole. -/
def scanWhole {m : Type → Type} [Monad m] (accepts : Matcher m) (limit : Int) (bytes : Bytes) :
    m LineScan := do
  let last ← bytes.foldlM (LineState.takeByte accepts limit) {}
  last.finish accepts limit

end BooleanSearch.Stream
