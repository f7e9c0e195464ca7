import BooleanSearch.Files.Tree
import BooleanSearch.Log.Written
import BooleanSearch.Text.Lettercase
import BooleanSearch.Text.Utf8

/-!
# Outlets of reports

Reports of at least some level are written to the error stream and, if a file is named, to that
file.  What loggers outside the package report has no outlet but the error stream, and only if it
is at least suspicious.
-/

namespace BooleanSearch.Log

open Files

/-- Where reports are written: as text or as JSON to the error stream, or as JSON to a file. -/
inductive Outlet
  | terminal
  | jsonStream
  | file (path : Path)
  deriving Repr, DecidableEq

/-- How reports are to be written. -/
structure Wishes where
  level : String := "WARNING"
  file : Option Path := none
  json : Bool := false

/-- The least level that is written, and the outlets in their order. -/
structure Outlets where
  level : Nat := warningLevel
  all : List Outlet := []

def packageLogger : String := "fileseek"

def isOfPackage (logger : String) : Bool :=
  logger == packageLogger || logger.startsWith (packageLogger ++ ".")

namespace Outlets

/-- Makes sure that a file is there, in a folder that is made if it is missing. -/
def openFile (files : Tree) (path : Path) (now : Float) : Except Failure Tree := do
  let ready ← files.makeFolders path.parent
  if ← ready.isFile path then return ready else ready.write path #[] now

/-- Opens the outlets that are wished for.  A level of an unknown name is that of suspicious
events. -/
def create (wishes : Wishes) (files : Tree) (now : Float) : Except Failure (Outlets × Tree) := do
  let level := (levelOfName? (Text.upper wishes.level)).getD warningLevel
  let stream := if wishes.json then Outlet.jsonStream else Outlet.terminal
  match wishes.file with
  | none => return (⟨level, [stream]⟩, files)
  | some path => return (⟨level, [stream, .file path]⟩, ← openFile files path now)

/-- Whether a report of a logger is written. -/
def accepts (outlets : Outlets) (record : Record) : Bool :=
  if isOfPackage record.logger && outlets.level != unsetLevel then outlets.level ≤ record.level
  else warningLevel ≤ record.level

/-- What has been written: the error stream, and the files. -/
structure Written where
  stream : String := ""
  files : Tree

def terminalColumns : Nat := 80

/-- Adds a line to a file, which need not be readable; where no file stands, nothing changes. -/
def appendLine (files : Tree) (path : Path) (line : String) (now : Float) : Tree :=
  match files.require path with
  | .ok (.file content _ _) =>
    match files.write path (content ++ Utf8.encodeString (line ++ "\n")) now with
    | .error _ => files
    | .ok after => after
  | _ => files

/-- Writes a report to an outlet; `time` is what lines of JSON tell of the time. -/
def writeTo (time : String) (now : Float) (record : Record) (written : Written) :
    Outlet → Except Failure Written
  | .terminal =>
    .ok { written with
      stream := written.stream
        ++ String.join ((record.terminalLines terminalColumns).map fun line => line ++ "\n") }
  | .jsonStream => do
    return { written with stream := written.stream ++ (← record.jsonLine time) ++ "\n" }
  | .file path => do
    return { written with files := appendLine written.files path (← record.jsonLine time) now }

/-- Writes a report to all outlets, if it is accepted. -/
def write (outlets : Outlets) (time : String) (now : Float) (written : Written)
    (record : Record) : Except Failure Written :=
  if !outlets.accepts record then .ok written
  else if isOfPackage record.logger then
    outlets.all.foldlM (writeTo time now record) written
  else .ok { written with stream := written.stream ++ record.message ++ "\n" }

end Outlets

end BooleanSearch.Log
