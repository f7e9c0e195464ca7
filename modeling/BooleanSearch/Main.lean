import BooleanSearch.CommandLine.Run
import BooleanSearch.Files.Change
import Std.Time.DateTime.Timestamp

/-!
# The program

Reads the current folder and the environment, runs the command line over them, writes what the run
has written and the files that it has changed, and ends with its exit code.  A run sees nothing
outside the current folder.
-/

namespace BooleanSearch

open Files

/-- The variables of the environment that a run looks at. -/
def watchedVariables : List String :=
  ["HOME", "FILESEEK_CONFIG", "FILESEEK_LOG_LEVEL", "FILESEEK_NO_CACHE", "FILESEEK_CASE_SENSITIVE",
    "FILESEEK_NO_FUZZY"]

def readEnvironment : IO Config.Environment :=
  watchedVariables.filterMapM fun name => do
    return (← IO.getEnv name).map fun value => (name, value)

def secondsOf (time : IO.FS.SystemTime) : Float :=
  Decimal.ofInt time.sec + Decimal.ofInt time.nsec.toNat / 1000000000.0

def refusalOf : IO.Error → Refusal
  | .permissionDenied _ _ _ => .denied
  | _ => .broken

/-- What an action gives, or why the system refuses it. -/
def attempt {α : Type} (action : IO α) : IO (Except Refusal α) := do
  try return .ok (← action)
  catch failure => return .error (refusalOf failure)

/-- A folder with some entries, of which the system may have told nothing. -/
def folderOf (entries : List (String × Except Refusal Tree)) : Tree :=
  .folder
    (entries.map fun (name, told) => (name, told.toOption.getD Tree.empty))
    { silent := entries.filterMap fun (name, told) =>
        match told with
        | .ok _ => none
        | .error refusal => some (name, refusal) }

/-- Reads an entry of a folder, with all that is below it.  What is neither a file nor a folder is left
out.  Of a file that cannot be read only the size and the time are known. -/
partial def readEntry? (entry : IO.FS.DirEntry) :
    IO (Option (String × Except Refusal Tree)) := do
  match ← attempt entry.path.symlinkMetadata with
  | .error refusal => return some (entry.fileName, .error refusal)
  | .ok facts =>
    match facts.type with
    | .dir =>
      match ← attempt entry.path.readDir with
      | .error refusal => return some (entry.fileName, .ok (.folder [] { listing := some refusal }))
      | .ok inside =>
        return some (entry.fileName, .ok (folderOf (← inside.toList.filterMapM readEntry?)))
    | .file =>
      let modified := secondsOf facts.modified
      match ← attempt (IO.FS.readBinFile entry.path) with
      | .error refusal =>
        let unknown := Array.replicate facts.byteSize.toNat 0
        return some (entry.fileName, .ok (.file unknown modified (some refusal)))
      | .ok content => return some (entry.fileName, .ok (.file content.data modified))
    | _ => return none

def readFolder : IO Tree := do
  let entries ← (← (← IO.currentDir).readDir).toList.filterMapM readEntry?
  return folderOf entries

/-- Writes a file and the folders above it. -/
def writeChange (change : Path × Bytes) : IO Unit := do
  let (path, content) := change
  IO.FS.createDirAll path.parent.text
  IO.FS.writeBinFile path.text ⟨content⟩

end BooleanSearch

open BooleanSearch in
/-- Runs the command line in the current folder. -/
def main (arguments : List String) : IO UInt32 := do
  let files ← readFolder
  let now := (← Std.Time.Timestamp.now).toSecondsSinceUnixEpoch.val
  let outcome := CommandLine.run
    { files := files, environment := ← readEnvironment, now := Decimal.ofInt now } arguments
  IO.print outcome.output
  IO.eprint outcome.errors
  (outcome.files.changesSince files).forM writeChange
  return outcome.code.toUInt32
