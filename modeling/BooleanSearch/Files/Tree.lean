import BooleanSearch.Error
import BooleanSearch.Files.Path

/-!
# File trees

A tree of folders and files, and what reading and changing it can refuse.  Paths are relative to the
top of the tree, and the way up from the top leads to the top.  Nothing stands outside a tree: a path
with an anchor leads to an empty folder, and with a name behind the anchor it leads nowhere.

What may not be read, listed or entered is part of a tree.  Rights to change a tree are not modelled:
every change is permitted.
-/

namespace BooleanSearch.Files

/-- What a system refuses to do with a folder: to list it, to go on from it to its entries, and to tell
anything about single entries. -/
structure Refused where
  listing : Option Refusal := none
  entering : Option Refusal := none
  silent : List (String × Refusal) := []
  deriving Repr, DecidableEq, Inhabited

/-- A file with its bytes, the time of its last change and, if it cannot be read, the reason, or a
folder with its entries by name and what is refused of it. -/
inductive Tree
  | file (content : Bytes) (modified : Float) (reading : Option Refusal := none)
  | folder (entries : List (String × Tree)) (refused : Refused := {})
  deriving Inhabited

/-- The result of a look-up: what is there, or why nothing is. -/
abbrev Found := Except FileFault Tree

def nameLimit : Nat := 255

def pathLimit : Nat := 4095

namespace Tree

/-- A tree with nothing in it. -/
def empty : Tree := .folder []

def isFolder : Tree → Bool
  | .file _ _ _ => false
  | .folder _ _ => true

def entries : Tree → List (String × Tree)
  | .file _ _ _ => []
  | .folder inside _ => inside

def refused : Tree → Refused
  | .file _ _ _ => {}
  | .folder _ refused => refused

/-- The bytes of a file, or why they cannot be read. -/
def content : Tree → Except FileFault Bytes
  | .file bytes _ none => .ok bytes
  | .file _ _ (some refusal) => .error (.refused refusal)
  | .folder _ refused =>
    -- Whether something may be read is decided before it is seen to be a folder.
    if refused.listing == some .denied then .error (.refused .denied) else .error .isFolder

/-- What stands under a name in a folder with some entries, of which the system may refuse to tell. -/
def entryNamed (name : String) (inside : List (String × Tree)) (refused : Refused) : Found :=
  if nameLimit < name.utf8ByteSize then .error .nameTooLong
  else
    match inside.lookup name, refused.silent.lookup name with
    | none, _ => .error .missing
    | some _, some refusal => .error (.refused refusal)
    | some next, none => .ok next

/-- Follows names from a tree; `above` holds the folders on the way back to the top.  Empty names and
single points, which a path does not have but its spelling may have, stay in a folder. -/
def follow (above : List Tree) (here : Tree) : List String → Found
  | [] => .ok here
  | name :: rest =>
    match here with
    | .file _ _ _ => .error .notFolder
    | .folder inside refused =>
      if name.isEmpty then follow above here rest
      else
        match refused.entering with
        | some refusal => .error (.refused refusal)
        | none =>
          if name == "." then follow above here rest
          else if name == ".." then
            match above with
            | [] => follow [] here rest
            | upper :: others => follow others upper rest
          else
            match entryNamed name inside refused with
            | .error fault => .error fault
            | .ok next => follow (here :: above) next rest

/-- Where the way along a path begins.  Below an anchor there is nothing but the anchor itself. -/
def start (tree : Tree) (path : Path) : Tree :=
  if path.anchor.isEmpty then tree else empty

/-- What stands at a path. -/
def find (tree : Tree) (path : Path) : Found :=
  if pathLimit < path.text.utf8ByteSize then .error .nameTooLong
  else follow [] (tree.start path) path.names

/-- What stands at a path that is given by its spelling.  The system does not clean the spelling: all of
it counts for its length, and behind a slash at its end there must be a folder. -/
def findSpelled (tree : Tree) (text : String) : Found :=
  if text.isEmpty then .error .missing
  else if pathLimit < text.utf8ByteSize then .error .nameTooLong
  else follow [] (tree.start (Path.ofString text)) (splitAtChar '/' text)

/-- The failure of a path with a character that ends texts of the system. -/
def embeddedZero : Failure :=
  .badValue "embedded null byte"

/-- Whether a path can be given to the system. -/
def admissible (path : Path) : Bool :=
  !path.text.toList.contains '\x00'

/-- What stands at a path, or the failure to get there. -/
def require (tree : Tree) (path : Path) : Except Failure Tree :=
  if admissible path then
    match tree.find path with
    | .ok found => .ok found
    | .error fault => .error (.file fault path.text)
  else .error embeddedZero

/-- The bytes of the file at a path. -/
def read (tree : Tree) (path : Path) : Except Failure Bytes := do
  match (← tree.require path).content with
  | .ok bytes => .ok bytes
  | .error fault => .error (.file fault path.text)

/-- The bytes of the file at a path that is given by its spelling. -/
def readSpelled (tree : Tree) (text : String) : Except Failure Bytes :=
  if admissible (Path.ofString text) then
    match tree.findSpelled text >>= content with
    | .ok bytes => .ok bytes
    | .error fault => .error (.file fault text)
  else .error embeddedZero

/-- The faults that tell that nothing is there; any other is a failure. -/
def tellsAbsence : FileFault → Bool
  | .missing | .notFolder => true
  | _ => false

/-- Whether something stands at a path. -/
def present (tree : Tree) (path : Path) : Except Failure Bool :=
  if admissible path then
    match tree.find path with
    | .ok _ => .ok true
    | .error fault => if tellsAbsence fault then .ok false else .error (.file fault path.text)
  else .ok false

/-- Whether a file stands at a path, be it readable or not. -/
def isFile (tree : Tree) (path : Path) : Except Failure Bool :=
  if admissible path then
    match tree.find path with
    | .ok found => .ok !found.isFolder
    | .error fault => if tellsAbsence fault then .ok false else .error (.file fault path.text)
  else .ok false

/-- Entries with one of them replaced or, if the name is new, added. -/
def setEntry (name : String) (value : Tree) : List (String × Tree) → List (String × Tree)
  | [] => [(name, value)]
  | (other, inside) :: rest =>
    if other == name then (name, value) :: rest else (other, inside) :: setEntry name value rest

/-- The tree with a subtree at the end of some names; folders on the way are made. -/
def put (subtree : Tree) : List String → Tree → Tree
  | [], _ => subtree
  | name :: rest, tree =>
    .folder (setEntry name (put subtree rest ((tree.entries.lookup name).getD empty)) tree.entries)
      tree.refused

/-- The tree without what stands at the end of some names. -/
def take : List String → Tree → Tree
  | [], tree => tree
  | [name], tree => .folder (tree.entries.filter fun entry => entry.1 != name) tree.refused
  | name :: rest, tree =>
    match tree.entries.lookup name with
    | none => tree
    | some inside => .folder (setEntry name (take rest inside) tree.entries) tree.refused

/-- The names of a path without the steps up. -/
def straighten (path : Path) : List String :=
  (path.names.foldl
    (fun names name => if name == ".." then names.drop 1 else name :: names) []).reverse

/-- Makes the folder at a path and those above it, as far as they are missing. -/
def makeFolders (tree : Tree) (path : Path) : Except Failure Tree :=
  if admissible path then
    match tree.find path with
    | .ok (.folder _ _) => .ok tree
    | .ok (.file _ _ _) => .error (.file .exists path.text)
    | .error .missing => .ok (put empty (straighten path) tree)
    | .error fault => .error (.file fault path.text)
  else .error embeddedZero

/-- Writes a file at a path whose folder is there.  A file that was there keeps who may read it. -/
def write (tree : Tree) (path : Path) (content : Bytes) (modified : Float) :
    Except Failure Tree :=
  if admissible path then
    match tree.find path with
    | .ok (.folder _ _) => .error (.file .isFolder path.text)
    | .ok (.file _ _ reading) => .ok (put (.file content modified reading) (straighten path) tree)
    | .error .missing =>
      match tree.find path.parent with
      | .ok _ => .ok (put (.file content modified) (straighten path) tree)
      | .error fault => .error (.file fault path.text)
    | .error fault => .error (.file fault path.text)
  else .error embeddedZero

def remove (tree : Tree) (path : Path) : Except Failure Tree := do
  match ← tree.require path with
  | .file _ _ _ => .ok (take (straighten path) tree)
  | .folder _ _ => .error (.file .isFolder path.text)

end Tree

end BooleanSearch.Files
