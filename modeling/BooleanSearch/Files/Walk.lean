import BooleanSearch.Files.Tree

/-!
# Walking a tree

The files below a folder, in the order of their names, without what the caller does not want.  A walk
passes over folders that it may not list.  To tell files from folders, it asks the system about every
entry with a visible name, and where the system has no answer the walk fails: a path is too long, the
folder may not be entered, or the entry cannot be reached.  Folders may be nested to any depth: the
limit of a program's call stack is not modelled.
-/

namespace BooleanSearch.Files

/-- Which files a walk yields.  The depth of the folder where a walk starts is zero. -/
structure Wanted where
  hidden : Bool := false
  skipBinary : Bool := true
  extensions : Option (List String) := none
  maxDepth : Option Int := none
  deriving Inhabited

namespace Wanted

def admitsName (wanted : Wanted) (name : String) : Bool :=
  wanted.hidden || !isHidden name

def admitsFolder (_ : Wanted) (name : String) : Bool :=
  !isIgnoredFolder name

def admitsFile (wanted : Wanted) (name : String) : Bool :=
  (!wanted.skipBinary || !isBinary name)
    && match wanted.extensions with
      | none => true
      | some extensions => extensions.isEmpty || extensions.contains (lowerSuffix name)

def admitsDepth (wanted : Wanted) (depth : Nat) : Bool :=
  match wanted.maxDepth with
  | none => true
  | some limit => (depth : Int) ≤ limit

end Wanted

/-- What belongs to names, in the order of the names. -/
def inNameOrder {α : Type} (finds : List (String × α)) : List (String × α) :=
  finds.mergeSort fun left right => left.1 ≤ right.1

/-- All that is found at some names, one after the other, or the first failure. -/
def gather {α : Type} : List (String × Except Failure (List α)) → Except Failure (List α)
  | [] => .ok []
  | (_, found) :: rest => do return (← found) ++ (← gather rest)

/-- Why the system does not tell what an entry of a folder at a path is. -/
def faultAt? (path : Path) (refused : Refused) (name : String) : Option FileFault :=
  if pathLimit < (path.child name).text.utf8ByteSize then some .nameTooLong
  else (refused.entering.or (refused.silent.lookup name)).map .refused

mutual

/-- The wanted files below a tree at a path.  A folder that may not be listed is passed over. -/
def walkTree (wanted : Wanted) (path : Path) (depth : Nat) : Tree → Except Failure (List Path)
  | .file _ _ _ => .ok []
  | .folder entries refused =>
    if wanted.admitsDepth depth then
      match refused.listing with
      | none => gather (inNameOrder (walkEntries wanted path depth refused entries))
      | some .denied => .ok []
      | some .broken => .error (.file (.refused .broken) path.text)
    else .ok []

/-- The wanted files at and below each entry of a folder at a path. -/
def walkEntries (wanted : Wanted) (path : Path) (depth : Nat) (refused : Refused) :
    List (String × Tree) → List (String × Except Failure (List Path))
  | [] => []
  | entry :: rest =>
    (entry.1, walkEntry wanted path depth refused entry) :: walkEntries wanted path depth refused rest

/-- The wanted files at and below one entry of a folder at a path.  Only its name can keep a walk from
asking what the entry is. -/
def walkEntry (wanted : Wanted) (path : Path) (depth : Nat) (refused : Refused) :
    String × Tree → Except Failure (List Path)
  | (name, inside) =>
    if wanted.admitsName name then
      match faultAt? path refused name with
      | some fault => .error (.file fault (path.child name).text)
      | none =>
        if inside.isFolder then
          if wanted.admitsFolder name then walkTree wanted (path.child name) (depth + 1) inside
          else .ok []
        else .ok (if wanted.admitsFile name then [path.child name] else [])
    else .ok []

end

/-- The wanted files at and below a path, or the first failure on the way.  A file at the path itself
is always wanted. -/
def listing (tree : Tree) (root : Path) (wanted : Wanted) : Except Failure (List Path) := do
  if ← tree.isFile root then return [root]
  else if wanted.admitsDepth 0 then walkTree wanted root 0 (← tree.require root)
  else return []

end BooleanSearch.Files
