import BooleanSearch.Files.Tree

/-!
# Changes of a tree

The files that a tree holds, and those that another tree does not hold in the same way.
-/

namespace BooleanSearch.Files.Tree

mutual

/-- The files of a tree that stands at a path, with their bytes. -/
def filesBelow (path : Path) : Tree → List (Path × Bytes)
  | .file content _ _ => [(path, content)]
  | .folder inside _ => filesOfEntries path inside

/-- The files of the entries of a folder that stands at a path. -/
def filesOfEntries (path : Path) : List (String × Tree) → List (Path × Bytes)
  | [] => []
  | (name, inside) :: rest => filesBelow (path.child name) inside ++ filesOfEntries path rest

end

/-- What a tree holds at the end of some names, whether or not a system tells it. -/
def holding? (tree : Tree) : List String → Option Tree
  | [] => some tree
  | name :: rest =>
    match tree.entries.lookup name with
    | none => none
    | some inside => inside.holding? rest

/-- The files of a tree that were not there before, or held other bytes. -/
def changesSince (after before : Tree) : List (Path × Bytes) :=
  (after.filesBelow ⟨"", []⟩).filter fun (path, content) =>
    match before.holding? path.names with
    | some (.file old _ _) => old != content
    | _ => true

end BooleanSearch.Files.Tree
