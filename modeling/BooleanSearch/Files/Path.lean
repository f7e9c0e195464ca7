import BooleanSearch.Text.Lettercase
import BooleanSearch.Text.Basic

/-!
# Paths

A path is an anchor, empty for a relative path, and the names on the way.  Reading a path drops
empty names and single points, so that two spellings of one way are equal.
-/

namespace BooleanSearch.Files

/-- A path: the slashes that it starts with, if they count, and its names. -/
structure Path where
  anchor : String
  names : List String
  deriving Repr, DecidableEq, Inhabited

namespace Path

/-- The anchor of a text.  Exactly two leading slashes are kept, any other number counts as one. -/
def anchorOf (chars : List Char) : String :=
  match (chars.takeWhile (· == '/')).length with
  | 0 => ""
  | 2 => "//"
  | _ => "/"

/-- The path that a text spells. -/
def ofString (text : String) : Path where
  anchor := anchorOf text.toList
  names := (splitAtChar '/' text).filter fun name => !name.isEmpty && name != "."

def text (path : Path) : String :=
  if path.anchor.isEmpty && path.names.isEmpty then "."
  else path.anchor ++ joinWith "/" path.names

/-- A path followed by one more name. -/
def child (path : Path) (name : String) : Path :=
  { path with names := path.names ++ [name] }

/-- The path without its last name. -/
def parent (path : Path) : Path :=
  { path with names := path.names.dropLast }

/-- The last name of a path, empty if it has none. -/
def name (path : Path) : String :=
  path.names.getLast?.getD ""

end Path

/-- The part of a name from its last point on, unless the point is its first or last character. -/
def suffix (name : String) : String :=
  let reversed := name.toList.reverse
  let after := reversed.takeWhile (· != '.')
  let before := (reversed.dropWhile (· != '.')).drop 1
  if after.isEmpty || before.isEmpty || after.length == reversed.length then ""
  else String.ofList ('.' :: after.reverse)

def isHidden (name : String) : Bool :=
  name.startsWith "."

/-- The suffixes, in lower case, of files that do not hold text. -/
def binarySuffixes : List String :=
  [".png", ".jpg", ".jpeg", ".gif", ".bmp", ".ico", ".webp",
    ".pdf", ".doc", ".docx", ".xls", ".xlsx", ".ppt", ".pptx",
    ".zip", ".tar", ".gz", ".bz2", ".xz", ".7z", ".rar",
    ".exe", ".dll", ".so", ".dylib", ".bin", ".o", ".obj", ".a",
    ".mp3", ".mp4", ".wav", ".avi", ".mov", ".mkv",
    ".pyc", ".pyo", ".class", ".jar",
    ".db", ".sqlite", ".sqlite3",
    ".woff", ".woff2", ".ttf", ".otf", ".eot",
    ".pickle", ".pkl", ".npy", ".npz"]

/-- The names of folders that are never entered. -/
def ignoredFolders : List String :=
  [".git", ".svn", ".hg",
    "node_modules", "__pycache__",
    ".pytest_cache", ".mypy_cache", ".ruff_cache",
    "venv", ".venv", ".tox", ".nox",
    "dist", "build", "htmlcov"]

def lowerSuffix (name : String) : String :=
  Text.lower (suffix name)

/-- Whether the suffix of a name tells that the file does not hold text. -/
def isBinary (name : String) : Bool :=
  binarySuffixes.contains (lowerSuffix name)

/-- Whether a folder of this name is never entered. -/
def isIgnoredFolder (name : String) : Bool :=
  ignoredFolders.contains name

/-- An extension in lower case with its leading point. -/
def normalizeExtension (extension : String) : String :=
  Text.lower (if extension.startsWith "." then extension else "." ++ extension)

/-- Extensions in their normal form, each once; empty ones are dropped.  No extension at all means
that any is wanted. -/
def normalizeExtensions (extensions : List String) : Option (List String) :=
  if extensions.isEmpty then none
  else
    let filled := extensions.filter fun extension => !extension.isEmpty
    some (filled.map normalizeExtension).eraseDups

end BooleanSearch.Files
