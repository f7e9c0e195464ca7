import BooleanSearch.Value

/-!
# Errors

What can go wrong in a search, as causes with their wording, and the exit code and general
description of each category of causes.
-/

namespace BooleanSearch

/-- The categories of errors, each with an exit code and a general description. -/
inductive ErrorCategory
  | search
  | query
  | queryParse
  | invalidPattern
  | nearArguments
  | content
  | contentTooLarge
  | fileRead
  | cache
  | config
  | configValidation
  deriving Repr, DecidableEq

namespace ErrorCategory

/-- All categories. -/
def all : List ErrorCategory :=
  [.search, .query, .queryParse, .invalidPattern, .nearArguments, .content, .contentTooLarge,
    .fileRead, .cache, .config, .configValidation]

/-- The exit code of a program that ends with an error of this category. -/
def exitCode : ErrorCategory → Nat
  | .search => 1
  | .query => 2
  | .queryParse => 3
  | .invalidPattern => 4
  | .nearArguments => 5
  | .content => 10
  | .contentTooLarge => 11
  | .fileRead => 12
  | .cache => 20
  | .config => 30
  | .configValidation => 31

/-- What a user is told when nothing more precise is known. -/
def description : ErrorCategory → String
  | .search => "An error occurred"
  | .query => "Invalid query"
  | .queryParse => "Could not parse query"
  | .invalidPattern => "Invalid regular expression pattern"
  | .nearArguments => "Invalid NEAR arguments"
  | .content => "Content error"
  | .contentTooLarge => "Content is too large"
  | .fileRead => "Cannot read file"
  | .cache => "Cache error"
  | .config => "Configuration error"
  | .configValidation => "Invalid configuration"

/-- The category that a category is part of. -/
def parent? : ErrorCategory → Option ErrorCategory
  | .search => none
  | .query => some .search
  | .queryParse => some .query
  | .invalidPattern => some .query
  | .nearArguments => some .query
  | .content => some .search
  | .contentTooLarge => some .content
  | .fileRead => some .content
  | .cache => some .search
  | .config => some .search
  | .configValidation => some .config

/-- A category and all that it is part of, from the narrowest to the widest. -/
def lineage (category : ErrorCategory) : List ErrorCategory :=
  match category.parent? with
  | none => [category]
  | some middle =>
    match middle.parent? with
    | none => [category, middle]
    | some top => [category, middle, top]

end ErrorCategory

/-- Why a search failed. -/
inductive ErrorCause
  | plain (category : ErrorCategory) (text : Option String)
  | parse (text : Option String) (position : Option Int)
  | pattern (pattern : String) (reason : Option String)
  | tooLarge (size limit : Int) (path : Option String)
  | unreadable (path : String) (reason : Option String)
  deriving Repr, DecidableEq

/-- An error with its cause and, if the caller gave one, a description for users. -/
structure SearchError where
  cause : ErrorCause
  friendly : Option String := none
  deriving Repr, DecidableEq

/-- A text that is present and not empty. -/
def filled? (text : Option String) : Option String :=
  text.filter fun value => !value.isEmpty

namespace SearchError

def category (error : SearchError) : ErrorCategory :=
  match error.cause with
  | .plain category _ => category
  | .parse _ _ => .queryParse
  | .pattern _ _ => .invalidPattern
  | .tooLarge _ _ _ => .contentTooLarge
  | .unreadable _ _ => .fileRead

/-- A reason in parentheses after a text, if there is one. -/
def withReason (text : String) (reason : Option String) : String :=
  match filled? reason with
  | none => text
  | some reason => text ++ " (" ++ reason ++ ")"

def description (error : SearchError) : String :=
  (filled? error.friendly).getD error.category.description

/-- The wording of an error; without one, it is the general description of its category. -/
def message (error : SearchError) : String :=
  match error.cause with
  | .plain category text => (filled? text).getD category.description
  | .parse text _ => (filled? text).getD error.category.description
  | .pattern pattern reason =>
    withReason ("Invalid regular expression pattern: " ++ pattern) reason
  | .tooLarge size limit path =>
    let subject :=
      match filled? path with
      | none => "Content"
      | some path => "File " ++ path
    subject ++ " is too large: " ++ toString size ++ " bytes (max: " ++ toString limit ++ " bytes)"
  | .unreadable path reason => withReason ("Cannot read file: " ++ path) reason

/-- What an error tells beside its wording. -/
def details (error : SearchError) : List (String × Value) :=
  let textOr (text : Option String) : Value := (text.map Value.text).getD .null
  match error.cause with
  | .plain _ _ => []
  | .parse _ position => [("position", (position.map Value.int).getD .null)]
  | .pattern pattern reason => [("pattern", .text pattern), ("reason", textOr reason)]
  | .tooLarge size limit path =>
    [("size", .int size), ("limit", .int limit), ("path", textOr path)]
  | .unreadable path reason => [("path", .text path), ("reason", textOr reason)]

def exitCode (error : SearchError) : Nat :=
  error.category.exitCode

/-- An error of a category with its wording. -/
def ofText (category : ErrorCategory) (text : String) : SearchError :=
  ⟨.plain category (some text), none⟩

end SearchError

/-- Why a file system does not do what it could do: it is not permitted, or a device fails. -/
inductive Refusal
  | denied
  | broken
  deriving Repr, DecidableEq

/-- Why a file system refuses an operation. -/
inductive FileFault
  | missing
  | exists
  | notFolder
  | isFolder
  | nameTooLong
  | refused (refusal : Refusal)
  deriving Repr, DecidableEq

namespace FileFault

def number : FileFault → Nat
  | .missing => 2
  | .exists => 17
  | .notFolder => 20
  | .isFolder => 21
  | .nameTooLong => 36
  | .refused .denied => 13
  | .refused .broken => 5

def reason : FileFault → String
  | .missing => "No such file or directory"
  | .exists => "File exists"
  | .notFolder => "Not a directory"
  | .isFolder => "Is a directory"
  | .nameTooLong => "File name too long"
  | .refused .denied => "Permission denied"
  | .refused .broken => "Input/output error"

/-- The wording of a fault at a path. -/
def message (fault : FileFault) (path : String) : String :=
  "[Errno " ++ toString fault.number ++ "] " ++ fault.reason ++ ": " ++ Text.quoted path

end FileFault

/-- Everything that can stop an operation: an error of the search, a refusal of the file system, or
an argument that the operation does not admit. -/
inductive Failure
  | error (error : SearchError)
  | file (fault : FileFault) (path : String)
  | overflow (text : String)
  | badValue (text : String)
  | badKind (text : String)
  | missingKey (text : String)
  | undecodable (text : String)
  | sampler (text : String)
  | markup (text : String)
  deriving Repr, DecidableEq

/-- The wording of a failure. -/
def Failure.message : Failure → String
  | .error fault => fault.message
  | .file fault path => fault.message path
  | .overflow text => text
  | .badValue text => text
  | .badKind text => text
  | .missingKey text => text
  | .undecodable text => text
  | .sampler text => text
  | .markup text => text

end BooleanSearch
