import BooleanSearch.Toml.Scalar
import BooleanSearch.Toml.Table

/-!
# Reading configuration documents

Statements are read one by one: a header opens a table or adds one to a list of tables, and a pair
gives a name in the open table its value.  Values may be nested to any depth: the limit of a
program's call stack is not modelled.
-/

namespace BooleanSearch.Toml

/-! ## Keys -/

def readKeyPart (source : Text) : Scan String := do
  match ← peek source with
  | none => failHere .invalidKeyPart
  | some char =>
    if isBareKey char then
      let start ← get
      skip source isBareKey
      pure (source.slice start (← get)).toString
    else if char == '\'' then readLiteralLine source
    else if char == '"' then readBasicLine source
    else failHere .invalidKeyPart

/-- Reads names that are separated by points, at most `fuel` of them. -/
def readKeyWithin (source : Text) : Nat → Scan Key
  | 0 => failHere .invalidKeyPart
  | fuel + 1 => do
    let name ← readKeyPart source
    skip source isSpace
    if (← peek source) == some '.' then
      advance 1
      skip source isSpace
      let rest ← readKeyWithin source fuel
      pure (name :: rest)
    else pure [name]

def readKey (source : Text) : Scan Key :=
  readKeyWithin source (source.size + 1)

def readPairKey (source : Text) : Scan Key := do
  let key ← readKey source
  if (← peek source) != some '=' then failHere .expectedEquals
  else
    advance 1
    skip source isSpace
    pure key

/-! ## Values -/

/-- Whether a value is composed, so that its key is frozen. -/
def isComposed : Value → Bool
  | .list _ => true
  | .dict _ => true
  | _ => false

structure Inline where
  entries : Entries := []
  marks : Marks := {}

/-- Adds a pair to an inline table. -/
def Inline.add (inline : Inline) (key : Key) (value : Value) : Except Cause Inline :=
  match key.getLast? with
  | none => .error .overwritten
  | some name =>
    if inline.marks.isFrozen key then .error (.immutable key)
    else
      match changeTable some key.dropLast inline.entries with
      | none => .error .overwritten
      | some _ =>
        let change (entries : Entries) : Option Entries :=
          if (entries.lookup name).isSome then none else some (setNode name (.value value) entries)
        match changeTable change key.dropLast inline.entries with
        | none => .error (.duplicateKey name)
        | some entries =>
          .ok ⟨entries, if isComposed value then inline.marks.freeze key else inline.marks⟩

/-- Fails with a cause at the present offset, or goes on. -/
def orFail {α : Type} (outcome : Except Cause α) : Scan α :=
  match outcome with
  | .ok value => pure value
  | .error cause => failHere cause

mutual

/-- Reads a value; `fuel` bounds the nesting and the number of items. -/
def readValue (source : Text) : Nat → Scan Value
  | 0 => failHere .invalidValue
  | fuel + 1 => do
    match ← peek source with
    | none => failHere .invalidValue
    | some '"' =>
      if ← at? source "\"\"\"" then return .text (← readBasicLines source)
      else return .text (← readBasicLine source)
    | some '\'' =>
      if ← at? source "'''" then return .text (← readLiteralLines source)
      else return .text (← readLiteralLine source)
    | some '[' =>
      advance 1
      skipGap source
      if (← peek source) == some ']' then
        advance 1
        return .list []
      else return .list (← readItems source fuel)
    | some char =>
      if char == Char.ofNat 123 then
        advance 1
        skip source isSpace
        if (← peek source) == some (Char.ofNat 125) then
          advance 1
          return .dict []
        else return .dict (entryValues (← readPairs source fuel {}))
      else if ← at? source "true" then
        advance 4
        return .bool true
      else if ← at? source "false" then
        advance 5
        return .bool false
      else readScalar source

/-- Reads the items of an array up to its end. -/
def readItems (source : Text) : Nat → Scan (List Value)
  | 0 => failHere .unclosedArray
  | fuel + 1 => do
    let first ← readValue source fuel
    skipGap source
    match ← peek source with
    | some ']' =>
      advance 1
      return [first]
    | some ',' =>
      advance 1
      skipGap source
      if (← peek source) == some ']' then
        advance 1
        return [first]
      else
        let rest ← readItems source fuel
        return first :: rest
    | _ => failHere .unclosedArray

/-- Reads the pairs of an inline table up to its end. -/
def readPairs (source : Text) : Nat → Inline → Scan Entries
  | 0, _ => failHere .unclosedInlineTable
  | fuel + 1, inline => do
    let key ← readPairKey source
    let value ← readValue source fuel
    let next ← orFail (inline.add key value)
    skip source isSpace
    match ← peek source with
    | some ',' =>
      advance 1
      skip source isSpace
      readPairs source fuel next
    | some char =>
      if char == Char.ofNat 125 then
        advance 1
        return next.entries
      else failHere .unclosedInlineTable
    | none => failHere .unclosedInlineTable

end

/-! ## Statements -/

/-- A document so far: its tables, the marks of its keys, and the key of the open table. -/
structure Document where
  entries : Entries := []
  marks : Marks := {}
  header : Key := []

def Document.openTable (document : Document) (key : Key) : Except Cause Document :=
  let marks := document.marks
  if marks.isDeclared key || marks.isFrozen key then .error (.declaredTwice key)
  else
    match changeTable some key document.entries with
    | none => .error .overwritten
    | some entries => .ok ⟨entries, marks.declare key, key⟩

/-- Adds a table to a list and opens it. -/
def Document.openItem (document : Document) (key : Key) : Except Cause Document :=
  let marks := document.marks
  if marks.isFrozen key then .error (.immutable key)
  else
    match appendTable key document.entries with
    | none => .error .overwritten
    | some entries => .ok ⟨entries, (marks.release key).declare key, key⟩

/-- The keys on the way from the open table to that of a key, the outermost first. -/
def innerKeys (header key : Key) : List Key :=
  (List.range (key.length - 1)).map fun index => header ++ key.take (index + 1)

/-- Gives a key of the open table its value. -/
def Document.assign (document : Document) (key : Key) (value : Value) : Except Cause Document :=
  match key.getLast? with
  | none => .error .overwritten
  | some name =>
    let parent := document.header ++ key.dropLast
    let inner := innerKeys document.header key
    match inner.find? document.marks.isDeclared with
    | some declared => .error (.redefined declared)
    | none =>
      if document.marks.isFrozen parent then .error (.immutable parent)
      else
        let change (entries : Entries) : Option Entries :=
          if (entries.lookup name).isSome then none else some (setNode name (.value value) entries)
        match changeTable change parent document.entries with
        | none => .error .overwritten
        | some entries =>
          let marks := document.marks.postpone inner
          .ok { document with
            entries := entries
            marks := if isComposed value then marks.freeze (document.header ++ key) else marks }

def readHeader (source : Text) (document : Document) : Scan Document := do
  let settled : Document := { document with marks := document.marks.settle }
  if ← at? source "[[" then
    advance 2
    skip source isSpace
    let next ← orFail (settled.openItem (← readKey source))
    if ← at? source "]]" then
      advance 2
      pure next
    else failHere .unclosedTables
  else
    advance 1
    skip source isSpace
    let next ← orFail (settled.openTable (← readKey source))
    if ← at? source "]" then
      advance 1
      pure next
    else failHere .unclosedTable

def readPair (source : Text) (document : Document) : Scan Document := do
  let key ← readPairKey source
  let value ← readValue source (2 * source.size + 2)
  orFail (document.assign key value)

/-- Reads the statement at the present offset, which is not at a line end. -/
def readStatement (source : Text) (document : Document) (char : Char) : Scan Document := do
  if isBareKey char || char == '"' || char == '\'' then
    let next ← readPair source document
    skip source isSpace
    pure next
  else if char == '[' then
    let next ← readHeader source document
    skip source isSpace
    pure next
  else if char == '#' then pure document
  else failHere .invalidStatement

def readLines (source : Text) : Nat → Document → Scan Document
  | 0, document => pure document
  | fuel + 1, document => do
    skip source isSpace
    match ← peek source with
    | none => pure document
    | some '\n' =>
      advance 1
      readLines source fuel document
    | some char =>
      let next ← readStatement source document char
      skipComment source
      match ← peek source with
      | none => pure next
      | some '\n' =>
        advance 1
        readLines source fuel next
      | some _ => failHere .expectedLineEnd

/-- The lines of a document end with a line feed, whether or not a carriage return stands before
it. -/
def unifyLineEnds : List Char → List Char
  | '\r' :: '\n' :: rest => '\n' :: unifyLineEnds rest
  | char :: rest => char :: unifyLineEnds rest
  | [] => []

def read (text : String) : Except Rejection Value :=
  let source : Text := (unifyLineEnds text.toList).toArray
  match (readLines source (source.size + 1) {}).run 0 with
  | .ok (document, _) => .ok (.dict (entryValues document.entries))
  | .error error => .error (error.rejection source)

end BooleanSearch.Toml
