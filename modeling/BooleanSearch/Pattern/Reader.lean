import BooleanSearch.Pattern.Fault
import BooleanSearch.Pattern.Tree
import BooleanSearch.Text.CharacterName
import BooleanSearch.Text.Identifier
import BooleanSearch.Text.Letter
import BooleanSearch.Text.Lettercase

/-!
# Reading patterns

A pattern is cut into items, each a character or a backslash with the character after it, and read
by recursive descent.  The reader looks one item ahead, so a backslash at the very end is found as
soon as the item before it has been taken.  Every position in a fault counts characters.  Groups may
be nested to any depth: the limit of a program's call stack is not modelled.
-/

namespace BooleanSearch.Pattern

/-- An item of a pattern's text. -/
inductive Item
  | plain (char : Char)
  | escaped (char : Char)
  | dangling
  deriving Repr, DecidableEq

namespace Item

def chars : Item → List Char
  | .plain char => [char]
  | .escaped char => ['\\', char]
  | .dangling => ['\\']

def ofChars : List Char → List Item
  | [] => []
  | '\\' :: char :: rest => .escaped char :: ofChars rest
  | ['\\'] => [.dangling]
  | char :: rest => .plain char :: ofChars rest

def text (item : Item) : String :=
  String.ofList item.chars

/-- The number of characters of an item. -/
def length (item : Item) : Nat :=
  item.chars.length

end Item

/-- What the reader knows: the items ahead and their offset, the switches set so far, the names
and widths of groups, the number of groups when the outermost lookbehind began, and the groups
that conditions asked for, with positions. -/
structure Reading where
  rest : List Item
  offset : Nat
  flags : Flags
  names : List (String × Nat)
  widths : Array (Option (Nat × Nat))
  lookbehind : Option Nat
  asked : List (Nat × Nat)

abbrev Reader (α : Type) : Type :=
  Reading → Except Fault (α × Reading)

namespace Reader

instance : Monad Reader where
  pure value := fun reading => .ok (value, reading)
  bind step next := fun reading =>
    match step reading with
    | .ok (value, reading) => next value reading
    | .error fault => .error fault

/-- The present state. -/
def get : Reader Reading := fun reading => .ok (reading, reading)

/-- Changes the state. -/
def modify (change : Reading → Reading) : Reader Unit := fun reading => .ok ((), change reading)

/-- Gives up with a fault. -/
def fail {α : Type} (fault : Fault) : Reader α := fun _ => .error fault

/-- Gives up at a distance before the present offset. -/
def failBack {α : Type} (cause : Cause) (distance : Nat) : Reader α := fun reading =>
  .error (.invalid cause (some (reading.offset - distance)))

/-- The next item, which is not taken. -/
def peek : Reader (Option Item) := fun reading => .ok (reading.rest.head?, reading)

def take : Reader (Option Item) := fun reading =>
  match reading.rest with
  | [] => .ok (none, reading)
  | item :: rest =>
    let reading := { reading with rest := rest, offset := reading.offset + item.length }
    match rest with
    | .dangling :: _ => .error (.invalid .escapeAtEnd (some reading.offset))
    | _ => .ok (some item, reading)

/-- Takes the next item if it is the given character. -/
def accept (char : Char) : Reader Bool := do
  if (← peek) == some (.plain char) then
    let _ ← take
    pure true
  else pure false

/-- Takes up to `count` characters as long as they satisfy a test. -/
def takeWhile (test : Char → Bool) : Nat → Reader (List Char)
  | 0 => pure []
  | count + 1 => do
    match ← peek with
    | some (.plain char) =>
      if test char then
        let _ ← take
        return char :: (← takeWhile test count)
      else pure []
    | _ => pure []

def ahead : Reader Nat := fun reading => .ok (reading.rest.length, reading)

/-- Takes all characters up to a terminator, which is taken too. -/
def takeNameFrom (terminator : Char) (what : String) (taken : List Char) : Nat → Reader (List Char)
  | 0 => failBack .unexpectedEnd 0
  | fuel + 1 => do
    match ← take with
    | none =>
      if taken.isEmpty then failBack (.missingName what) 0
      else failBack (.unterminatedName terminator) taken.length
    | some item =>
      if item == .plain terminator then
        if taken.isEmpty then failBack (.missingName what) 1 else pure taken
      else takeNameFrom terminator what (taken ++ item.chars) fuel

def takeName (terminator : Char) (what : String) : Reader (List Char) := do
  takeNameFrom terminator what [] ((← ahead) + 1)

end Reader

open Reader

def hexValue? (char : Char) : Option Nat :=
  let code := char.toNat
  if 48 ≤ code && code ≤ 57 then some (code - 48)
  else if 97 ≤ code && code ≤ 102 then some (code - 87)
  else if 65 ≤ code && code ≤ 70 then some (code - 55)
  else none

/-- The number with the given digits in a base; characters that are no digits count as zero. -/
def digitsIn (base : Nat) (chars : List Char) : Nat :=
  chars.foldl (fun number char => base * number + (hexValue? char).getD 0) 0

def isAsciiDigit (char : Char) : Bool :=
  48 ≤ char.toNat && char.toNat ≤ 57

def isOctalDigit (char : Char) : Bool :=
  48 ≤ char.toNat && char.toNat ≤ 55

/-- The code point of a one-letter escape for a control character or the backslash. -/
def controlEscape? : Char → Option Nat
  | 'a' => some 7
  | 'b' => some 8
  | 'f' => some 12
  | 'n' => some 10
  | 'r' => some 13
  | 't' => some 9
  | 'v' => some 11
  | '\\' => some 92
  | _ => none

def classEscape? : Char → Option (ClassKind × Bool)
  | 'd' => some (.digit, false)
  | 'D' => some (.digit, true)
  | 's' => some (.space, false)
  | 'S' => some (.space, true)
  | 'w' => some (.word, false)
  | 'W' => some (.word, true)
  | _ => none

def anchorEscape? : Char → Option Anchor
  | 'A' => some .textStart
  | 'b' => some .boundary
  | 'B' => some .insideWord
  | 'Z' => some .textEnd
  | _ => none

/-- Reads an escape of exactly `count` hexadecimal digits. -/
def readHexEscape (letter : Char) (count : Nat) : Reader Nat := do
  let digits ← takeWhile (fun char => (hexValue? char).isSome) count
  let escape := String.ofList ('\\' :: letter :: digits)
  if digits.length != count then failBack (.incompleteEscape escape) (digits.length + 2)
  else
    let code := digitsIn 16 digits
    if 0x10FFFF < code then failBack (.badEscape escape) (count + 2) else pure code

/-- Reads the code point of a character that is named in braces after its escape. -/
def readNamedEscape : Reader Nat := do
  if !(← accept (Char.ofNat 123)) then failBack .missingBrace 0
  else
    let name ← takeName (Char.ofNat 125) "character name"
    match Text.namedCode? name with
    | some code => pure code
    | none => failBack (.undefinedCharacter (String.ofList name)) (name.length + 4)

/-- Reads an octal escape inside a set, whose first digit has been taken. -/
def readSetOctal (first : Char) : Reader Nat := do
  let more ← takeWhile isOctalDigit 2
  let digits := first :: more
  let code := digitsIn 8 digits
  if 0o377 < code then
    failBack (.octalOutOfRange (String.ofList ('\\' :: digits))) (digits.length + 1)
  else pure code

/-- Reads the rest of an escape that is the same inside and outside of sets. -/
def readCommonEscape (char : Char) : Reader Nat := do
  if char == 'x' then readHexEscape char 2
  else if char == 'u' then readHexEscape char 4
  else if char == 'U' then readHexEscape char 8
  else if char == 'N' then readNamedEscape
  else if Text.isAsciiLetterCode char.toNat then failBack (.badEscape (String.ofList ['\\', char])) 2
  else pure char.toNat

def readSetEscape (char : Char) : Reader SetMember := do
  match controlEscape? char, classEscape? char with
  | some code, _ => pure (.code code)
  | none, some (kind, negated) => pure (.class kind negated)
  | none, none =>
    if isOctalDigit char then return .code (← readSetOctal char)
    else if isAsciiDigit char then failBack (.badEscape (String.ofList ['\\', char])) 2
    else return .code (← readCommonEscape char)

/-- Refuses a group that is not closed, or that began inside the present lookbehind. -/
def checkLookbehind (index : Nat) : Reader Unit := do
  let reading ← get
  match reading.lookbehind with
  | none => pure ()
  | some first =>
    if ((reading.widths[index]?).getD none).isNone then failBack .openGroup 0
    else if first ≤ index then failBack .sameLookbehind 0
    else pure ()

/-- Reads a backreference by number, or an octal escape of three digits. -/
def readNumberEscape (first : Char) : Reader Tree := do
  let second ← takeWhile isAsciiDigit 1
  let third ←
    match second with
    | [digit] =>
      if isOctalDigit first && isOctalDigit digit then takeWhile isOctalDigit 1 else pure []
    | _ => pure []
  let digits := first :: (second ++ third)
  if digits.length == 3 then
    let code := digitsIn 8 digits
    if 0o377 < code then
      failBack (.octalOutOfRange (String.ofList ('\\' :: digits))) 4
    else return .code code false
  else
    let index := digitsIn 10 digits
    let reading ← get
    if index < reading.widths.size then
      if ((reading.widths[index]?).getD none).isNone then failBack .openGroup (digits.length + 1)
      else
        checkLookbehind index
        return .backreference index
    else failBack (.invalidGroup index) digits.length

def readEscape (char : Char) : Reader Tree := do
  match classEscape? char, anchorEscape? char, controlEscape? char with
  | some (kind, negated), _, _ => return .set false [.class kind negated]
  | none, some anchor, _ => return .anchor anchor
  | none, none, some code => return .code code false
  | none, none, none =>
    if char == '0' then
      let more ← takeWhile isOctalDigit 2
      return .code (digitsIn 8 more) false
    else if isAsciiDigit char then readNumberEscape char
    else return .code (← readCommonEscape char) false

def readSetItem : Item → Reader SetMember
  | .plain char => pure (.code char.toNat)
  | .escaped char => readSetEscape char
  | .dangling => failBack .escapeAtEnd 0

/-- Reads the members of a set up to its closing bracket; `start` is the offset of the opening
one. -/
def readSetMembers (start : Nat) (members : List SetMember) : Nat → Reader (List SetMember)
  | 0 => failBack .unterminatedSet 0
  | fuel + 1 => do
    match ← take with
    | none => failBack .unterminatedSet ((← get).offset - start)
    | some item =>
      if item == .plain ']' && !members.isEmpty then pure members
      else
        let first ← readSetItem item
        if !(← accept '-') then readSetMembers start (members ++ [first]) fuel
        else
          match ← take with
          | none => failBack .unterminatedSet ((← get).offset - start)
          | some second =>
            if second == .plain ']' then pure (members ++ [first, .code 45])
            else
              let last ← readSetItem second
              let fault := Cause.badRange item.text second.text
              let distance := item.length + 1 + second.length
              match first, last with
              | .code low, .code high =>
                if high < low then failBack fault distance
                else readSetMembers start (members ++ [.range low high]) fuel
              | _, _ => failBack fault distance

/-- Reads a set whose opening bracket has been taken. -/
def readSet : Reader Tree := do
  let start := (← get).offset - 1
  let negated ← accept '^'
  let members ← readSetMembers start [] ((← ahead) + 1)
  match members.eraseDups with
  | [.code code] => pure (.code code negated)
  | unique => pure (.set negated unique)

/-- The least count of repetitions that is refused. -/
def repeatLimit : Nat :=
  4294967295

def readCount (digits : List Char) : Reader Nat := do
  if Text.digitLimit < digits.length then fail (.numberTooLong digits.length)
  else
    let count := digitsIn 10 digits
    if repeatLimit ≤ count then fail .repetitionTooLarge else pure count

/-- Reads the counts between braces; without a result the brace stands for itself and the state
is as before. -/
def readBraces : Reader (Option (Nat × Option Nat)) := fun before =>
  let counts : Reader (Option (Nat × Option Nat)) := do
    if (← peek) == some (.plain (Char.ofNat 125)) then pure none
    else
      let length ← ahead
      let low ← takeWhile isAsciiDigit length
      let comma ← accept ','
      let high ← if comma then takeWhile isAsciiDigit length else pure low
      if !(← accept (Char.ofNat 125)) then pure none
      else
        let least ← if low.isEmpty then pure 0 else readCount low
        if high.isEmpty then pure (some (least, none))
        else
          let most ← readCount high
          if most < least then
            failBack .emptyRepeatRange ((← get).offset - before.offset)
          else pure (some (least, some most))
  match counts before with
  | .ok (none, _) => .ok (none, before)
  | other => other

/-- The counts of a repetition sign that has been taken. -/
def readRepeat (char : Char) : Reader (Option (Nat × Option Nat)) :=
  if char == '?' then pure (some (0, some 1))
  else if char == '*' then pure (some (0, none))
  else if char == '+' then pure (some (1, none))
  else readBraces

/-- Reads what follows a repetition sign and says how counts are tried. -/
def readRepeatMode : Reader RepeatMode := do
  if ← accept '?' then pure .lazy
  else if ← accept '+' then pure .possessive
  else pure .greedy

/-- Puts a repetition in place of the last item read; `start` is the offset after the sign. -/
def repeatLast (start : Nat) (items : List Tree) (least : Nat) (most : Option Nat) :
    Reader (List Tree) := do
  let distance := (← get).offset - start + 1
  match items.reverse with
  | [] => failBack .nothingToRepeat distance
  | .anchor _ :: _ => failBack .nothingToRepeat distance
  | .repeated .. :: _ => failBack .multipleRepeat distance
  | last :: before =>
    let body := (last.plainBody?).getD last
    let mode ← readRepeatMode
    pure (before.reverse ++ [.repeated mode least most body])

/-- Skips a comment up to its closing parenthesis; `start` is the offset of the opening one. -/
def skipComment (start : Nat) : Nat → Reader Unit
  | 0 => pure ()
  | fuel + 1 => do
    if (← peek).isNone then failBack .unterminatedComment ((← get).offset - start)
    else
      if (← take) == some (.plain ')') then pure () else skipComment start fuel

def skipLine : Nat → Reader Unit
  | 0 => pure ()
  | fuel + 1 => do
    match ← take with
    | none => pure ()
    | some item => if item == .plain '\n' then pure () else skipLine fuel

/-- Takes a group name and checks that it is an identifier. -/
def readGroupName (terminator : Char) : Reader String := do
  let name ← takeName terminator "group name"
  if Text.isIdentifier name then pure (String.ofList name)
  else failBack (.badGroupName (String.ofList name)) (name.length + 1)

def readNamedReference : Reader Tree := do
  let name ← readGroupName ')'
  let reading ← get
  match reading.names.lookup name with
  | none => failBack (.unknownGroup name) (name.length + 1)
  | some index =>
    if ((reading.widths[index]?).getD none).isNone then failBack .openGroup (name.length + 1)
    else
      checkLookbehind index
      pure (.backreference index)

/-- The largest number of groups, less one. -/
def groupLimit : Nat :=
  1073741823

def readCondition : Reader Nat := do
  let chars ← takeName ')' "group name"
  let name := String.ofList chars
  let distance := chars.length + 1
  let index ←
    if Text.isIdentifier chars then
      match (← get).names.lookup name with
      | none => failBack (.unknownGroup name) distance
      | some index => pure index
    else
      match Text.readInt name with
      | .error _ => failBack (.badGroupName name) distance
      | .ok number =>
        if number < 0 then failBack (.badGroupName name) distance
        else if number == 0 then failBack .badGroupNumber distance
        else if groupLimit ≤ number.toNat then failBack (.invalidGroup number.toNat) distance
        else
          let position := (← get).offset - distance
          modify fun reading =>
            if (reading.asked.lookup number.toNat).isSome then reading
            else { reading with asked := reading.asked ++ [(number.toNat, position)] }
          pure number.toNat
  checkLookbehind index
  pure index

/-- The switches of a letter, where the locale letter is refused. -/
def inlineFlag? (item : Item) : Option Flags :=
  match item with
  | .plain 'L' => some Flags.none
  | .plain char => Flags.ofInlineLetter? char
  | _ => none

/-- The cause when an item is no flag: an unknown letter, or something else in place of what was
expected. -/
def flagCause (item : Item) (otherwise : Cause) : Cause :=
  match item with
  | .plain char => if Text.isLetter char then .unknownFlag else otherwise
  | _ => otherwise

/-- Reads switches to be added, the first of which has been taken, and gives the item after
them. -/
def readAdded (item : Item) (added : Flags) : Nat → Reader (Flags × Item)
  | 0 => failBack .missingFlagEnd 0
  | fuel + 1 => do
    if item == .plain 'L' then failBack .localeFlag 0
    else
      let flag := (inlineFlag? item).getD Flags.none
      let added := added.union flag
      let classes := flag.inter Flags.classFlags
      if !classes.isNone && added.inter Flags.classFlags != flag then
        failBack .conflictingClasses 0
      else
        match ← take with
        | none => failBack .missingFlagEnd 0
        | some next =>
          if next == .plain ')' || next == .plain '-' || next == .plain ':' then pure (added, next)
          else if (inlineFlag? next).isSome then readAdded next added fuel
          else failBack (flagCause next .missingFlagEnd) next.length

/-- Reads switches to be removed, the first of which has been taken, up to the colon. -/
def readRemoved (item : Item) (removed : Flags) : Nat → Reader Flags
  | 0 => failBack .missingColon 0
  | fuel + 1 => do
    let flag := (inlineFlag? item).getD Flags.none
    if item == .plain 'L' || !(flag.inter Flags.classFlags).isNone then
      failBack .turnedOffClasses 0
    else
      let removed := removed.union flag
      match ← take with
      | none => failBack .missingColon 0
      | some next =>
        if next == .plain ':' then pure removed
        else if (inlineFlag? next).isSome then readRemoved next removed fuel
        else failBack (flagCause next .missingColon) next.length

/-- The first item of the switches that a group removes. -/
def readFirstRemoved : Reader Item := do
  match ← take with
  | none => failBack .missingFlag 0
  | some item =>
    if (inlineFlag? item).isSome then pure item
    else failBack (flagCause item .missingFlag) item.length

/-- Reads the switches of a group, the first item of which has been taken: none if they hold for
the whole pattern, else those added and removed inside the group. -/
def readFlags (item : Item) : Reader (Option (Flags × Flags)) := do
  let length ← ahead
  let (added, next) ←
    if item == .plain '-' then pure (Flags.none, item) else readAdded item Flags.none (length + 1)
  if next == .plain ')' then
    modify fun reading => { reading with flags := reading.flags.union added }
    pure none
  else if added.template then failBack .turnedOnGlobal 1
  else
    let removed ←
      if next == .plain '-' then
        let first ← readFirstRemoved
        readRemoved first Flags.none (length + 1)
      else pure Flags.none
    if removed.template then failBack .turnedOffGlobal 1
    else if !(added.inter removed).isNone then failBack .turnedOnAndOff 1
    else pure (some (added, removed))

def openGroup (name : Option String) : Reader Nat := do
  let reading ← get
  let index := reading.widths.size
  modify fun reading => { reading with widths := reading.widths.push none }
  match name with
  | none => pure index
  | some name =>
    match reading.names.lookup name with
    | some earlier => failBack (.redefinedGroup name index earlier) (name.length + 1)
    | none =>
      modify fun reading => { reading with names := reading.names ++ [(name, index)] }
      pure index

def Reading.groupWidth (reading : Reading) (index : Nat) : Nat × Nat :=
  ((reading.widths[index]?).getD none).getD (0, 0)

def closeGroup (index : Nat) (body : Tree) : Reader Unit :=
  modify fun reading =>
    { reading with
      widths := reading.widths.setIfInBounds index (some (body.width reading.groupWidth)) }

/-- What the opening of a group says about it. -/
inductive Opening
  | capturing (name : Option String)
  | plain (added removed : Flags)
  | atomic
  | look (behind negative : Bool)
  | conditional (index : Nat)
  | reference (tree : Tree)
  | comment
  | wholePattern

/-- Reads what follows the opening parenthesis at offset `start`. -/
def readOpening (start : Nat) : Reader Opening := do
  if !(← accept '?') then pure (.capturing none)
  else
    match ← take with
    | none => failBack .unexpectedEnd 0
    | some item =>
      if item == .plain 'P' then
        if ← accept '<' then return .capturing (some (← readGroupName '>'))
        else if ← accept '=' then return .reference (← readNamedReference)
        else
          match ← take with
          | none => failBack .unexpectedEnd 0
          | some next => failBack (.unknownExtension ("?P" ++ next.text)) (next.length + 2)
      else if item == .plain ':' then pure (.plain Flags.none Flags.none)
      else if item == .plain '#' then
        skipComment start ((← ahead) + 1)
        pure .comment
      else if item == .plain '=' then pure (.look false false)
      else if item == .plain '!' then pure (.look false true)
      else if item == .plain '<' then
        match ← take with
        | none => failBack .unexpectedEnd 0
        | some next =>
          if next == .plain '=' then pure (.look true false)
          else if next == .plain '!' then pure (.look true true)
          else failBack (.unknownExtension ("?<" ++ next.text)) (next.length + 2)
      else if item == .plain '(' then return .conditional (← readCondition)
      else if item == .plain '>' then pure .atomic
      else if item == .plain '-' || (inlineFlag? item).isSome then
        match ← readFlags item with
        | none => pure .wholePattern
        | some (added, removed) => pure (.plain added removed)
      else failBack (.unknownExtension ("?" ++ item.text)) (item.length + 1)

/-- Requires the closing parenthesis of the group that began at `start`. -/
def closeAt (start : Nat) : Reader Unit := do
  if ← accept ')' then pure ()
  else failBack .unterminatedGroup ((← get).offset - start)

/-- Runs a step inside a lookbehind: groups that begin in it may not be referred to there. -/
def insideLookbehind (behind : Bool) (step : Reader Tree) : Reader Tree := do
  let before := (← get).lookbehind
  if behind && before.isNone then
    modify fun reading => { reading with lookbehind := some reading.widths.size }
  let tree ← step
  if behind && before.isNone then modify fun reading => { reading with lookbehind := none }
  pure tree

/-- The six blanks that the verbose switch skips. -/
def isSkippedBlank (char : Char) : Bool :=
  Text.isAsciiBlankCode char.toNat

mutual

/-- Reads branches separated by bars.  `outermost` is set for the whole pattern. -/
def readBranches (verbose outermost : Bool) (branches : List (List Tree)) :
    Nat → Reader Tree
  | 0 => failBack .unexpectedEnd 0
  | fuel + 1 => do
    let items ← readItems verbose (outermost && branches.isEmpty) [] fuel
    let branches := branches ++ [items]
    if ← accept '|' then
      let reading ← get
      let verbose := if outermost then reading.flags.verbose else verbose
      readBranches verbose outermost branches fuel
    else pure (Tree.ofBranches branches)

/-- Reads the items of a branch.  `first` is set for the first branch of the whole pattern. -/
def readItems (verbose first : Bool) (items : List Tree) : Nat → Reader (List Tree)
  | 0 => failBack .unexpectedEnd 0
  | fuel + 1 => do
    match ← peek with
    | none => pure (Tree.unpack items)
    | some item =>
      if item == .plain '|' || item == .plain ')' then pure (Tree.unpack items)
      else
        let _ ← take
        match item with
        | .dangling => failBack .escapeAtEnd 0
        | .escaped char => readItems verbose first (items ++ [← readEscape char]) fuel
        | .plain char =>
          if verbose && isSkippedBlank char then readItems verbose first items fuel
          else if verbose && char == '#' then
            skipLine ((← ahead) + 1)
            readItems verbose first items fuel
          else if char == '[' then readItems verbose first (items ++ [← readSet]) fuel
          else if char == '.' then readItems verbose first (items ++ [.any]) fuel
          else if char == '^' then readItems verbose first (items ++ [.anchor .lineStart]) fuel
          else if char == '$' then readItems verbose first (items ++ [.anchor .lineEnd]) fuel
          else if char == '*' || char == '+' || char == '?' || char == Char.ofNat 123 then
            let start := (← get).offset
            match ← readRepeat char with
            | none => readItems verbose first (items ++ [.code char.toNat false]) fuel
            | some (least, most) =>
              readItems verbose first (← repeatLast start items least most) fuel
          else if char == '(' then
            let start := (← get).offset - 1
            match ← readOpening start with
            | .comment => readItems verbose first items fuel
            | .reference tree => readItems verbose first (items ++ [tree]) fuel
            | .wholePattern =>
              if !first || !items.isEmpty then
                failBack .flagsNotAtStart ((← get).offset - start)
              else readItems (← get).flags.verbose first items fuel
            | opening =>
              readItems verbose first (items ++ [← readGroup verbose start opening fuel]) fuel
          else readItems verbose first (items ++ [.code char.toNat false]) fuel

/-- Reads the body of a group and its closing parenthesis. -/
def readGroup (verbose : Bool) (start : Nat) (opening : Opening) : Nat → Reader Tree
  | 0 => failBack .unexpectedEnd 0
  | fuel + 1 => do
    match opening with
    | .look behind negative =>
      let body ← insideLookbehind behind (readBranches verbose false [] fuel)
      closeAt start
      pure (.look behind negative body)
    | .conditional index =>
      let yes ← readItems verbose false [] fuel
      let no ←
        if ← accept '|' then
          let no ← readItems verbose false [] fuel
          if (← peek) == some (.plain '|') then failBack .thirdBranch 0 else pure no
        else pure []
      closeAt start
      pure (.conditional index (Tree.ofItems yes) (Tree.ofItems no))
    | .capturing name =>
      let index ← openGroup name
      let body ← readBranches verbose false [] fuel
      closeAt start
      closeGroup index body
      pure (.group (some index) Flags.none Flags.none body)
    | .atomic =>
      let body ← readBranches verbose false [] fuel
      closeAt start
      pure (.atomic body)
    | .plain added removed =>
      let inner := (verbose || added.verbose) && !removed.verbose
      let body ← readBranches inner false [] fuel
      closeAt start
      pure (.group none added removed body)
    | .reference tree => pure tree
    | .comment => pure .empty
    | .wholePattern => pure .empty

end

/-- A pattern as it was read: its tree, its switches, and its groups. -/
structure ReadPattern where
  tree : Tree
  flags : Flags
  groups : Nat
  names : List (String × Nat)
  groupWidth : Nat → Nat × Nat

/-- Refuses conditions on groups that do not exist. -/
def checkAsked (groups : Nat) : List (Nat × Nat) → Except Fault Unit
  | [] => .ok ()
  | (index, position) :: rest =>
    if groups ≤ index then .error (.invalid (.invalidGroup index) (some position))
    else checkAsked groups rest

def readPattern (source : String) (flags : Flags) : Except Fault ReadPattern := do
  let items := Item.ofChars source.toList
  if items.head? == some .dangling then throw (.invalid .escapeAtEnd (some 0))
  let start : Reading := ⟨items, 0, flags, [], #[none], none, []⟩
  let (tree, reading) ← readBranches flags.verbose true [] (4 * items.length + 8) start
  if reading.flags.ascii && reading.flags.unicode then throw .conflictingFlags
  if !reading.rest.isEmpty then throw (.invalid .unbalanced (some reading.offset))
  checkAsked reading.widths.size reading.asked
  let final :=
    if reading.flags.ascii then reading.flags else reading.flags.union { unicode := true }
  pure ⟨tree, final, reading.widths.size - 1, reading.names, reading.groupWidth⟩

end BooleanSearch.Pattern
