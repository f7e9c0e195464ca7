import BooleanSearch.Text.Basic

/-!
# Arguments

The arguments of a command are options and other arguments.  Two dashes and a name, or one dash and
letters, are options; an option with a value takes it from behind an equals sign, from the rest of
its letters, or from the next argument, whatever that looks like.  Behind two dashes alone, no
argument is an option.
-/

namespace BooleanSearch.CommandLine

/-- What the name of an option stands for: a mark, or a mark that holds the value of the option. -/
inductive Meaning (α : Type)
  | switch (mark : α)
  | valued (mark : String → α)

/-- The names of options, with their dashes, and what they stand for. -/
abbrev Vocabulary (α : Type) : Type := List (String × Meaning α)

/-- Why arguments are refused. -/
inductive UsageFault
  | unknownOption (name : String)
  | missingValue (name : String)
  | needlessValue (name : String)
  | missingArgument (name : String)
  | needlessArguments (arguments : List String)
  | badValue (name value : String)
  | missingCommand
  | unknownCommand (name : String)
  deriving Repr, DecidableEq

/-- The wording of a fault. -/
def UsageFault.message : UsageFault → String
  | .unknownOption name => "No such option: " ++ name
  | .missingValue name => "Option '" ++ name ++ "' requires an argument."
  | .needlessValue name => "Option '" ++ name ++ "' does not take a value."
  | .missingArgument name => "Missing argument '" ++ name ++ "'."
  | .needlessArguments arguments => "Got unexpected extra arguments: " ++ joinWith " " arguments
  | .badValue name value => "Invalid value for '" ++ name ++ "': " ++ value
  | .missingCommand => "Missing command."
  | .unknownCommand name => "No such command '" ++ name ++ "'."

/-- The marks of the options, and the other arguments, each in their order. -/
structure Arguments (α : Type) where
  marks : List α := []
  others : List String := []

/-- What an argument yields: its marks, and whether it takes the next argument with it. -/
structure Taken (α : Type) where
  marks : List α := []
  takesNext : Bool := false

/-- The value of an option that stands in the next argument. -/
def takeNext {α : Type} (name : String) (mark : String → α) :
    Option String → Except UsageFault (Taken α)
  | some value => .ok ⟨[mark value], true⟩
  | none => .error (.missingValue name)

/-- Reads an option whose name starts with two dashes. -/
def takeLong {α : Type} (vocabulary : Vocabulary α) (name : String) (value : Option String)
    (next : Option String) : Except UsageFault (Taken α) :=
  match vocabulary.lookup name, value with
  | none, _ => .error (.unknownOption name)
  | some (.switch mark), none => .ok ⟨[mark], false⟩
  | some (.switch _), some _ => .error (.needlessValue name)
  | some (.valued mark), some value => .ok ⟨[mark value], false⟩
  | some (.valued mark), none => takeNext name mark next

/-- Reads letters behind one dash.  The first of them that wants a value takes the rest. -/
def takeLetters {α : Type} (vocabulary : Vocabulary α) (next : Option String) :
    List Char → Except UsageFault (Taken α)
  | [] => .ok {}
  | letter :: rest =>
    let name := String.ofList ['-', letter]
    match vocabulary.lookup name with
    | none => .error (.unknownOption name)
    | some (.switch mark) => do
      let others ← takeLetters vocabulary next rest
      return { others with marks := mark :: others.marks }
    | some (.valued mark) =>
      if rest.isEmpty then takeNext name mark next
      else .ok ⟨[mark (String.ofList rest)], false⟩

/-- A name, and what stands behind its first equals sign. -/
def splitName (chars : List Char) : String × Option String :=
  let name := chars.takeWhile (· != '=')
  match chars.drop name.length with
  | [] => (String.ofList name, none)
  | _ :: value => (String.ofList name, some (String.ofList value))

/-- Reads an argument that is an option; `none` tells that it is not one. -/
def take? {α : Type} (vocabulary : Vocabulary α) (argument : String) (next : Option String) :
    Option (Except UsageFault (Taken α)) :=
  match argument.toList with
  | '-' :: '-' :: rest =>
    let (name, value) := splitName ('-' :: '-' :: rest)
    some (takeLong vocabulary name value next)
  | '-' :: letter :: rest => some (takeLetters vocabulary next (letter :: rest))
  | _ => none

/-- Reads the arguments of a command.  If options may not be mixed with other arguments, the first
other argument ends them. -/
def readArguments {α : Type} (vocabulary : Vocabulary α) (mixed : Bool) :
    List String → Except UsageFault (Arguments α)
  | [] => .ok {}
  | argument :: rest =>
    if argument == "--" then .ok ⟨[], rest⟩
    else
      match take? vocabulary argument rest.head? with
      | none =>
        if mixed then do
          let more ← readArguments vocabulary mixed rest
          return { more with others := argument :: more.others }
        else .ok ⟨[], argument :: rest⟩
      | some (.error fault) => .error fault
      | some (.ok taken) => do
        let more ← readArguments vocabulary mixed (if taken.takesNext then rest.drop 1 else rest)
        return { more with marks := taken.marks ++ more.marks }
termination_by arguments => arguments.length
decreasing_by
  · simp
  · split
    · simp only [List.length_drop, List.length_cons]
      omega
    · simp

/-- What the last mark of a kind holds. -/
def lastOf? {α β : Type} (kind : α → Option β) (marks : List α) : Option β :=
  (marks.filterMap kind).getLast?

end BooleanSearch.CommandLine
