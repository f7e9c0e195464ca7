import BooleanSearch.Display.Line
import BooleanSearch.Text.Lettercase

/-!
# Markup

Texts whose styles stand in them as tags: `[bold red]` opens a style, `[/bold red]` closes it and
`[/]` closes the last one.  A backslash before a tag makes it text.  Tags that name no style show
nothing and change nothing.
-/

namespace BooleanSearch.Display.Markup

/-- A part of a marked-up text: plain text, or the inside of a tag with its position. -/
inductive Part
  | plain (chars : List Char)
  | tag (position : Nat) (inside : List Char)
  deriving Repr, DecidableEq

def startsTag (char : Char) : Bool :=
  ('a' ≤ char && char ≤ 'z') || char == '#' || char == '/' || char == '@'

/-- The inside of the tag that a text after an opening bracket starts with, and its length. -/
def tagInside? (chars : List Char) : Option (List Char) :=
  match chars with
  | [] => none
  | first :: rest =>
    let more := rest.takeWhile fun char => char != ']' && char != '['
    match startsTag first, rest.drop more.length with
    | true, ']' :: _ => some (first :: more)
    | _, _ => none

/-- The tag that a text starts with, behind some backslashes: their number, and its inside. -/
def tagAt? (chars : List Char) : Option (Nat × List Char) :=
  let slashes := (chars.takeWhile (· == '\\')).length
  match chars.drop slashes with
  | '[' :: rest => (tagInside? rest).map fun inside => (slashes, inside)
  | _ => none

/-- A plain text with its escaped brackets. -/
def unescape : List Char → List Char
  | [] => []
  | '\\' :: '[' :: rest => '[' :: unescape rest
  | char :: rest => char :: unescape rest

def plainPart (chars : List Char) : List Part :=
  if chars.isEmpty then [] else [.plain (unescape chars)]

/-- The parts of a text; `gathered` holds the plain text before it in reverse, and `skip` the number
of characters that belong to a tag already read. -/
def parts (position skip : Nat) (gathered : List Char) : List Char → List Part
  | [] => plainPart gathered.reverse
  | char :: rest =>
    if skip != 0 then parts (position + 1) (skip - 1) gathered rest
    else
      match tagAt? (char :: rest) with
      | none => parts (position + 1) 0 (char :: gathered) rest
      | some (slashes, inside) =>
        let length := slashes + inside.length + 2
        let literal := plainPart (List.replicate (slashes / 2) '\\')
        let own : Part :=
          if slashes % 2 == 1 then .plain ('[' :: inside ++ [']'])
          else .tag (position + slashes / 2 * 2) inside
        plainPart gathered.reverse ++ literal ++ [own]
          ++ parts (position + 1) (length - 1) [] rest

/-- The name of a tag, and what follows an equals sign, if there is one. -/
def nameAndRest (inside : List Char) : List Char × Option (List Char) :=
  let name := inside.takeWhile (· != '=')
  match inside.drop name.length with
  | [] => (name, none)
  | _ :: rest => (name, some rest)

/-- What closing tags refer to: a style, or a name that is none. -/
inductive Key
  | style (style : Style)
  | name (text : String)
  deriving Repr, DecidableEq

/-- The style of a description, its attributes in a fixed order. -/
def styleOf? (text : String) : Option Style :=
  let words := (Text.splitBlanks text.toList).map fun word => Text.lower (String.ofList word)
  let found := if words == ["none"] then some {} else Style.readWords? {} false false words
  found.map fun style =>
    { style with attributes := Attribute.all.filterMap fun trait =>
        (style.attributes.lookup trait).map fun state => (trait, state) }

/-- The key of a tag's name. -/
def keyOf (name : String) : Key :=
  match styleOf? name with
  | some style => .style style
  | none => .name (Text.lower (Text.strip name))

/-- An open tag: its key, and the style that it gives. -/
structure OpenTag where
  key : Key
  style : Style

/-- A closing tag that closes nothing. -/
inductive Fault
  | unopened (tag : String) (position : Nat)
  | nothingOpen (position : Nat)
  deriving Repr, DecidableEq

/-- The wording of a fault. -/
def Fault.message : Fault → String
  | .unopened tag position =>
    "closing tag '" ++ tag ++ "' at position " ++ toString position
      ++ " doesn't match any open tag"
  | .nothingOpen position =>
    "closing tag '[/]' at position " ++ toString position ++ " has nothing to close"

/-- The open tags, the last one first, without the last one of a key. -/
def close? (key : Key) : List OpenTag → Option (List OpenTag)
  | [] => none
  | tag :: rest => if tag.key == key then some rest else (close? key rest).map (tag :: ·)

def styleOf (tags : List OpenTag) : Style :=
  tags.foldr (fun tag under => under.topped tag.style) {}

/-- The open tags after a tag. -/
def follow (tags : List OpenTag) (position : Nat) (inside : List Char) :
    Except Fault (List OpenTag) :=
  let (name, rest) := nameAndRest inside
  match name with
  | '/' :: closed =>
    let wanted := Text.strip (String.ofList closed)
    if wanted.isEmpty then
      match tags with
      | [] => .error (.nothingOpen position)
      | _ :: others => .ok others
    else
      match close? (keyOf wanted) tags with
      | some others => .ok others
      | none => .error (.unopened ("[" ++ String.ofList inside ++ "]") position)
  | _ =>
    let key := keyOf (String.ofList name)
    let style :=
      match key, rest with
      | .style style, none => style
      | _, _ => {}
    .ok (⟨key, style⟩ :: tags)

/-- A part before others; plain texts that no tag separates are one. -/
def joinPlain : Part → List Part → List Part
  | .plain chars, .plain more :: rest => .plain (chars ++ more) :: rest
  | part, rest => part :: rest

/-- The styled text of parts under the open tags.  An empty piece stands for each tag, so that what
is before it and what is behind it are drawn separately. -/
def styled (tags : List OpenTag) : List Part → Except Fault Line
  | [] => .ok (if tags.isEmpty then [] else [⟨[], styleOf tags⟩])
  | .plain chars :: rest => do
    return Piece.ofString (String.ofList chars) (styleOf tags) :: (← styled tags rest)
  | .tag position inside :: rest => do
    let others ← follow tags position inside
    return ⟨[], styleOf tags⟩ :: (← styled others rest)

/-- The styled text of a marked-up text. -/
def read (text : String) : Except Fault Line :=
  styled [] ((parts 0 0 [] text.toList).foldr joinPlain [])

/-- A marked-up text as it stands for, or as it is if its tags are at fault. -/
def readOr (text : String) : Line :=
  match read text with
  | .ok line => line
  | .error _ => [Piece.ofString text]

end BooleanSearch.Display.Markup
