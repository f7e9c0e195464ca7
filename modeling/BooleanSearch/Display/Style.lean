import BooleanSearch.Text.Basic

/-!
# Styles

How text looks on a terminal: attributes that are switched on or off, and colors.  A style is drawn
by the codes that terminals of 256 colors understand.
-/

namespace BooleanSearch.Display

/-- What a style can switch on or off. -/
inductive Attribute
  | bold
  | dim
  | italic
  | underline
  | blink
  | fastBlink
  | reverse
  | conceal
  | strike
  | doubleUnderline
  | frame
  | encircle
  | overline
  deriving Repr, DecidableEq

namespace Attribute

/-- All attributes in the order of their codes. -/
def all : List Attribute :=
  [.bold, .dim, .italic, .underline, .blink, .fastBlink, .reverse, .conceal, .strike,
    .doubleUnderline, .frame, .encircle, .overline]

def code : Attribute → Nat
  | .bold => 1
  | .dim => 2
  | .italic => 3
  | .underline => 4
  | .blink => 5
  | .fastBlink => 6
  | .reverse => 7
  | .conceal => 8
  | .strike => 9
  | .doubleUnderline => 21
  | .frame => 51
  | .encircle => 52
  | .overline => 53

/-- The names of an attribute, the full one first. -/
def names : Attribute → List String
  | .bold => ["bold", "b"]
  | .dim => ["dim", "d"]
  | .italic => ["italic", "i"]
  | .underline => ["underline", "u"]
  | .blink => ["blink"]
  | .fastBlink => ["blink2"]
  | .reverse => ["reverse", "r"]
  | .conceal => ["conceal", "c"]
  | .strike => ["strike", "s"]
  | .doubleUnderline => ["underline2", "uu"]
  | .frame => ["frame"]
  | .encircle => ["encircle"]
  | .overline => ["overline", "o"]

def ofName? (name : String) : Option Attribute :=
  all.find? fun trait => trait.names.contains name

end Attribute

/-- The color of the terminal itself, or one of its 256 numbered colors. -/
inductive Color
  | own
  | numbered (number : Nat)
  deriving Repr, DecidableEq

namespace Color

/-- The names of the first eight colors. -/
def baseNames : List String :=
  ["black", "red", "green", "yellow", "blue", "magenta", "cyan", "white"]

/-- The color of a name: a base name, its bright kind, or a number in parentheses. -/
def ofName? (name : String) : Option Color :=
  let numberOf (text : String) : Option Nat :=
    (text.toNat?).filter fun number => number < 256
  if name == "default" then some .own
  else
    match baseNames.findIdx? (· == name) with
    | some index => some (.numbered index)
    | none =>
      match baseNames.findIdx? fun base => "bright_" ++ base == name with
      | some index => some (.numbered (8 + index))
      | none =>
        match name.toList with
        | 'c' :: 'o' :: 'l' :: 'o' :: 'r' :: '(' :: rest =>
          match rest.reverse with
          | ')' :: digits => (numberOf (String.ofList digits.reverse)).map Color.numbered
          | _ => none
        | _ => none

/-- The codes of a color; `base` is 30 for the text and 40 for the ground behind it. -/
def codes (base : Nat) : Color → List Nat
  | .own => [base + 9]
  | .numbered number =>
    if number < 8 then [base + number]
    else if number < 16 then [base + 52 + number]
    else [base + 8, 5, number]

end Color

/-- How text looks.  Attributes that are not listed stay as they are. -/
structure Style where
  attributes : List (Attribute × Bool) := []
  text : Option Color := none
  ground : Option Color := none
  deriving Repr, DecidableEq, Inhabited

namespace Style

/-- A style with some attributes. -/
def having (attributes : List Attribute) (text : Option Color := none) : Style where
  attributes := attributes.map fun trait => (trait, true)
  text := text

/-- The first style with the second one drawn over it. -/
def topped (under upper : Style) : Style where
  attributes := upper.attributes ++ under.attributes
  text := upper.text.or under.text
  ground := upper.ground.or under.ground

/-- Whether a style switches an attribute on. -/
def has (style : Style) (trait : Attribute) : Bool :=
  (style.attributes.lookup trait).getD false

def codes (style : Style) : List Nat :=
  (Attribute.all.filter style.has).map Attribute.code
    ++ (style.text.map (Color.codes 30)).getD [] ++ (style.ground.map (Color.codes 40)).getD []

/-- The character that starts a sequence of codes. -/
def escape : Char := Char.ofNat 27

def sequence (codes : List Nat) : String :=
  String.ofList [escape, '['] ++ joinWith ";" (codes.map toString) ++ "m"

/-- A text between the codes of its style and the code that ends it. -/
def paint (style : Style) (text : String) : String :=
  match text.isEmpty, style.codes with
  | true, _ => text
  | false, [] => text
  | false, codes => sequence codes ++ text ++ sequence [0]

/-- The style of the words of a description, read from left to right.  `negated` tells that the
last word was `not`, and `behind` that it was `on`. -/
def readWords? (style : Style) (negated behind : Bool) : List String → Option Style
  | [] => if negated || behind then none else some style
  | word :: rest =>
    if behind then
      match Color.ofName? word with
      | some color => readWords? { style with ground := some color } false false rest
      | none => none
    else if negated then
      match Attribute.ofName? word with
      | some trait =>
        readWords? { style with attributes := (trait, false) :: style.attributes } false false rest
      | none => none
    else if word == "on" then readWords? style false true rest
    else if word == "not" then readWords? style true false rest
    else
      match Attribute.ofName? word with
      | some trait =>
        readWords? { style with attributes := (trait, true) :: style.attributes } false false rest
      | none =>
        match Color.ofName? word with
        | some color => readWords? { style with text := some color } false false rest
        | none => none

end Style

end BooleanSearch.Display
