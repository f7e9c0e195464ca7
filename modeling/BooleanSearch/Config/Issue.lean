import BooleanSearch.Value

/-!
# Issues of a configuration

What is wrong with a setting, and which setting it is.
-/

namespace BooleanSearch.Config

/-- What is wrong with a setting. -/
inductive Complaint
  | notBool
  | unreadableBool
  | notInt
  | unreadableInt
  | oversizedInt
  | fractionalInt
  | notFinite
  | notNumber
  | unreadableNumber
  | notText
  | undecodableText
  | notPath
  | notFormat
  | notSection (model : String)
  | notAbove (bound : Nat)
  | below (bound : Nat)
  | above (bound : Nat)
  | contradiction (text : String)
  deriving Repr, DecidableEq

namespace Complaint

def kind : Complaint → String
  | .notBool => "bool_type"
  | .unreadableBool => "bool_parsing"
  | .notInt => "int_type"
  | .unreadableInt => "int_parsing"
  | .oversizedInt => "int_parsing_size"
  | .fractionalInt => "int_from_float"
  | .notFinite => "finite_number"
  | .notNumber => "float_type"
  | .unreadableNumber => "float_parsing"
  | .notText => "string_type"
  | .undecodableText => "string_unicode"
  | .notPath => "path_type"
  | .notFormat => "enum"
  | .notSection _ => "model_type"
  | .notAbove _ => "greater_than"
  | .below _ => "greater_than_equal"
  | .above _ => "less_than_equal"
  | .contradiction _ => "value_error"

/-- The wording of a complaint. -/
def message : Complaint → String
  | .notBool => "Input should be a valid boolean"
  | .unreadableBool => "Input should be a valid boolean, unable to interpret input"
  | .notInt => "Input should be a valid integer"
  | .unreadableInt => "Input should be a valid integer, unable to parse string as an integer"
  | .oversizedInt => "Unable to parse input string as an integer, exceeded maximum size"
  | .fractionalInt => "Input should be a valid integer, got a number with a fractional part"
  | .notFinite => "Input should be a finite number"
  | .notNumber => "Input should be a valid number"
  | .unreadableNumber => "Input should be a valid number, unable to parse string as a number"
  | .notText => "Input should be a valid string"
  | .undecodableText =>
    "Input should be a valid string, unable to parse raw data as a unicode string"
  | .notPath => "Input is not a valid path for <class 'pathlib.Path'>"
  | .notFormat => "Input should be 'rich', 'plain' or 'json'"
  | .notSection model => "Input should be a valid dictionary or instance of " ++ model
  | .notAbove bound => "Input should be greater than " ++ toString bound
  | .below bound => "Input should be greater than or equal to " ++ toString bound
  | .above bound => "Input should be less than or equal to " ++ toString bound
  | .contradiction text => "Value error, " ++ text

end Complaint

/-- A complaint about the setting at a place: the names of its section and of itself. -/
structure Issue where
  place : List String
  complaint : Complaint
  deriving Repr, DecidableEq

/-- An issue as plain data. -/
def Issue.toValue (issue : Issue) : Value :=
  .dict [(.text "loc", .list (issue.place.map Value.text)),
    (.text "type", .text issue.complaint.kind), (.text "msg", .text issue.complaint.message)]

end BooleanSearch.Config
