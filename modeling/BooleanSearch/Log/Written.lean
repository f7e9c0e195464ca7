import BooleanSearch.Display.Wrap
import BooleanSearch.Json.Printer
import BooleanSearch.Log.Moment
import BooleanSearch.Log.Record
import BooleanSearch.Log.Template

/-!
# Written reports

A report is written as its message with its named values in brackets, as one line of JSON, or as
lines of a terminal behind the name of its level.
-/

namespace BooleanSearch.Log

namespace Record

/-- The named values of a report in brackets, if there are any. -/
def contextText (record : Record) : String :=
  if record.context.isEmpty then ""
  else
    " [" ++ joinWith " " (record.context.map fun (name, value) => name ++ "=" ++ value.display)
      ++ "]"

/-- The message of a report with its named values. -/
def messageText (record : Record) : String :=
  record.message ++ record.contextText

/-- What a format can refer to by name. -/
def fields (record : Record) (created : Float) : Except Failure (List (Value × Value)) := do
  let moment ← Moment.ofFloat created
  let named : List (String × Value) :=
    [("name", .text record.logger), ("msg", .text record.message),
      ("levelname", .text (levelName record.level)), ("levelno", .int record.level),
      ("message", .text record.message), ("created", .float created),
      ("msecs", .float (Decimal.ofInt (moment.microsecond / 1000))),
      ("asctime", .text moment.plainText), ("processName", .text "MainProcess"),
      ("threadName", .text "MainThread")]
  return named.map fun (name, value) => (.text name, value)

/-- The failure of a format without a placeholder for a named value. -/
def badFormat (format : String) : Failure :=
  .badValue ("Invalid format '" ++ format ++ "' for '%' style")

/-- A report in a format, with its named values. -/
def formatted (record : Record) (format : String) (created : Float) : Except Failure String := do
  if !Template.hasNamed format.toList then throw (badFormat format)
  match Template.fill format (.named (← record.fields created)) with
  | .ok text => return text ++ record.contextText
  | .error (.missingKey name) =>
    throw (.badValue ("Formatting field not found in record: " ++ name))
  | .error failure => throw failure

/-- Entries with one replaced, if its name is there, or added. -/
def setEntry (name : String) (value : Value) : List (String × Value) → List (String × Value)
  | [] => [(name, value)]
  | (other, old) :: rest =>
    if other == name then (name, value) :: rest else (other, old) :: setEntry name value rest

/-- A report as plain data; named values stand beside the time, level, logger and message, and
replace those of the same name. -/
def toValue (record : Record) (time : String) : Value :=
  let own : List (String × Value) :=
    [("time", .text time), ("level", .text (levelName record.level)),
      ("logger", .text record.logger), ("message", .text record.message)]
  let all := record.context.foldl (fun entries (name, value) => setEntry name value entries) own
  .dict (all.map fun (name, value) => (.text name, value))

def jsonLine (record : Record) (time : String) : Except Failure String :=
  Json.render {} (record.toValue time)

/-- The columns that the name of a level is filled up to. -/
def levelColumns : Nat := 8

/-- A report as lines of a terminal of `room` columns: the message stands behind the name of its
level, and the lines are filled up with spaces. -/
def terminalLines (record : Record) (room : Nat) : List String :=
  let name := levelName record.level
  let level := name.toList ++ List.replicate (levelColumns - name.length) ' '
  let blank := List.replicate level.length ' '
  let message := Display.wrap (room - level.length - 1) [.ofString record.messageText] .left
  let line (first : Bool) (text : Display.Line) : String :=
    String.ofList ((if first then level else blank) ++ ' ' :: text.plain)
  match message with
  | [] => []
  | first :: rest => line true first :: rest.map (line false)

end Record

end BooleanSearch.Log
