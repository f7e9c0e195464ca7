import BooleanSearch.Value

/-!
# Log records

What the parts of a search report as they work: a level, the name of the reporting part, a message
and named values.
-/

namespace BooleanSearch.Log

/-- A report.  The level is a number; greater ones are more severe. -/
structure Record where
  level : Nat
  logger : String
  message : String
  context : List (String × Value)
  deriving Inhabited

/-- The level of records for which nothing was said. -/
def unsetLevel : Nat := 0

def debugLevel : Nat := 10

def infoLevel : Nat := 20

def warningLevel : Nat := 30

def errorLevel : Nat := 40

/-- The level of failures that end the program. -/
def criticalLevel : Nat := 50

/-- The name of a level; a level between the usual ones is told by its number. -/
def levelName (level : Nat) : String :=
  if level == debugLevel then "DEBUG"
  else if level == infoLevel then "INFO"
  else if level == warningLevel then "WARNING"
  else if level == errorLevel then "ERROR"
  else if level == criticalLevel then "CRITICAL"
  else if level == unsetLevel then "NOTSET"
  else "Level " ++ toString level

def levelOfName? (name : String) : Option Nat :=
  if name == "DEBUG" then some debugLevel
  else if name == "INFO" then some infoLevel
  else if name == "WARNING" || name == "WARN" then some warningLevel
  else if name == "ERROR" then some errorLevel
  else if name == "CRITICAL" || name == "FATAL" then some criticalLevel
  else if name == "NOTSET" then some unsetLevel
  else none

end BooleanSearch.Log
