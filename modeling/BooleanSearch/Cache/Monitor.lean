import BooleanSearch.Decimal.Number
import BooleanSearch.Error
import BooleanSearch.Log.Record

/-!
# Memory pressure

A monitor samples the fraction of memory in use, classifies it against two thresholds and keeps a
bounded history.  Listeners are told of every sample that is not low, and of every change.
-/

namespace BooleanSearch.Cache

/-- How scarce memory is. -/
inductive Pressure
  | low
  | medium
  | high
  deriving Repr, DecidableEq, Inhabited

def Pressure.name : Pressure → String
  | .low => "low"
  | .medium => "medium"
  | .high => "high"

def Pressure.ofName (name : String) : Except Failure Pressure :=
  match name with
  | "low" => .ok .low
  | "medium" => .ok .medium
  | "high" => .ok .high
  | _ => .error (.badValue (Text.quoted name ++ " is not a valid MemoryPressure"))

/-- One sample: the fraction in use and its class. -/
structure Sample where
  used : Number
  pressure : Pressure
  deriving Inhabited

/-- A sample as plain data. -/
def Sample.toValue (sample : Sample) : Value :=
  .dict [(.text "used", sample.used.toValue), (.text "pressure", .text sample.pressure.name)]

structure Monitor where
  medium : Number
  high : Number
  limit : Option Nat
  history : List Sample
  last : Pressure
  deriving Inhabited

namespace Monitor

/-- A monitor without samples; the lower threshold must not exceed the upper one. -/
def create (medium high : Number) (limit : Option Int) : Except Failure Monitor :=
  if high.below medium then .error (.badValue "medium_threshold must not exceed high_threshold")
  else
    match limit with
    | none => .ok ⟨medium, high, none, [], .low⟩
    | some count =>
      if count < 0 then .error (.badValue "maxlen must be non-negative")
      else .ok ⟨medium, high, some count.toNat, [], .low⟩

def classify (monitor : Monitor) (used : Number) : Pressure :=
  if monitor.high.atMost used then .high
  else if monitor.medium.atMost used then .medium
  else .low

/-- Adds a sample to the history, which keeps only the latest ones. -/
def remember (monitor : Monitor) (sample : Sample) : Monitor :=
  let history := monitor.history ++ [sample]
  match monitor.limit with
  | none => { monitor with history := history }
  | some limit => { monitor with history := history.drop (history.length - limit) }

/-- Takes a sample without telling anyone. -/
def sample (monitor : Monitor) (used : Number) : Sample × Monitor :=
  let taken : Sample := ⟨used, monitor.classify used⟩
  (taken, monitor.remember taken)

def percentText (used : Number) : String :=
  Decimal.fixed (used.toFloat * 100.0) 0 ++ "%"

def changeRecord (sample : Sample) : Log.Record where
  level := if sample.pressure == .high then Log.warningLevel else Log.infoLevel
  logger := "fileseek.cache.memory"
  message := "Memory pressure changed"
  context := [("pressure", .text sample.pressure.name), ("used", .text (percentText sample.used))]

/-- What a check finds: the sample, whether listeners are told, and the report of a change. -/
structure Check where
  sample : Sample
  notify : Bool
  records : List Log.Record

/-- Takes a sample and decides who is told of it. -/
def check (monitor : Monitor) (used : Number) : Check × Monitor :=
  let (taken, next) := monitor.sample used
  let changed := taken.pressure != monitor.last
  (⟨taken, changed || taken.pressure != .low, if changed then [changeRecord taken] else []⟩,
    { next with last := taken.pressure })

end Monitor

end BooleanSearch.Cache
