import SidecarAgent.Telemetry.Metric

/-!
# Notes

What an operation reports on the side: log entries and measurements, in the order in which they
happen.  Operations return their notes, and whoever runs them enters the notes where they belong.
-/

namespace SidecarAgent.Telemetry

/-- How much a log entry matters. -/
inductive Level where
  | error
  | warn
  | info
  | debug
  | trace
  deriving DecidableEq, Repr

/-- The word for a level. -/
def Level.text : Level → String
  | error => "ERROR"
  | warn => "WARN"
  | info => "INFO"
  | debug => "DEBUG"
  | trace => "TRACE"

/-- How far down a level stands, errors first. -/
def Level.rank : Level → Nat
  | error => 1
  | warn => 2
  | info => 3
  | debug => 4
  | trace => 5

/-- An entry of the log: a message and its named details. -/
structure LogEntry where
  level : Level
  message : String
  fields : List (String × String) := []
  deriving DecidableEq, Repr

/-- Something that an operation reports. -/
inductive Note where
  | log (entry : LogEntry)
  | measure (measurement : Measurement)
  deriving DecidableEq, Repr

namespace Note

/-- A warning. -/
def warn (message : String) (fields : List (String × String)) : Note :=
  .log ⟨.warn, message, fields⟩

/-- A message for information. -/
def info (message : String) (fields : List (String × String)) : Note :=
  .log ⟨.info, message, fields⟩

/-- One more of what a metric counts. -/
def count (metric : Metric) : Note := .measure (.increment metric)

/-- The log entry of a note, if it is one. -/
def entry? : Note → Option LogEntry
  | log e => some e
  | measure _ => none

/-- The measurement of a note, if it is one. -/
def measurement? : Note → Option Measurement
  | log _ => none
  | measure m => some m

end Note

/-- Enters the measurements among some notes. -/
def Ledger.enter (l : Ledger) (notes : List Note) : Ledger :=
  (notes.filterMap Note.measurement?).foldl Ledger.record l

/-- The log entries among some notes. -/
def logEntries (notes : List Note) : List LogEntry := notes.filterMap Note.entry?

end SidecarAgent.Telemetry
