import SpaceMigration.Error
import SpaceMigration.Json.Printer
import SpaceMigration.Json.Record
import SpaceMigration.Time.Rfc3339

/-!
# The log of a job

A log grows at its end. Every event carries the reading of the clock at which it was appended, but
never one earlier than its predecessor's: a clock that goes backwards does not disturb the order.
-/

namespace SpaceMigration

/-- The severity of an event. -/
inductive LogLevel where
  | debug
  | info
  | warn
  | error
deriving DecidableEq, Repr

/-- The name of a level. -/
def LogLevel.name : LogLevel → String
  | debug => "DEBUG"
  | info => "INFO"
  | warn => "WARN"
  | error => "ERROR"

/-- The level with the given name. -/
def LogLevel.ofName? (name : String) : Option LogLevel :=
  [debug, info, warn, error].find? fun level => level.name == name

/-- An event of a job's log. -/
structure LogEvent where
  level : LogLevel
  timestamp : Timestamp
  message : String
  /-- The causes of an error, outermost first. -/
  trace : Option (List String)
deriving DecidableEq

/-- A log: its events in the order in which they were appended. -/
structure JobLog where
  events : List LogEvent
deriving DecidableEq

namespace JobLog

/-- The log without events. -/
def empty : JobLog := ⟨[]⟩

/-- The timestamp of the next event when the clock reads `now`. -/
def stamp (log : JobLog) (now : Timestamp) : Timestamp :=
  match log.events.getLast? with
  | none => now
  | some last => last.timestamp.latest now

/-- The log with one more event. -/
def append (log : JobLog) (now : Timestamp) (level : LogLevel) (message : String)
    (trace : Option (List String)) : JobLog :=
  ⟨log.events ++ [⟨level, log.stamp now, message, trace⟩]⟩

/-- Appends an event that carries no cause. -/
def note (log : JobLog) (now : Timestamp) (level : LogLevel) (message : String) : JobLog :=
  log.append now level message none

/-- Appends an error event: the message followed by that of its cause, with the trace of the
cause. -/
def fail (log : JobLog) (now : Timestamp) (message : String) (cause : MigrationError) : JobLog :=
  log.append now .error (message ++ ": " ++ cause.message) (some cause.trace)

end JobLog

/-! ### Layout -/

/-- A timestamp is written in UTC with `Z`. -/
def Timestamp.toJson (t : Timestamp) : Json.Value :=
  .text t.toText

/-- A timestamp is read leniently. -/
def Timestamp.ofJson? (v : Json.Value) : Option Timestamp :=
  v.asText.bind Timestamp.readLenient

/-- A missing trace is left out. -/
def LogEvent.toJson (e : LogEvent) : Json.Value :=
  .record ([("level", .text e.level.name), ("timestamp", e.timestamp.toJson),
    ("message", .text e.message)] ++
    (e.trace.map fun frames => ("trace", Json.Value.texts frames)).toList)

/-- The trace of an event may be left out or null. -/
def LogEvent.ofJson? (v : Json.Value) : Option LogEvent := do
  let fields ← v.fields? ["level", "timestamp", "message", "trace"]
  let level ← fields.required "level" (·.asName.bind LogLevel.ofName?)
  let timestamp ← fields.required "timestamp" Timestamp.ofJson?
  let message ← fields.required "message" (·.asText)
  let trace ← fields.withDefault "trace" none (·.asOption (·.asList (·.asText)))
  return ⟨level, timestamp, message, trace⟩

/-- The JSON text of a list of events. -/
def LogEvent.listText (events : List LogEvent) : String :=
  (Json.Value.array (events.map LogEvent.toJson)).compact

end SpaceMigration
