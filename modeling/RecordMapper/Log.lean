import RecordMapper.Json.Printer

/-!
The log: what a client tells about its requests, and how an entry appears as an event of
the diagnostic stream.
-/

namespace RecordMapper

/-- How grave an entry is. -/
inductive LogLevel where
  | debug
  | info
  | warn
  | error
  | fatal
deriving DecidableEq

/-- The name of a level. -/
def LogLevel.label : LogLevel → String
  | .debug => "debug"
  | .info => "info"
  | .warn => "warn"
  | .error => "error"
  | .fatal => "fatal"

/-- An entry of the log. -/
structure LogEntry where
  level : LogLevel
  payload : Json

/-- An event of the diagnostic stream, which has no level above error. -/
structure LogEvent where
  severity : String
  payload : String
  fatal : Bool
deriving DecidableEq

/-- The severity of events of a level; a fatal entry is an error that is marked. -/
def LogLevel.severity : LogLevel → String
  | .debug => "DEBUG"
  | .info => "INFO"
  | .warn => "WARN"
  | .error => "ERROR"
  | .fatal => "ERROR"

/-- The event of an entry; its payload is compact JSON text. -/
def LogEntry.event (entry : LogEntry) : LogEvent :=
  ⟨entry.level.severity, entry.payload.print, entry.level = .fatal⟩

end RecordMapper
