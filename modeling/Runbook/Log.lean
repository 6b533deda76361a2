/-!
# Log lines

Everything the library reports while it works is a value: a level and a text.  The text begins
with the name, in square brackets, of the part that speaks.
-/

namespace Runbook

/-- How important a log line is. -/
inductive LogLevel where
  /-- Of interest to someone who looks for a fault. -/
  | debug
  /-- Part of the story of a run. -/
  | info
  /-- Something that may be wrong. -/
  | warn
  /-- Something that is wrong. -/
  | error
  deriving DecidableEq, Repr

/-- The name of the level. -/
def LogLevel.name : LogLevel → String
  | .debug => "debug"
  | .info => "info"
  | .warn => "warn"
  | .error => "error"

/-- A line of the log. -/
structure LogLine where
  /-- How important the line is. -/
  level : LogLevel
  /-- What it says. -/
  text : String
  deriving DecidableEq, Repr

namespace LogLine

/-- A line for someone who looks for a fault. -/
def debug (text : String) : LogLine := ⟨.debug, text⟩

/-- A line that is part of the story. -/
def info (text : String) : LogLine := ⟨.info, text⟩

/-- A line about something that may be wrong. -/
def warn (text : String) : LogLine := ⟨.warn, text⟩

/-- A line about something that is wrong. -/
def error (text : String) : LogLine := ⟨.error, text⟩

end LogLine

end Runbook
