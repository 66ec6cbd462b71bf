/-!
# Log lines
-/

namespace Chip8

/-- How important a log line is. -/
inductive LogLevel where
  /-- For whoever follows single instructions. -/
  | debug
  /-- What happens in the normal course of things. -/
  | info
  /-- What was passed over although it should not have happened. -/
  | warning
  /-- What ended the work. -/
  | error
deriving DecidableEq, Repr

/-- The name of a level. -/
def LogLevel.name : LogLevel → String
  | debug => "DEBUG"
  | info => "INFO"
  | warning => "WARNING"
  | error => "ERROR"

/-- A line of the log. -/
structure LogLine where
  /-- How important it is. -/
  level : LogLevel
  /-- What it says. -/
  message : String
deriving DecidableEq, Repr

end Chip8
