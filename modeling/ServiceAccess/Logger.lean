/-! # Loggers

Diagnostic lines and the loggers that take them. The default logger writes warnings and errors to the
console behind a fixed mark and drops everything else. -/

namespace ServiceAccess

/-- How grave a log line is. -/
inductive Level where
  /-- Progress. -/
  | info
  /-- A result that deserves attention. -/
  | warn
  /-- A failure. -/
  | error
deriving DecidableEq

/-- The name of a level. -/
def Level.name : Level → String
  | .info => "info"
  | .warn => "warn"
  | .error => "error"

/-- One log line. -/
structure LogLine where
  /-- How grave the line is. -/
  level : Level
  /-- What it says. -/
  message : String
deriving DecidableEq

/-- The kinds of logger. -/
inductive Logger where
  /-- Keeps every line. -/
  | recorder
  /-- The default logger: warnings and errors go to the console. -/
  | standard
  /-- Drops every line. -/
  | silent
deriving DecidableEq

/-- What a logger does with a line. -/
inductive Emission where
  /-- The line is kept. -/
  | kept (line : LogLine)
  /-- A text is written to the console. -/
  | printed (level : Level) (text : String)
deriving DecidableEq

/-- The mark in front of console lines. -/
def consoleMark : String := "[service-connectors]"

/-- What a logger does with a line, if anything. -/
def Logger.write : Logger → LogLine → Option Emission
  | .recorder, line => some (.kept line)
  | .silent, _ => none
  | .standard, line =>
    match line.level with
    | .info => none
    | level => some (.printed level (consoleMark ++ " " ++ line.message))

end ServiceAccess
