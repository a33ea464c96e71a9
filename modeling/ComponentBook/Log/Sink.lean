import ComponentBook.Log.Record

/-! # Where log records go

A **`Log.Setup`** says which loggers are heard, from which level on, and how their records are
written: on the console, with the time in front when that is wanted, and in a file, always with the
time, the level and the logger. Of the other loggers only warnings and errors show, on the console,
as bare messages. -/

namespace ComponentBook.Log

/-- How log records are heard. -/
structure Setup where
  /-- Records below information are heard as well. -/
  verbose : Bool := false
  /-- Console lines start with the time. -/
  timestamps : Bool := false
  /-- The loggers of the service are heard as well. -/
  service : Bool := false
  deriving DecidableEq, Repr

/-- The least level that is heard. -/
def Setup.threshold (s : Setup) : Level := if s.verbose then .debug else .info

/-- The loggers that are heard, each with the loggers below it. -/
def Setup.loggers (s : Setup) : List Text :=
  bookLogger :: if s.service then serviceLoggers else []

/-- A logger is another one or below it. -/
def isAtOrBelow (logger other : Text) : Bool :=
  logger = other || logger.startsWith (other ++ ['.'])

/-- A record is heard. -/
def Setup.hears (s : Setup) (r : Record) : Bool :=
  s.threshold.rank ≤ r.level.rank && s.loggers.any (isAtOrBelow r.logger)

/-- The console line of a record. -/
def Setup.consoleLine (s : Setup) (time : Text) (r : Record) : Text :=
  (if s.timestamps then time ++ [' '] else []) ++ '[' :: bookLogger ++ "] ".toList ++
    r.level.name ++ ' ' :: r.message ++ ['\n']

/-- The line of a record in a file. -/
def fileLine (time : Text) (r : Record) : Text := time ++ ' ' :: r.line ++ ['\n']

/-- Records of the loggers that are not heard show from this level on. -/
def strayThreshold : Level := .warning

/-- What a record writes on the console. -/
def Setup.consoleText (s : Setup) (time : Text) (r : Record) : Text :=
  if s.loggers.any (isAtOrBelow r.logger) then
    if s.hears r then s.consoleLine time r else []
  else if strayThreshold.rank ≤ r.level.rank then r.message ++ ['\n'] else []

/-- What records write on the console. -/
def Setup.console (s : Setup) (time : Text) (rs : List Record) : Text :=
  rs.flatMap (s.consoleText time)

end ComponentBook.Log
