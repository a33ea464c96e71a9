import ComponentBook.Text.Basic

/-! # Log records

What happens during a run is told in log records: a level, the logger that the record is about, and
a message. Loggers are named by dotted names; those at and below **`bookLogger`** belong to the
program itself. -/

namespace ComponentBook.Log

/-- How much a record matters. -/
inductive Level where
  | debug
  | info
  | warning
  | error
  | critical
  deriving DecidableEq, Repr

/-- The rank of a level. -/
def Level.rank : Level → Nat
  | .debug => 10
  | .info => 20
  | .warning => 30
  | .error => 40
  | .critical => 50

/-- The name of a level. -/
def Level.name : Level → Text
  | .debug => "DEBUG".toList
  | .info => "INFO".toList
  | .warning => "WARNING".toList
  | .error => "ERROR".toList
  | .critical => "CRITICAL".toList

/-- Every level. -/
def Level.all : List Level := [.debug, .info, .warning, .error, .critical]

/-- The logger of the program. -/
def bookLogger : Text := "compdoc".toList

/-- The loggers of the service. -/
def serviceLoggers : List Text :=
  ["uvicorn".toList, "uvicorn.error".toList, "uvicorn.access".toList]

/-- A log record. -/
structure Record where
  level : Level
  logger : Text
  message : Text
  deriving DecidableEq, Repr

/-- A record of the part of the program with a name. -/
def Record.of (level : Level) (part : String) (message : Text) : Record where
  level := level
  logger := bookLogger ++ '.' :: part.toList
  message := message

/-- The line of a record that names its level and its logger. -/
def Record.line (r : Record) : Text := r.level.name ++ ' ' :: r.logger ++ ": ".toList ++ r.message

end ComponentBook.Log
