import ComponentBook.Disk.Basic
import ComponentBook.Text.Blank

/-! # Staging

A repository tells which files are staged for the next commit, and takes generated pages in. This
file holds the commands for both, the reading of the answer (**`stagedNames`**,
**`stagedSources`**), the names under which files are added (**`nameInRepository`**), and the ways
in which a command fails. A command that does not end by itself is ended by a signal, and most
signals have names (**`signalName?`**). -/

namespace ComponentBook.Git

/-- The names of the signals from the first one on. -/
def signalNames : List String := [
  "HUP", "INT", "QUIT", "ILL", "TRAP", "ABRT", "BUS", "FPE", "KILL", "USR1", "SEGV", "USR2", "PIPE",
  "ALRM", "TERM", "STKFLT", "CHLD", "CONT", "STOP", "TSTP", "TTIN", "TTOU", "URG", "XCPU", "XFSZ",
  "VTALRM", "PROF", "WINCH", "IO", "PWR", "SYS"]

/-- The names of the first and the last signal for programs' own purposes, by their numbers. -/
def ownSignalNames : List (Nat × String) := [(34, "RTMIN"), (64, "RTMAX")]

/-- The name of a signal. -/
def signalName? (n : Nat) : Option Text :=
  (if 0 < n ∧ n ≤ signalNames.length then signalNames[n - 1]? else ownSignalNames.lookup n).map
    fun name => "SIG".toList ++ name.toList

/-- A signal as messages show it. -/
def signalText (n : Nat) : Text :=
  match signalName? n with
  | some name => "<Signals.".toList ++ name ++ ": ".toList ++ Text.decimal n ++ ['>']
  | none => "unknown signal ".toList ++ Text.decimal n

/-- A command given to git. -/
structure Command where
  arguments : List Text
  /-- What the command writes is wanted. -/
  capture : Bool
  deriving DecidableEq, Repr

/-- The command that lists the staged files. -/
def listStaged : Command where
  arguments := ["git".toList, "diff".toList, "--cached".toList, "--name-only".toList,
    "--relative".toList]
  capture := true

/-- The command that stages files. -/
def addFiles (names : List Text) : Command where
  arguments := ["git".toList, "add".toList, "--".toList] ++ names
  capture := false

/-- Why a command fails. -/
inductive Cause where
  /-- The command ended with a status other than success, or by the signal of a negative status. -/
  | exited (status : Int)
  /-- There is no git. -/
  | unavailable
  deriving DecidableEq, Repr

/-- A command that failed. -/
structure Failure where
  command : Command
  cause : Cause
  deriving DecidableEq, Repr

/-- A list of texts as messages show it. -/
def quotedList (ts : List Text) : Text :=
  '[' :: Text.join ", ".toList (ts.map Text.quoted) ++ [']']

/-- How a command with a status ended. -/
def endingText (status : Int) : Text :=
  if status < 0 then " died with ".toList ++ signalText status.natAbs
  else " returned non-zero exit status ".toList ++ Text.signedDecimal status

/-- The text of a failure. -/
def Failure.message (f : Failure) : Text :=
  "git command failed: ".toList ++ Text.join [' '] f.command.arguments ++ ": ".toList ++
    match f.cause with
    | .exited status =>
      "Command '".toList ++ quotedList f.command.arguments ++ '\'' :: endingText status ++ ['.']
    | .unavailable => Disk.Fault.missing.message "git".toList

/-- The names that a listing of staged files holds. -/
def stagedNames (listing : Text) : List Text :=
  (listing.lines.map Text.strip).filter (· ≠ [])

/-- The names of `p` below the repository, both taken from the working directory; `p` as it is
written when it does not lie in the repository. -/
def nameInRepository (workingDirectory repository p : Path) : Text :=
  -- such a path leads nowhere, so it is not resolved
  if Disk.hasNul p then p.text else
  match Path.below? (Path.resolved workingDirectory repository)
      (Path.resolved workingDirectory p) with
  | some names => Path.text { names }
  | none => p.text

/-- The start of the names of files in a directory; empty for the repository itself. -/
def directoryPrefix (workingDirectory repository directory : Path) : Text :=
  let name := (nameInRepository workingDirectory repository directory).dropRightWhile (· = '/')
  if name = ['.'] then [] else name

/-- The staged files that are component sources, as paths in the repository. -/
def stagedSources (workingDirectory repository directory : Path) (extension listing : Text) :
    List Path :=
  let start := directoryPrefix workingDirectory repository directory
  -- names are compared with slashes between their parts, whatever the system writes
  let names := (stagedNames listing).map fun t => t.map fun c => if c = '\\' then '/' else c
  (names.filter fun n => n.endsWith extension && (start.isEmpty || n.startsWith (start ++ ['/']))).map
    repository.child

end ComponentBook.Git
