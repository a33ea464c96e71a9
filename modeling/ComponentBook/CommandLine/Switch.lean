import ComponentBook.Text.Basic

/-! # Jobs and switches

The program is given a **`Job`** and **`Switch`**es, some before the job and some after it. A switch has
one or more spellings; some switches take a value. -/

namespace ComponentBook.CommandLine

/-- An option of the command line. -/
inductive Switch where
  /-- The ways to call the program are shown. -/
  | help
  /-- More is told in the log. -/
  | verbose
  /-- The directory of the project. -/
  | root
  /-- A file for the log. -/
  | logFile
  /-- Written pages are not staged. -/
  | noStage
  /-- The seconds between two looks. -/
  | interval
  /-- The address of the service. -/
  | host
  /-- The port of the service. -/
  | port
  deriving DecidableEq, Repr

/-- The spellings of a switch. -/
def Switch.spellings : Switch → List Text
  | .help => ["-h".toList, "--help".toList]
  | .verbose => ["-v".toList, "--verbose".toList]
  | .root => ["--root".toList]
  | .logFile => ["--log-file".toList]
  | .noStage => ["--no-stage".toList]
  | .interval => ["--interval".toList]
  | .host => ["--host".toList]
  | .port => ["--port".toList]

/-- The switch takes a value. -/
def Switch.takesValue : Switch → Bool
  | .help | .verbose | .noStage => false
  | .root | .logFile | .interval | .host | .port => true

/-- A switch as messages show it. -/
def Switch.label (s : Switch) : Text := Text.join ['/'] s.spellings

/-- What the program can be asked to do. -/
inductive Job where
  /-- All components are documented. -/
  | all
  /-- One component is documented. -/
  | component
  /-- The staged components are documented. -/
  | staged
  /-- Components are documented when they change. -/
  | watch
  /-- The service is started. -/
  | serve
  deriving DecidableEq, Repr

/-- The word for a job. -/
def Job.word : Job → Text
  | .all => "all".toList
  | .component => "component".toList
  | .staged => "staged".toList
  | .watch => "watch".toList
  | .serve => "serve".toList

/-- Every job. -/
def jobs : List Job := [.all, .component, .staged, .watch, .serve]

/-- The job that a word stands for. -/
def Job.ofWord? (word : Text) : Option Job := jobs.find? fun j => j.word == word

/-- The switches in front of a job. -/
def commonSwitches : List Switch := [.help, .verbose, .root, .logFile]

/-- The switches behind the word of a job. -/
def Job.switches : Job → List Switch
  | .all | .component => [.help, .verbose]
  | .staged => [.help, .verbose, .noStage]
  | .watch => [.help, .verbose, .interval]
  | .serve => [.help, .verbose, .host, .port]

/-- The job is about a component, which is named behind its word. -/
def Job.takesName : Job → Bool
  | .component => true
  | _ => false

/-- The word by which the program is called. -/
def program : Text := "compdoc".toList

/-- The words by which the program is called for a job. -/
def Job.program (j : Job) : Text := CommandLine.program ++ ' ' :: j.word

end ComponentBook.CommandLine
