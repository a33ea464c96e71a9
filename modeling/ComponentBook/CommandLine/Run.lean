import ComponentBook.CommandLine.Command
import ComponentBook.Service.Answer
import ComponentBook.Watch.Run

/-! # Running a command

**`run`** does what arguments ask for. Its **`Outcome`** says how the program ends, what it prints, and
where a service listens from then on. -/

namespace ComponentBook.CommandLine

/-- What became of a command. -/
structure Outcome where
  /-- The code with which the program ends, or the failure that ends it. -/
  ending : Except Failure Nat := .ok 0
  /-- What is printed. -/
  output : Text := []
  /-- What is printed as messages: the log on the console, and then what is wrong. -/
  errors : Text := []
  /-- Where the service listens. -/
  service : Option Service.Address := none

/-- Lines, each with its end. -/
def printed (lines : List Text) : Text := lines.flatMap (· ++ ['\n'])

/-- The outcome of a command that cannot be done. -/
def Outcome.refused (message : Text) : Outcome := { ending := .ok 1, errors := message ++ ['\n'] }

/-- The code for a run. -/
def codeOf (report : BatchReport) : Nat := if report.success then 0 else 1

/-- The outcome of a run over several sources. -/
def Outcome.ofBatch : Except Failure BatchReport → Outcome
  | .ok report => { ending := .ok (codeOf report), output := printed report.summary }
  | .error f =>
    if f.isExpected then
      .refused ("compdoc failed: ".toList ++ f.message ++
        "\nRun with --verbose for more details.".toList)
    else { ending := .error f }

/-- What is printed about a source. -/
def fileLine (here : Path) (name : Text) (r : FileReport) : Text :=
  if r.success then
    "Documentation generated: ".toList ++ ((r.pagePath.map (Path.textBelow here)).getD ['-'])
  else "Failed to document ".toList ++ name ++ ": ".toList ++ r.error.getD []

/-- What is printed about an index that could not be written. -/
def indexLines (report : BatchReport) : List Text :=
  match report.indexError.filter (!·.isEmpty) with
  | some e => ["Index build failed: ".toList ++ e]
  | none => []

/-- The outcome of a run over one source. -/
def Outcome.ofComponent (here : Path) (name : Text) : Except Failure BatchReport → Outcome
  | .ok report =>
    { ending := .ok (codeOf report)
      output := printed ((report.results.take 1).map (fileLine here name) ++ indexLines report) }
  | .error (.noComponent name directory) => .refused (Failure.noComponent name directory).message
  | .error f => { ending := .error f }

/-- The outcome of watching. -/
def Outcome.ofWatch (here : Path) (s : Settings) (r : Except Failure Wake) : Outcome :=
  let started := "Watching ".toList ++ Path.textBelow here s.componentsDirectory ++
    " for changes (Ctrl+C to stop)".toList
  match r with
  | .ok .interrupted => { output := printed [started, "Stopped watching".toList] }
  | .ok .resumed => { output := printed [started] }
  | .error f => { ending := .error f, output := printed [started] }

/-- Where the service listens: as given, where something is given, else as the settings say. -/
def addressOf (s : Settings) (o : Options) : Service.Address where
  host := (o.host.filter (!·.isEmpty)).getD s.host
  port := (o.port.filter (· ≠ 0)).getD s.port

/-- A command done under the settings of a project. -/
def perform (w : World) (s : Settings) (c : Command) : Outcome × World :=
  let w := w.forProject s
  match c.job with
  | .all =>
    let (r, w) := w.attempt (Batch.all s none)
    (.ofBatch r, w)
  | .component =>
    let (r, w) := w.attempt (Batch.component s c.name none)
    (.ofComponent w.here c.name r, w)
  | .staged =>
    let (r, w) := w.attempt (Batch.staged s (some (!c.options.noStage)))
    (.ofBatch r, w)
  | .watch =>
    let (r, w) := w.attempt (ComponentBook.watch s c.options.interval (w.pauses.length + 1))
    (.ofWatch w.here s r, w)
  | .serve =>
    let address := addressOf s c.options
    ({ service := some address },
      w.tell (.of .info Service.part ("Serving compdoc on ".toList ++ address.text)))

/-- How a command is heard in the log: a job that goes on shows the time. -/
def Command.logSetup (c : Command) : Log.Setup where
  verbose := c.options.verbose
  timestamps := c.job = .watch || c.job = .serve
  service := c.job = .serve

/-- The file for the log of a command, if it is to have one. -/
def Command.logFile (c : Command) : Except Failure (Option Path) :=
  match c.options.logFile with
  | none => .ok none
  | some (some t) => .ok (some (Path.ofText t))
  | some none => .error (.withheld .logFile)

/-- The directory of the project that a command is about. -/
def Command.root (c : Command) : Except Failure Path :=
  match c.options.root with
  | some t => .ok (Path.ofText t)
  | none => .error (.withheld .root)

/-- The world in which a command is heard in the log. -/
def Command.listen (w : World) (c : Command) : Except Failure Unit × World :=
  match c.logFile with
  | .error f => (.error f, w)
  | .ok file => w.listen c.logSetup file

/-- A command done. The records afterwards are those of the command. -/
def Command.run (w : World) (c : Command) : Outcome × World :=
  match c.listen { w with records := [] } with
  | (.error f, w) => ({ ending := .error f }, w)
  | (.ok (), w) =>
    match c.root.bind (loadSettings w.disk) with
    | .error (.settings cause) => (.refused cause.message, w)
    | .error f => ({ ending := .error f }, w)
    | .ok s =>
      let (outcome, w) := perform w s c
      ({ outcome with errors := c.logSetup.console w.time w.records ++ outcome.errors }, w)

/-- What arguments ask for done. -/
def run (w : World) (arguments : List Text) : Outcome × World :=
  match Command.read arguments with
  | .error (.help program switches) => ({ output := (Stop.help program switches).text }, w)
  | .error stop => ({ ending := .ok 2, errors := stop.text }, w)
  | .ok c => c.run w

end ComponentBook.CommandLine
