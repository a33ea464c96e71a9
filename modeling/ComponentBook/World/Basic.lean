import ComponentBook.Disk.Change
import ComponentBook.Log.Sink
import ComponentBook.Plan.Basic
import ComponentBook.Store.Directory
import ComponentBook.Store.Memory
import ComponentBook.Watch.Changes

/-! # The surroundings of a plan

A **`World`** is what a plan runs in: a disk, a place for pages, a git that answers as it is told, the
things that others do to the disk while the program waits, and a record of what the plan has done.
**`World.respond`** answers the requests of plans. A plan after a plan runs in the surroundings that the
first one leaves (`World.run_bind`); after a plan that can fail it runs only when that one succeeds
(**`World.attempt_bind`**). -/

namespace ComponentBook

/-- Where pages are kept. -/
inductive Shelf where
  | memory (pages : PageMemory)
  | directory (pages : PageDirectory)

/-- How git answers. -/
structure GitTool where
  /-- The staged files. -/
  listing : Text := []
  /-- The subcommands that fail. -/
  failures : List (Text × Git.Cause) := []

/-- An index template that has been read. -/
structure LoadedTemplate where
  text : Text
  /-- The file of the template and the time of its last write; none for the bundled template. -/
  origin : Option (Path × Int)

/-- The surroundings of a plan. -/
structure World where
  disk : Disk := {}
  shelf : Shelf := .memory {}
  /-- The directory of the project's own index template. -/
  templatesDirectory : Option Path := none
  /-- The index template in use. -/
  template : Option LoadedTemplate := none
  git : GitTool := {}
  /-- What happens to the disk in the coming pauses; a pause after these is interrupted. -/
  pauses : List (List Disk.Change) := []
  /-- How log records are written to a file. -/
  logFile : Option (Path × Log.Setup) := none
  /-- The time as log records show it. -/
  time : Text := []
  /-- The log records so far. -/
  records : List Log.Record := []
  /-- The git commands so far, each with its directory. -/
  commands : List (Path × Git.Command) := []
  /-- The seconds of the pauses so far. -/
  waited : List Double := []

namespace World

/-- A record told in the log. The file of the log is not made anew when it is gone. -/
def tell (w : World) (r : Log.Record) : World :=
  let w := { w with records := w.records ++ [r] }
  match w.logFile with
  | none => w
  | some (path, setup) =>
    if setup.hears r && w.disk.isFileAt path then
      match w.disk.append path (Log.fileLine w.time r) with
      | .ok disk => { w with disk }
      -- what cannot be written to the log is lost, and nothing else comes of it
      | .error _ => w
    else w

/-- The page of a name. -/
def readPage (w : World) (name : Text) : Except Failure (Option Text) :=
  match w.shelf with
  | .memory pages => .ok (pages.page? name)
  | .directory pages => (pages.page? w.disk name).mapError .disk

/-- A file as the outcome of writing it. -/
def written (path : Path) : Except Disk.Failure Unit → Except Failure (Option Path)
  | .ok () => .ok (some path)
  | .error e => .error (.disk e)

/-- A page kept under a name. -/
def savePage (w : World) (name page : Text) : Except Failure (Option Path) × World :=
  match w.shelf with
  | .memory pages => (.ok none, { w with shelf := .memory (pages.save name page) })
  | .directory pages =>
    let (outcome, disk) := pages.save w.disk name page
    let w := { w with disk }
    let path := pages.pathOf name
    (written path outcome,
      match outcome with
      | .ok () => w.tell (.of .debug "stores.docs" ("Wrote ".toList ++ path.text))
      | .error _ => w)

/-- The names of all pages. -/
def pageNames (w : World) : Except Failure (List Text) :=
  match w.shelf with
  | .memory pages => .ok pages.names
  | .directory pages => (pages.names w.disk).mapError .disk

/-- The index kept. -/
def saveIndex (w : World) (index : Text) : Except Failure (Option Path) × World :=
  match w.shelf with
  | .memory pages => (.ok none, { w with shelf := .memory (pages.saveIndex index) })
  | .directory pages =>
    let (outcome, disk) := pages.saveIndex w.disk index
    (written pages.indexPath outcome, { w with disk })

/-- A template that has been read is still the one to use. -/
def isCurrent (w : World) (t : LoadedTemplate) : Bool :=
  match t.origin with
  | none => true
  | some (path, modified) =>
    match w.disk.file path with
    | .ok f => f.modified = modified
    | .error _ => false

/-- The index template read anew: the project's own, if there is one, else the bundled one. -/
def readTemplate (w : World) : Except Failure LoadedTemplate :=
  let bundled : Except Failure LoadedTemplate := .ok { text := bundledTemplate, origin := none }
  match w.templatesDirectory with
  | none => bundled
  | some directory =>
    let path := directory.child templateName
    match w.disk.file path with
    | .error _ => bundled
    | .ok f =>
      match Disk.readContent f.content with
      | .ok text => .ok { text, origin := some (path, f.modified) }
      | .error e => .error (.disk e)

/-- The text of the index template. A template is read once and again when its file has been
written. -/
def indexTemplate (w : World) : Except Failure Text × World :=
  match w.template.filter w.isCurrent with
  | some t => (.ok t.text, w)
  | none =>
    match w.readTemplate with
    | .ok t => (.ok t.text, { w with template := some t })
    -- a template that has been read before is not fallen back on
    | .error e => (.error e, { w with template := none })

/-- The answer of git to a command. -/
def answerGit (w : World) (directory : Path) (command : Git.Command) :
    Except Git.Cause Text × World :=
  let w := { w with commands := w.commands ++ [(directory, command)] }
  match w.git.failures.lookup ((command.arguments.drop 1).headD []) with
  | some cause => (.error cause, w)
  | none => (.ok (if command.capture then w.git.listing else []), w)

/-- Some seconds waited. -/
def pause (w : World) (seconds : Double) : Wake × World :=
  let w := { w with waited := w.waited ++ [seconds] }
  match w.pauses with
  | [] => (.interrupted, w)
  | changes :: pauses => (.resumed, { w with disk := w.disk.changes changes, pauses })

/-- Whether there is a repository in a directory. -/
def isRepository (w : World) (root : Path) : Except Failure Bool :=
  (w.disk.exists? (root.child ".git".toList)).mapError .disk

/-- The answer to a request, and the surroundings after it. -/
def respond : Plan.Respond World
  | .readSource path, w => ((w.disk.read path).mapError .disk, w)
  | .readPage name, w => (w.readPage name, w)
  | .savePage name page, w => w.savePage name page
  | .pageNames, w => (w.pageNames, w)
  | .saveIndex index, w => w.saveIndex index
  | .indexTemplate, w => w.indexTemplate
  | .sources directory extension, w =>
    ((sourceFiles w.disk directory extension).mapError .disk, w)
  | .findSource directory name extension, w =>
    ((ComponentBook.findSource w.disk directory name extension).mapError .disk, w)
  | .survey directory extension, w =>
    ((surveySources w.disk directory extension).mapError .disk, w)
  | .isFile path, w => ((w.disk.isFile path).mapError .disk, w)
  | .isRepository root, w => (w.isRepository root, w)
  | .workingDirectory, w => ({ slashes := 1, names := w.disk.workingDirectory }, w)
  | .git directory command, w => w.answerGit directory command
  | .log record, w => ((), w.tell record)
  | .pause seconds, w => w.pause seconds

/-- A plan run in the surroundings. -/
def run {α : Type} (w : World) (p : Plan α) : α × World := p.run respond w

/-- A plan that can fail, run in the surroundings. -/
def attempt {α : Type} (w : World) (p : ExceptT Failure Plan α) : Except Failure α × World :=
  w.run p.run

/-! ## Plans after plans -/

variable {α β : Type}

/-- What follows an outcome: the next plan, in the surroundings that have been left. -/
def proceed (f : α → ExceptT Failure Plan β) : Except Failure α × World → Except Failure β × World
  | (.ok a, w) => w.attempt (f a)
  | (.error e, w) => (.error e, w)

@[simp] theorem proceed_ok (f : α → ExceptT Failure Plan β) (a : α) (w : World) :
    proceed f (.ok a, w) = w.attempt (f a) := rfl

@[simp] theorem run_pure (w : World) (a : α) : w.run (pure a) = (a, w) := rfl

@[simp] theorem run_request (w : World) (r : Request) : w.run (Plan.request r) = respond r w := rfl

@[simp] theorem run_tell (w : World) (level : Log.Level) (part : String) (message : Text) :
    w.run (Plan.tell level part message) = ((), w.tell (.of level part message)) := rfl

/-- A plan after a plan runs in the surroundings that the first one leaves. -/
theorem run_bind (w : World) (p : Plan α) (f : α → Plan β) :
    w.run (p >>= f) = (w.run p).2.run (f (w.run p).1) := Plan.run_bind respond p f w

/-- A plan that cannot fail succeeds with its value. -/
theorem attempt_liftM (w : World) (p : Plan α) :
    w.attempt (liftM p) = (.ok (w.run p).1, (w.run p).2) := by
  show w.run (p >>= fun a => pure (Except.ok a)) = _
  rw [run_bind]
  rfl

/-- A plan after a plan that can fail runs only when the first one succeeds. -/
theorem attempt_bind (w : World) (p : ExceptT Failure Plan α) (f : α → ExceptT Failure Plan β) :
    w.attempt (p >>= f) = proceed f (w.attempt p) := by
  show w.run (p.run >>= ExceptT.bindCont f) = _
  rw [run_bind, attempt]
  rcases w.run p.run with ⟨a | a, w'⟩ <;> rfl

end World

end ComponentBook
