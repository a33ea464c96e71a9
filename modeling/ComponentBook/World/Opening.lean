import ComponentBook.Settings.Loading
import ComponentBook.World.Basic

/-! # Opening a project

Before a run the surroundings are set up: **`World.forProject`** keeps pages where the settings of a
project say, and **`World.listen`** says where log records go from then on. -/

namespace ComponentBook.World

/-- The surroundings for the pages of a project, kept in its directory of pages. -/
def forProject (w : World) (s : Settings) : World :=
  { w with
    shelf := .directory { directory := s.pagesDirectory, indexName := s.indexName }
    templatesDirectory := s.templatesDirectory
    template := none }

/-- The directory from which relative paths start. -/
def here (w : World) : Path := { slashes := 1, names := w.disk.workingDirectory }

/-- A disk on which a file is there, new and empty if it was not there before. -/
def withFile (d : Disk) (p : Path) : Except Disk.Failure Disk :=
  match d.file p with
  | .ok _ => .ok d
  | .error _ => d.store p { content := .text [], modified := d.clock }

/-- Log records from now on written to a file, if one is given. The file is there at once, in a
directory that is made when it is missing. -/
def listen (w : World) (setup : Log.Setup) : Option Path → Except Failure Unit × World
  | none => (.ok (), { w with logFile := none })
  | some file =>
    let (made, disk) := w.disk.makeDirectories file.parent
    let path := Path.resolved w.here file
    match made.bind fun () => withFile disk path with
    | .ok disk => (.ok (), { w with disk, logFile := some (path, setup) })
    | .error e => (.error (.disk e), { w with disk })

end ComponentBook.World
