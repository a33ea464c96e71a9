import ComponentBook.Disk.Basic

/-! # Changes from outside

What others do to a disk while the program waits: they write files, with a time of their own, and
take files and directories away. -/

namespace ComponentBook.Disk

/-- Something that is done to a disk. -/
inductive Change where
  /-- A file is written, in directories that are made when they are missing. -/
  | write (path : Path) (content : Content) (modified : Int)
  /-- A directory is made. -/
  | makeDirectory (path : Path)
  /-- What a path leads to is taken away. -/
  | remove (path : Path)
  deriving DecidableEq, Repr

/-- The disk after a change. A change that cannot be made does nothing more than the directories it
has made. -/
def change (d : Disk) : Change → Disk
  | .write path content modified =>
    let d := (d.makeDirectories path.parent).2
    match d.store path { content, modified } with
    | .ok d => d
    | .error _ => d
  | .makeDirectory path => (d.makeDirectories path).2
  | .remove path => d.remove path

/-- The disk after some changes. -/
def changes (d : Disk) (cs : List Change) : Disk := cs.foldl change d

/-- What a file holds now and did not hold before, for every file at or below a place; nothing for a
file that is gone. Names are given from that place on. -/
def difference (before after : Disk) (l : Location) : List (List Text × Option Content) :=
  let files (d : Disk) : List (Location × Content) := d.entries.filterMap fun (k, e) =>
    match e with
    | .file f => if l.isPrefixOf k then some (k.drop l.length, f.content) else none
    | .directory => none
  let changed := (files after).filter fun (k, c) => (files before).lookup k != some c
  let gone := (files before).filter fun (k, _) => ((files after).lookup k).isNone
  changed.map (fun (k, c) => (k, some c)) ++ gone.map fun (k, _) => (k, none)

end ComponentBook.Disk
