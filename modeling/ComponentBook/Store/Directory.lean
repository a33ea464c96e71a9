import ComponentBook.Disk.Selection
import ComponentBook.Index.Grouping

/-! # Pages in a directory

A store that keeps each page in a file of one directory: the page of a name is the file with that
name and the suffix of pages. The index is one more file, which is no page. -/

namespace ComponentBook

/-- A directory of pages and the name of the index file in it. -/
structure PageDirectory where
  directory : Path
  indexName : Text
  deriving DecidableEq, Repr

namespace PageDirectory

/-- The file of the page with a name. -/
def pathOf (s : PageDirectory) (name : Text) : Path := s.directory.child (name ++ pageSuffix)

/-- The file of the index. -/
def indexPath (s : PageDirectory) : Path := s.directory.child s.indexName

/-- The page that is kept under a name; none when there is no such file. -/
def page? (s : PageDirectory) (d : Disk) (name : Text) : Except Disk.Failure (Option Text) :=
  match d.read (s.pathOf name) with
  | .ok t => .ok (some t)
  | .error (.fault .missing _) => .ok none
  | .error e => .error e

/-- A page saved under a name. -/
def save (s : PageDirectory) (d : Disk) (name page : Text) : Except Disk.Failure Unit × Disk :=
  d.writeWithDirectories (s.pathOf name) page

/-- The index saved. -/
def saveIndex (s : PageDirectory) (d : Disk) (index : Text) : Except Disk.Failure Unit × Disk :=
  d.writeWithDirectories s.indexPath index

/-- The names of the pages, in ascending order: the files of the directory with the suffix of pages,
apart from the index. -/
def names (s : PageDirectory) (d : Disk) : Except Disk.Failure (List Text) := do
  if !(← d.isDirectory s.directory) then return []
  let pattern ← Disk.PathPattern.ofText ('*' :: pageSuffix)
  let files := (d.select pattern s.directory).filter d.isFileAt
  return Text.sorted ((files.filter fun p => p.name ≠ s.indexName).map Path.stem)

end PageDirectory

end ComponentBook
