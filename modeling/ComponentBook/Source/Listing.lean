import ComponentBook.Disk.Selection
import ComponentBook.Text.Basic

/-! # Component sources

The component sources of a directory are the files below it whose names end with the extension,
without those in directories that hold no sources of their own (**`sourceFiles`**). A component is
found by its name (**`findSource`**): by the path that the name and the extension make, else as the
first listed file with that stem. -/

namespace ComponentBook

/-- Directories whose files are not component sources. -/
def excludedDirectories : List Text :=
  ["node_modules".toList, ".git".toList, "__tests__".toList, "dist".toList]

/-- A file at these names below the directory of sources lies in an excluded directory. -/
def isExcluded (names : List Text) : Bool := names.dropLast.any (excludedDirectories.contains ·)

/-- The component sources below a directory, in ascending order. -/
def sourceFiles (d : Disk) (directory : Path) (extension : Text) :
    Except Disk.Failure (List Path) := do
  if !(← d.isDirectory directory) then return []
  let pattern ← Disk.PathPattern.ofText ('*' :: extension)
  let files := (d.select (.anyDepth :: pattern) directory).filter d.isFileAt
  return Path.sorted (files.filter fun p => !isExcluded (p.names.drop directory.names.length))

/-- The source of the component with a name, if there is one. -/
def findSource (d : Disk) (directory : Path) (name extension : Text) :
    Except Disk.Failure (Option Path) := do
  let direct := directory.child (name ++ extension)
  -- the directories that are left out of the listing are not left out here
  if ← d.isFile direct then return some direct
  return (← sourceFiles d directory extension).find? fun p => p.stem = name

end ComponentBook
