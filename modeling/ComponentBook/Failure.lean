import ComponentBook.Git.Staging
import ComponentBook.Index.Page
import ComponentBook.Json.Writing
import ComponentBook.Settings.Basic
import ComponentBook.Yaml.Fault

/-! # Failures

**`Failure`** gathers every cause for which a run, or a part of it, comes to nothing, and
**`Failure.message`** gives the wording of each. A failure is *expected* when the program reports it
as a problem of the project and not of the program. -/

namespace ComponentBook

/-- A path that the program cannot do without. -/
inductive NeededPath where
  /-- The directory of the project. -/
  | root
  /-- The file for the log. -/
  | logFile
  deriving DecidableEq, Repr

/-- The text about a path that is asked for and withheld. -/
def NeededPath.message : NeededPath → Text
  | .root => "expected str, bytes or os.PathLike object, not list".toList
  | .logFile => "'list' object has no attribute 'parent'".toList

/-- Why something cannot be done. -/
inductive Failure where
  /-- A file cannot be read or written. -/
  | disk (cause : Disk.Failure)
  /-- A git command failed. -/
  | git (cause : Git.Failure)
  /-- The index cannot be written. -/
  | index (cause : IndexError)
  /-- The settings cannot be used. -/
  | settings (cause : SettingsError)
  /-- A value of the settings cannot be made. -/
  | value (cause : Yaml.Fault)
  /-- There is no component with the name. -/
  | noComponent (name : Text) (directory : Text)
  /-- An answer cannot be written. -/
  | unwritable (cause : Json.WriteFault)
  /-- A path is asked for and withheld. -/
  | withheld (path : NeededPath)
  deriving DecidableEq, Repr

/-- The parts of the text about a component that is not there, around its name. -/
def notFoundParts (directory : Text) : Text × Text :=
  ("Component not found: ".toList, if directory.isEmpty then [] else " under ".toList ++ directory)

/-- The text of a failure. -/
def Failure.message : Failure → Text
  | .disk cause => cause.message
  | .git cause => cause.message
  | .index cause => cause.message
  | .settings cause => cause.message
  | .value cause => cause.message
  | .unwritable cause => cause.message
  | .withheld path => path.message
  | .noComponent name directory =>
    let (front, behind) := notFoundParts directory
    front ++ name ++ behind

/-- The failure is a problem of the project. -/
def Failure.isExpected : Failure → Bool
  | .git _ | .settings _ | .noComponent .. => true
  | .disk _ | .index _ | .value _ | .unwritable _ | .withheld _ => false

end ComponentBook
