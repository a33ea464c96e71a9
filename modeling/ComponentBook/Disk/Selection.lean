import ComponentBook.Disk.Basic
import ComponentBook.Disk.Pattern

/-! # Selecting paths

**`Disk.select`** gives the paths at and below a path that a pattern stands for. The paths start with
the path they are looked for at, as it is written. -/

namespace ComponentBook.Disk

/-- The path leads to a directory. -/
def isDirectoryAt (d : Disk) (p : Path) : Bool :=
  match d.find p with
  | .ok l => d.entryAt? l = some .directory
  | .error _ => false

/-- The path leads to a file. -/
def isFileAt (d : Disk) (p : Path) : Bool :=
  match d.find p with
  | .ok l => isFileEntry (d.entryAt? l)
  | .error _ => false

/-- The names, from a path on, of everything below it. -/
def namesBelow (d : Disk) (p : Path) : List (List Text) :=
  match d.find p with
  | .ok l =>
    d.entries.filterMap fun e =>
      if l.isPrefixOf e.1 ∧ e.1 ≠ l then some (e.1.drop l.length) else none
  | .error _ => []

/-- `p` with further names. -/
def extend (p : Path) (names : List Text) : Path := { p with names := p.names ++ names }

/-- The paths that a pattern stands for from `p` on. -/
def select (d : Disk) : PathPattern → Path → List Path
  | [], p => [p]
  | .slash :: _, p => [p]
  | .anyDepth :: steps, p =>
    -- a path may be reached through several directories, and is listed once
    (((p :: (d.namesBelow p).map (extend p)).filter d.isDirectoryAt).flatMap
      (d.select steps)).eraseDups
  | .name pattern :: steps, p =>
    let reached := (d.namesBelow p).filterMap fun names =>
      match names with
      | [name] => if pattern.accepts name then some (extend p [name]) else none
      | _ => none
    (if steps.isEmpty then reached else reached.filter d.isDirectoryAt).flatMap (d.select steps)
  | .exactly name :: steps, p =>
    let reached := extend p [name]
    if d.isDirectoryAt reached || steps.isEmpty && d.isFileAt reached then d.select steps reached
    else []

end ComponentBook.Disk
