import ComponentBook.Disk.Change
import ComponentBook.Plan.Basic
import ComponentBook.Source.Listing

/-! # Changes between two looks

A look at the sources lists them with their signatures (**`surveySources`**). Between two looks a
source has changed when it is new or has another signature than before (**`changedSources`**);
sources that are gone are not told. A **`Watcher`** keeps what it has seen in its last look, and each
**`Watcher.poll`** tells what has changed since. Polls between rounds of changes go on until one of them
fails (**`Watcher.run`**). -/

namespace ComponentBook

/-- The signature of a file. -/
def File.signature (f : File) : Nat × Int := (f.content.size, f.modified)

/-- The component sources below a directory, in ascending order, with their signatures. -/
def surveySources (d : Disk) (directory : Path) (extension : Text) :
    Except Disk.Failure (List Signature) := do
  let files ← sourceFiles d directory extension
  return files.filterMap fun p =>
    match d.file p with
    | .ok f => some (p, f.signature)
    | .error _ => none

/-- The sources of a look that are new or have another signature than in the look before. -/
def changedSources (before now : List Signature) : List Path :=
  (now.filter fun (p, signature) => before.lookup p != some signature).map (·.1)

/-- A source has changed exactly when it is listed now with a signature that it did not have
before. -/
theorem mem_changedSources {before now : List Signature} {p : Path} :
    p ∈ changedSources before now ↔
      ∃ signature, (p, signature) ∈ now ∧ before.lookup p ≠ some signature := by
  simp [changedSources]

/-- A watcher: where it looks, and what it has seen there. -/
structure Watcher where
  directory : Path
  extension : Text
  seen : List Signature
  deriving DecidableEq

namespace Watcher

/-- A watcher that has looked for the first time. -/
def start (d : Disk) (directory : Path) (extension : Text) : Except Disk.Failure Watcher := do
  return { directory, extension, seen := ← surveySources d directory extension }

/-- What a look tells, and the watcher after it. A look that fails leaves the watcher as it is. -/
def poll (w : Watcher) (d : Disk) : Except Disk.Failure (List Path) × Watcher :=
  match surveySources d w.directory w.extension with
  | .ok now => (.ok (changedSources w.seen now), { w with seen := now })
  | .error failure => (.error failure, w)

/-- What the polls tell when there is one after each round of changes, whatever becomes of it. -/
def polls (w : Watcher) (d : Disk) :
    List (List Disk.Change) → List (Except Disk.Failure (List Path))
  | [] => []
  | round :: rounds =>
    let now := d.changes round
    (w.poll now).1 :: (w.poll now).2.polls now rounds

/-- What the polls tell when there is one after each round of changes and the first one that fails is the
last. -/
def run (w : Watcher) (d : Disk) : List (List Disk.Change) → Except Disk.Failure (List (List Path))
  | [] => .ok []
  | round :: rounds =>
    let now := d.changes round
    match w.poll now with
    | (.error failure, _) => .error failure
    | (.ok changed, w) => (w.run now rounds).map (changed :: ·)

end Watcher

end ComponentBook
