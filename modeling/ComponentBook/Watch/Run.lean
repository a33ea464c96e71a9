import ComponentBook.Batch.Run
import ComponentBook.Watch.Changes

/-! # Watching

Watching looks at the sources again and again, with a pause before each look, and documents every
source that has changed (**`watch`**). It ends after a given number of looks, or when a pause is
interrupted. -/

namespace ComponentBook

/-- Each changed source told and documented, without staging. -/
def documentChanges (s : Settings) : List Path → ExceptT Failure Plan Unit
  | [] => pure ()
  | path :: paths => do
    Plan.tell .info "watch" ("File changed: ".toList ++ path.text)
    -- a run for each source, so that the index is rebuilt after every one
    let _ ← Batch.run s [path] (some false)
    documentChanges s paths

/-- So many looks at the sources, the last look being `before`. -/
def watchFrom (s : Settings) (seconds : Double) (before : List Signature) :
    (looks : Nat) → ExceptT Failure Plan Wake
  | 0 => return .resumed
  | looks + 1 => do
    match ← Plan.request (.pause seconds) with
    | .interrupted => return .interrupted
    | .resumed =>
      let now ← ExceptT.mk (Plan.request (.survey s.componentsDirectory s.extension))
      documentChanges s (changedSources before now)
      watchFrom s seconds now looks

/-- The seconds between two looks: those given, unless they are zero, else those of the settings. -/
def watchInterval (s : Settings) (given : Option Double) : Double :=
  (given.filter (!·.isZero)).getD s.interval

/-- So many looks at the sources of a project. -/
def watch (s : Settings) (interval : Option Double) (looks : Nat) : ExceptT Failure Plan Wake := do
  let before ← ExceptT.mk (Plan.request (.survey s.componentsDirectory s.extension))
  Plan.tell .info "watch" ("Watching ".toList ++ s.componentsDirectory.text ++ " for *".toList ++
    s.extension ++ " changes".toList)
  watchFrom s (watchInterval s interval) before looks

end ComponentBook
