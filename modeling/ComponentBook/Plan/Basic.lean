import ComponentBook.Failure
import ComponentBook.Log.Record

/-! # Plans

What the program does is a **`Plan`**: a value at once, or a request to the surroundings and, for
each answer, a further plan. Plans say nothing about how a request is answered, so the same plan
runs on a disk, on pages in memory, or between the steps of another plan. **`Plan.run`** runs a
plan with a way of answering; the run of one plan after another is one run after the other
(`run_bind`). -/

namespace ComponentBook

/-- What became of a pause. -/
inductive Wake where
  | resumed
  | interrupted
  deriving DecidableEq, Repr

/-- A source and what tells a change of it: its size and the time of its last write. -/
abbrev Signature := Path × Nat × Int

/-- What a plan asks of its surroundings. -/
inductive Request where
  /-- The text of a source. -/
  | readSource (path : Path)
  /-- The page of a name. -/
  | readPage (name : Text)
  /-- A page to be kept under a name. -/
  | savePage (name page : Text)
  /-- The names of all pages. -/
  | pageNames
  /-- The index to be kept. -/
  | saveIndex (page : Text)
  /-- The text of the index template. -/
  | indexTemplate
  /-- The component sources below a directory. -/
  | sources (directory : Path) (extension : Text)
  /-- The source of the component with a name. -/
  | findSource (directory : Path) (name extension : Text)
  /-- The component sources below a directory, with their signatures. -/
  | survey (directory : Path) (extension : Text)
  /-- Whether a path leads to a file. -/
  | isFile (path : Path)
  /-- Whether a directory is a repository. -/
  | isRepository (root : Path)
  /-- The directory from which relative paths start. -/
  | workingDirectory
  /-- A git command, given in a directory. -/
  | git (directory : Path) (command : Git.Command)
  /-- Something to be told in the log. -/
  | log (record : Log.Record)
  /-- Some seconds to wait. -/
  | pause (seconds : Double)

/-- The answers to a request. -/
def Request.Answer : Request → Type
  | .readSource _ => Except Failure Text
  | .readPage _ => Except Failure (Option Text)
  | .savePage .. => Except Failure (Option Path)
  | .pageNames => Except Failure (List Text)
  | .saveIndex _ => Except Failure (Option Path)
  | .indexTemplate => Except Failure Text
  | .sources .. => Except Failure (List Path)
  | .findSource .. => Except Failure (Option Path)
  | .survey .. => Except Failure (List Signature)
  | .isFile _ => Except Failure Bool
  | .isRepository _ => Except Failure Bool
  | .workingDirectory => Path
  | .git .. => Except Git.Cause Text
  | .log _ => Unit
  | .pause _ => Wake

/-- A plan for a value. -/
inductive Plan (α : Type) where
  /-- Nothing is left to do. -/
  | done (value : α)
  /-- A request, and what to do for each answer. -/
  | ask (request : Request) (next : request.Answer → Plan α)

namespace Plan

/-- A plan, and after it the plan that its value gives. -/
def bind {α β : Type} : Plan α → (α → Plan β) → Plan β
  | .done a, f => f a
  | .ask r next, f => .ask r fun answer => (next answer).bind f

instance : Monad Plan where
  pure := .done
  bind := bind

/-- The plan that asks for one thing. -/
def request (r : Request) : Plan r.Answer := .ask r .done

/-- A way of answering requests in surroundings that change with each answer. -/
abbrev Respond (σ : Type) := (r : Request) → σ → r.Answer × σ

/-- The value of a plan and the surroundings after it. -/
def run {σ α : Type} (respond : Respond σ) : Plan α → σ → α × σ
  | .done a, s => (a, s)
  | .ask r next, s =>
    let (answer, s) := respond r s
    (next answer).run respond s

@[simp] theorem run_pure {σ α : Type} (respond : Respond σ) (a : α) (s : σ) :
    (pure a : Plan α).run respond s = (a, s) := rfl

@[simp] theorem run_request {σ : Type} (respond : Respond σ) (r : Request) (s : σ) :
    (request r).run respond s = respond r s := rfl

/-- A plan after a plan runs in the surroundings that the first one leaves. -/
@[simp] theorem run_bind {σ α β : Type} (respond : Respond σ) (p : Plan α) (f : α → Plan β) (s : σ) :
    (p >>= f).run respond s =
      (f (p.run respond s).1).run respond (p.run respond s).2 := by
  change (p.bind f).run respond s = _
  induction p generalizing s with
  | done a => rfl
  | ask r next ih => exact ih (respond r s).1 (respond r s).2

instance : LawfulMonad Plan := LawfulMonad.mk' Plan
  (by
    intro α p
    change p.bind (fun a => .done a) = p
    induction p with
    | done a => rfl
    | ask r next ih => exact congrArg (Plan.ask r) (funext ih))
  (fun _ _ => rfl)
  (by
    intro α β γ p f g
    change (p.bind f).bind g = p.bind fun a => (f a).bind g
    induction p with
    | done a => rfl
    | ask r next ih => exact congrArg (Plan.ask r) (funext ih))

/-- A plan for each of a list, one after another, and the list of their values. -/
def forEach {α β : Type} (f : α → Plan β) : List α → Plan (List β)
  | [] => pure []
  | a :: as => do
    let b ← f a
    return b :: (← forEach f as)

/-- A record of the part of the program with a name, told in the log. -/
def tell (level : Log.Level) (part : String) (message : Text) : Plan Unit :=
  request (.log (.of level part message))

end Plan

end ComponentBook
