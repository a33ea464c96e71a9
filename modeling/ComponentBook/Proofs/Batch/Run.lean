import ComponentBook.Proofs.Batch.Document
import ComponentBook.World.Opening

/-! # A run and what it changes

A run documents its sources one after another, rebuilds the index and may stage what it has written.
**`rebuildIndex_cases`** says all that rebuilding the index can do; staging and the records around it
write no text (**`runs_run`**), so everything that a run changes is changed by its two first parts. A
report is missing only when all has been written and the repository cannot be looked for. -/

namespace ComponentBook.Batch

open World (Rewrites)

variable {s : Settings} {w : World}

/-! ## One plan after another -/

theorem run_forEach_cons {α β : Type} (w : World) (f : α → Plan β) (a : α) (as : List α) :
    w.run (Plan.forEach f (a :: as)) =
      ((w.run (f a)).1 :: ((w.run (f a)).2.run (Plan.forEach f as)).1,
        ((w.run (f a)).2.run (Plan.forEach f as)).2) := by
  rw [Plan.forEach, World.run_bind, World.run_bind]
  rfl

/-! ## The index -/

/-- Pages are read in the surroundings as they are, one for each name. -/
theorem attempt_readPages (w : World) (names : List Text) :
    ∃ outcome, w.attempt (readPages names) = (outcome, w) ∧
      ∀ pages, outcome = .ok pages → pages.map Prod.fst = names := by
  induction names with
  | nil =>
    refine ⟨.ok [], rfl, ?_⟩
    rintro _ ⟨⟩
    rfl
  | cons name names ih =>
    obtain ⟨outcome, houtcome, hnames⟩ := ih
    rw [readPages, World.attempt_bind]
    show ∃ o, World.proceed _ (w.readPage name, w) = _ ∧ _
    rcases w.readPage name with e | page
    · exact ⟨.error e, rfl, nofun⟩
    · rw [World.proceed_ok, World.attempt_bind, houtcome]
      cases outcome with
      | error e => exact ⟨.error e, rfl, nofun⟩
      | ok pages =>
        refine ⟨.ok ((name, page.getD []) :: pages), rfl, ?_⟩
        rintro _ ⟨⟩
        rw [List.map_cons, hnames pages rfl]

/-- How the index is written: the names and the texts of the pages are read, and an index made of
them is saved. -/
structure WritesIndex (s : Settings) (w : World) (names : List Text) (pages : List (Text × Text))
    (index : Text) (saved : Option Path) (v : World) : Prop where
  run : w.run (rebuildIndex s) = ((saved, none), v)
  pageNames : w.pageNames = .ok names
  readPages : w.attempt (readPages names) = (.ok pages, w)
  indexPage : ∃ template, w.indexTemplate.1 = .ok template ∧
    indexPage s.locale categoryRules template pages = .ok index
  save : ∃ u u', Rewrites [] w u ∧ Rewrites [] u' v ∧ u.saveIndex index = (.ok saved, u')

/-- The index as the surroundings give it: the pages are read, then the template, and the index is
saved. -/
theorem attempt_writeIndex (w : World) (s : Settings) :
    w.attempt (writeIndex s) =
      match w.pageNames with
      | .error e => (.error e, w)
      | .ok names =>
        match (w.attempt (readPages names)).1 with
        | .error e => (.error e, w)
        | .ok pages =>
          match w.indexTemplate with
          | (.error e, v) => (.error e, v)
          | (.ok template, v) =>
            match indexPage s.locale categoryRules template pages with
            | .error e => (.error (.index e), v)
            | .ok index => v.saveIndex index := by
  rw [writeIndex, World.attempt_bind]
  show World.proceed _ (w.pageNames, w) = _
  rcases w.pageNames with e | names
  · rfl
  · obtain ⟨outcome, houtcome, -⟩ := attempt_readPages w names
    dsimp only
    rw [World.proceed_ok, World.attempt_bind, houtcome]
    cases outcome with
    | error e => rfl
    | ok pages =>
      rw [World.proceed_ok, World.attempt_bind]
      show World.proceed _ w.indexTemplate = _
      rcases w.indexTemplate with ⟨e | template, v⟩
      · rfl
      · dsimp only
        rw [World.proceed_ok]
        rcases indexPage s.locale categoryRules template pages with e | index <;> rfl

theorem run_rebuildIndex (w : World) (s : Settings) :
    w.run (rebuildIndex s) =
      match w.attempt (writeIndex s) with
      | (.error e, v) => ((none, some e.message),
          v.tell (.of .error part ("Failed to build component index: ".toList ++ e.message)))
      | (.ok path, v) => ((path, none),
          v.tell (.of .info part ("Component index regenerated".toList ++
            (path.map fun p => " at ".toList ++ p.text).getD []))) := by
  rw [rebuildIndex, World.run_bind]
  show World.run _ _ = _
  rw [World.attempt]
  rcases w.run (writeIndex s).run with ⟨_ | _, v⟩ <;> rfl

/-- The index is written, or no text is written and the outcome tells of a failure. -/
theorem rebuildIndex_cases (w : World) (s : Settings) :
    (∃ e v, w.run (rebuildIndex s) = ((none, some e), v) ∧ Rewrites [] w v) ∨
      ∃ names pages index saved v, WritesIndex s w names pages index saved v := by
  have hrun := run_rebuildIndex w s
  rw [attempt_writeIndex] at hrun
  -- a request that fails ends the plan, and only the last one writes
  rcases hnames : w.pageNames with e | names
  · rw [hnames] at hrun
    exact .inl ⟨_, _, hrun, w.rewrites_tell _⟩
  rw [hnames] at hrun
  dsimp only at hrun
  obtain ⟨outcome, houtcome, -⟩ := attempt_readPages w names
  rw [houtcome] at hrun
  cases outcome with
  | error e => exact .inl ⟨_, _, hrun, w.rewrites_tell _⟩
  | ok pages =>
    have hread := w.rewrites_indexTemplate
    dsimp only at hrun
    rcases htemplate : w.indexTemplate with ⟨e | template, u⟩
    · rw [htemplate] at hrun hread
      exact .inl ⟨_, _, hrun, hread.trans (u.rewrites_tell _)⟩
    rw [htemplate] at hrun hread
    dsimp only at hrun
    rcases hindex : indexPage s.locale categoryRules template pages with e | index
    · rw [hindex] at hrun
      exact .inl ⟨_, _, hrun, hread.trans (u.rewrites_tell _)⟩
    rw [hindex] at hrun
    dsimp only at hrun
    rcases hsave : u.saveIndex index with ⟨e | saved, u'⟩
    · rw [hsave] at hrun
      exact .inl ⟨_, _, hrun,
        hread.trans ((World.rewrites_of_saveIndex_error hsave).trans (u'.rewrites_tell _))⟩
    · rw [hsave] at hrun
      exact .inr ⟨names, pages, index, saved, _, hrun, hnames, houtcome,
        ⟨template, by rw [htemplate], hindex⟩, ⟨u, u', hread, u'.rewrites_tell _, hsave⟩⟩

/-! ## Staging -/

/-- The command that stages files. -/
def stagingCommand (w : World) (root : Path) (files : List Path) : Git.Command :=
  Git.addFiles (files.map (Git.nameInRepository w.here root))

theorem attempt_stage (w : World) (root : Path) (files : List Path) :
    w.attempt (stage root files) =
      match w.isRepository root with
      | .error e => (.error e, w)
      | .ok false => (.ok (.ok false), w.tell (.of .debug "git" ("Skipping staging; ".toList ++
          root.text ++ " is not a Git repository".toList)))
      | .ok true =>
        if files.isEmpty then (.ok (.ok false), w)
        else
          match w.answerGit root (stagingCommand w root files) with
          | (.error cause, v) =>
            (.ok (.error { command := stagingCommand w root files, cause }), v)
          | (.ok _, v) => (.ok (.ok true), v.tell (.of .info "git" ("Staged ".toList ++
              Text.decimal files.length ++ " documentation file(s)".toList))) := by
  rw [stage, World.attempt_bind]
  show World.proceed _ (w.isRepository root, w) = _
  rcases w.isRepository root with e | _ | _
  · rfl
  · rfl
  · cases files with
    | nil => rfl
    | cons file files =>
      rw [stagingCommand, World.here]
      show World.attempt w (liftM (Plan.request (.git root (Git.addFiles _))) >>= _) = _
      -- which command it is does not matter from here on
      generalize Git.addFiles _ = command
      rw [World.attempt_bind, World.attempt_liftM, World.proceed_ok]
      dsimp only [World.run_request, World.respond]
      rcases w.answerGit root command with ⟨_ | _, v⟩ <;> rfl

/-- Staging writes no text. -/
theorem rewrites_stage (w : World) (root : Path) (files : List Path) :
    Rewrites [] w (w.attempt (stage root files)).2 := by
  rw [attempt_stage]
  split
  · exact Rewrites.refl w
  · exact w.rewrites_tell _
  · split
    · exact Rewrites.refl w
    · have hgit := w.rewrites_answerGit root (stagingCommand w root files)
      rcases hanswer : w.answerGit root (stagingCommand w root files) with ⟨_ | _, v⟩
      · rw [hanswer] at hgit
        exact hgit
      · rw [hanswer] at hgit
        exact hgit.trans (v.rewrites_tell _)

/-! ## The whole run -/

/-- The reports of the sources of a run. -/
def sourceReports (s : Settings) (w : World) (paths : List Path) : List FileReport :=
  (w.run (Plan.forEach (documentFile s) paths)).1

/-- What a run has written when it comes to staging: the reports of its sources, and the index. -/
structure Written where
  reports : List FileReport
  indexPath : Option Path
  indexError : Option Text

/-- Every page has been written, and the index. -/
def Written.IsComplete (done : Written) : Prop :=
  (∀ r ∈ done.reports, r.success = true) ∧ done.indexError = none

theorem Written.isComplete_iff {done : Written} :
    (done.reports.all (·.success) && done.indexError.isNone) = true ↔ done.IsComplete := by
  rw [Bool.and_eq_true, List.all_eq_true, Option.isNone_iff_eq_none, IsComplete]

/-- The files that have been written. -/
def Written.files (done : Written) : List Path := writtenFiles done.reports done.indexPath

/-- A report says what has been written. -/
structure Written.ToldBy (done : Written) (report : BatchReport) : Prop where
  results : report.results = done.reports
  indexPath : report.indexPath = done.indexPath
  indexError : report.indexError = done.indexError

/-- A run documents its sources and rebuilds the index; what it does then writes no text. Its report
says what has been written, and it tells of success only when that is everything. There is no report only
when everything has been written and something else has failed. -/
structure Runs (s : Settings) (paths : List Path) (w u u' : World) (done : Written)
    (outcome : Except Failure BatchReport) (v : World) : Prop where
  documents : w.run (Plan.forEach (documentFile s) paths) = (done.reports, u)
  index : u.run (rebuildIndex s) = ((done.indexPath, done.indexError), u')
  rest : Rewrites [] u' v
  told : ∀ report, outcome = .ok report → done.ToldBy report
  success : ∀ report, outcome = .ok report → report.success = true → done.IsComplete
  fails : ∀ e, outcome = .error e → done.IsComplete

namespace Runs

variable {paths : List Path} {w u u' v : World} {done : Written}
  {outcome : Except Failure BatchReport} (h : Runs s paths w u u' done outcome v)
include h

theorem reports_eq : done.reports = sourceReports s w paths := (congrArg Prod.fst h.documents).symm

/-- No report tells of a failure of the index exactly when the index has been written. -/
theorem indexError_iff :
    (∀ report, outcome = .ok report → report.indexError = none) ↔ done.indexError = none := by
  constructor
  · intro hnone
    rcases outcome with e | report
    · exact (h.fails e rfl).2
    · rw [← (h.told report rfl).indexError]
      exact hnone report rfl
  · intro hnone report hreport
    rw [(h.told report hreport).indexError, hnone]

end Runs

/-- The end of a run: its report, after a warning if something has failed. -/
def conclude (success : Bool) (results : List FileReport) (message : Text)
    (indexPath : Option Path) (indexError : Option Text) : ExceptT Failure Plan BatchReport := do
  if !success then Plan.tell .warning part (message ++ " with failures".toList)
  return { success, results, message, indexPath, indexError }

/-- A run ends with its report, and the warning writes no text. -/
theorem attempt_conclude (w : World) (success : Bool) (results : List FileReport) (message : Text)
    (indexPath : Option Path) (indexError : Option Text) :
    w.attempt (conclude success results message indexPath indexError) =
      (.ok { success, results, message, indexPath, indexError },
        if success then w
        else w.tell (.of .warning part (message ++ " with failures".toList))) := by
  cases success <;> rfl

variable {paths : List Path} {u u' v : World} {done : Written}

theorem runs_conclude (hdocuments : w.run (Plan.forEach (documentFile s) paths) = (done.reports, u))
    (hindex : u.run (rebuildIndex s) = ((done.indexPath, done.indexError), u'))
    (hrest : Rewrites [] u' v) (success : Bool)
    (hsuccess : success = true → (done.reports.all (·.success) && done.indexError.isNone) = true)
    (message : Text) :
    Runs s paths w u u' done
      (v.attempt (conclude success done.reports message done.indexPath done.indexError)).1
      (v.attempt (conclude success done.reports message done.indexPath done.indexError)).2 := by
  rw [attempt_conclude]
  refine ⟨hdocuments, hindex, ?_, ?_, ?_, nofun⟩
  · cases success with
    | false => exact hrest.trans (v.rewrites_tell _)
    | true => exact hrest
  · rintro _ ⟨⟩
    exact ⟨rfl, rfl, rfl⟩
  · rintro _ ⟨⟩ hall
    exact Written.isComplete_iff.1 (hsuccess hall)

theorem runs_run (w : World) (s : Settings) (paths : List Path) (staging : Option Bool) :
    ∃ u u' done, Runs s paths w u u' done (w.attempt (run s paths staging)).1
      (w.attempt (run s paths staging)).2 := by
  rcases hdocuments : w.run (Plan.forEach (documentFile s) paths) with ⟨reports, u⟩
  rcases hindex : u.run (rebuildIndex s) with ⟨⟨indexPath, indexError⟩, u'⟩
  refine ⟨u, u', ⟨reports, indexPath, indexError⟩, ?_⟩
  rw [run, World.attempt_bind, World.attempt_liftM, hdocuments, World.proceed_ok,
    World.attempt_bind, World.attempt_liftM, hindex, World.proceed_ok]
  dsimp only
  split
  · next hwanted =>
    -- staging is tried only when everything has succeeded so far, and it can still fail
    have hstage := rewrites_stage u' s.root (writtenFiles reports indexPath)
    rw [World.attempt_bind]
    rcases hstaged : u'.attempt (stage s.root (writtenFiles reports indexPath))
      with ⟨e | e | staged, v⟩
    · rw [hstaged] at hstage
      exact ⟨hdocuments, hindex, hstage, nofun, nofun,
        fun _ _ => Written.isComplete_iff.1 (Bool.and_eq_true_iff.1 hwanted).1⟩
    · rw [hstaged] at hstage
      exact runs_conclude hdocuments hindex (hstage.trans (v.rewrites_tell _)) false nofun _
    · rw [hstaged] at hstage
      exact runs_conclude hdocuments hindex hstage _ id _
  · exact runs_conclude hdocuments hindex (Rewrites.refl u') _ id _

/-- A run that is not to stage anything gives its report. -/
theorem exists_attempt_run_eq_ok (w : World) (paths : List Path) (staging : Option Bool)
    (h : staging.getD s.stagePages = false) :
    ∃ report v, w.attempt (run s paths staging) = (.ok report, v) := by
  rcases hdocuments : w.run (Plan.forEach (documentFile s) paths) with ⟨reports, u⟩
  rcases hindex : u.run (rebuildIndex s) with ⟨⟨indexPath, indexError⟩, u'⟩
  rw [run, World.attempt_bind, World.attempt_liftM, hdocuments, World.proceed_ok,
    World.attempt_bind, World.attempt_liftM, hindex, World.proceed_ok]
  dsimp only
  rw [h, Bool.and_false, if_neg Bool.false_ne_true]
  exact ⟨_, _, attempt_conclude u' _ reports _ indexPath indexError⟩

end ComponentBook.Batch
