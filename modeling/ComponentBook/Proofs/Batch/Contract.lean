import Mathlib.Data.List.Forall2
import ComponentBook.Proofs.Batch.Turns
import ComponentBook.Proofs.Git.Naming

/-! # The contract of a run

What a run promises, whatever is answered to it (**`contract_of_attempts`**): every source has its turn
and its report; then the index is rebuilt once (**`Rebuilds`**); then the written files are staged by one
command, when all has gone well and staging is wanted (**`Stages`**). The run succeeds when all has been
written and git has not failed (**`Returns`**). It ends without a report when the repository cannot be
looked for, and in no other way (**`Breaks`**).

Every source and the index have their turn, whatever has become of the sources in front, but a turn need
not go well: the directories of a page are made before it is written, and may stand in the place of what
is written later (**`run_without_report_and_run_without_index`**). -/

namespace ComponentBook.Batch

open Plan (Attempts)

variable {s : Settings} {u v w : World} {path : Path} {paths : List Path} {staging : Option Bool}
  {x : Exchange} {xs : List Exchange} {done : Written} {outcome : Except Failure BatchReport}

/-! ## The turn of the index -/

/-- The index is rebuilt: the pages are listed once, and the index is saved once if the outcome tells of
no failure. Only pages that are there and the index are concerned. -/
structure Rebuilds (s : Settings) (w : World) (outcome : Option Path × Option Text)
    (xs : List Exchange) (v : World) : Prop where
  admits : (rebuildIndex s).Admits xs outcome
  converses : w.Converses xs v
  listed : xs.countP (·.listsPages) = 1
  saved : xs.countP (·.savesIndex) = if outcome.2 = none then 1 else 0
  file : ∀ p, outcome.1 = some p → ∃ index, (⟨.saveIndex index, .ok (some p)⟩ : Exchange) ∈ xs
  concern : ∀ x ∈ xs, x.concern ∈ [.record, .page, .index]

theorem countP_reads {names : List Text} {outcome : Except Failure (List (Text × Text))}
    (h : Attempts (readPages names) xs outcome) :
    xs.countP (·.listsPages) = 0 ∧ xs.countP (·.savesIndex) = 0 := by
  constructor
  · refine List.countP_eq_zero.2 fun x hx => ?_
    obtain ⟨name, answer, rfl⟩ := mem_of_attempts_readPages h hx
    exact Bool.false_ne_true
  · refine List.countP_eq_zero.2 fun x hx => ?_
    obtain ⟨name, answer, rfl⟩ := mem_of_attempts_readPages h hx
    exact Bool.false_ne_true

namespace IndexTalk

variable {outcome : Except Failure (Option Path)}

theorem countP_listsPages (h : IndexTalk s xs outcome) : xs.countP (·.listsPages) = 1 := by
  obtain ⟨answer, tail, rfl, htail⟩ := h.exists_eq_cons
  have hnone : tail.countP (·.listsPages) = 0 := by
    refine List.countP_eq_zero.2 fun x hx => ?_
    rcases htail x hx with ⟨name, answer, rfl⟩ | ⟨answer, rfl⟩ | ⟨index, answer, rfl⟩
    · exact Bool.false_ne_true
    · exact Bool.false_ne_true
    · exact Bool.false_ne_true
  rw [List.countP_cons, hnone]
  rfl

theorem countP_savesIndex (h : IndexTalk s xs outcome) :
    xs.countP (·.savesIndex) = if (indexReportOf outcome).2 = none then 1 else 0 := by
  cases h with
  | unlisted e => rfl
  | unread names reads e hreads =>
    rw [List.countP_cons, (countP_reads hreads).2]
    rfl
  | untemplated names reads pages e hreads =>
    rw [List.countP_append, List.countP_cons, (countP_reads hreads).2]
    rfl
  | unmade names reads pages template e hreads =>
    rw [List.countP_append, List.countP_cons, (countP_reads hreads).2]
    rfl
  | saved names reads pages template index outcome hreads =>
    rw [List.countP_append, List.countP_cons, (countP_reads hreads).2]
    rcases outcome with e | file <;> rfl

theorem mem_of_file {file : Option Path} (h : IndexTalk s xs (.ok file)) :
    ∃ index, (⟨.saveIndex index, .ok file⟩ : Exchange) ∈ xs := by
  cases h with
  | saved names reads pages template index outcome =>
    exact ⟨index, List.mem_append_right _ (List.mem_cons_of_mem _ List.mem_cons_self)⟩

end IndexTalk

theorem rebuilds_of_admits {outcome : Option Path × Option Text}
    (h : (rebuildIndex s).Admits xs outcome) (hw : w.Converses xs v) : Rebuilds s w outcome xs v := by
  obtain ⟨ys, written, after, htalk, rfl, rfl⟩ := exists_of_admits_rebuildIndex h
  refine ⟨h, hw, ?_, ?_, fun p hp => ?_, concern_of_admits_rebuildIndex h⟩
  · rw [List.countP_append, htalk.countP_listsPages]
    rfl
  · rw [List.countP_append, htalk.countP_savesIndex]
    rfl
  · rcases written with e | file
    · cases hp
    · obtain rfl : file = some p := hp
      obtain ⟨index, hindex⟩ := htalk.mem_of_file
      exact ⟨index, List.mem_append_left _ hindex⟩

/-! ## Staging -/

/-- Files are to be staged: all has been written, staging is wanted, there is a repository, and there is
a file. -/
structure Stages (s : Settings) (staging : Option Bool) (done : Written) (w : World) : Prop where
  written : done.IsComplete
  wanted : staging.getD s.stagePages = true
  repository : w.isRepository s.root = .ok true
  files : done.files ≠ []

/-- The surroundings say whether a directory is a repository, and nothing is changed. -/
theorem eq_of_answers_isRepository {root : Path} {found : Bool}
    (h : w.Answers ⟨.isRepository root, .ok found⟩ v) : w.isRepository root = .ok found ∧ v = w := by
  rcases World.answers_iff.1 h with h | ⟨h, -⟩
  · obtain ⟨hfound, rfl⟩ := Prod.mk.inj h
    exact ⟨hfound, rfl⟩
  · cases h

theorem eq_of_answers_workingDirectory {here : Path}
    (h : w.Answers ⟨.workingDirectory, here⟩ v) : here = w.here ∧ v = w := by
  rcases World.answers_iff.1 h with h | ⟨h, -⟩
  · obtain ⟨rfl, rfl⟩ := Prod.mk.inj h
    exact ⟨rfl, rfl⟩
  · cases h

/-- The file of a page that has been saved has a path without the character that ends names. -/
theorem hasNul_of_answers_savePage {name page : Text} {p : Path}
    (h : w.Answers ⟨.savePage name page, .ok (some p)⟩ v) : Disk.hasNul p = false := by
  rcases World.answers_iff.1 h with h | ⟨h, -⟩
  · have hsave : w.savePage name page = (.ok (some p), v) := h
    cases hshelf : w.shelf with
    | memory pages =>
      rw [World.savePage, hshelf] at hsave
      cases (Prod.mk.inj hsave).1
    | directory pages =>
      obtain ⟨hfile, hsaves⟩ := World.savePage_eq_ok hshelf hsave
      obtain rfl := Option.some.inj hfile
      exact hsaves.hasNul
  · cases h

theorem hasNul_of_answers_saveIndex {index : Text} {p : Path}
    (h : w.Answers ⟨.saveIndex index, .ok (some p)⟩ v) : Disk.hasNul p = false := by
  rcases World.answers_iff.1 h with h | ⟨h, -⟩
  · have hsave : w.saveIndex index = (.ok (some p), v) := h
    cases hshelf : w.shelf with
    | memory pages =>
      rw [World.saveIndex, hshelf] at hsave
      cases (Prod.mk.inj hsave).1
    | directory pages =>
      obtain ⟨hfile, hsaves⟩ := World.saveIndex_eq_ok hshelf hsave
      obtain rfl := Option.some.inj hfile
      exact hsaves.hasNul
  · cases h

/-- The files that a run has written have paths without the character that ends names. -/
theorem hasNul_of_mem_files {files index : List Exchange} {u' : World}
    (hturns : Turns s w paths done.reports files u) (hw : w.Converses files u)
    (hindex : Rebuilds s u (done.indexPath, done.indexError) index u') {p : Path}
    (hp : p ∈ done.files) : Disk.hasNul p = false := by
  rcases List.mem_append.1 hp with hp | hp
  · obtain ⟨name, page, hmem⟩ := hturns.exists_savePage hp
    obtain ⟨_, _, hanswers⟩ := World.exists_answers_of_mem hw hmem
    exact hasNul_of_answers_savePage hanswers
  · obtain ⟨page, hmem⟩ := hindex.file p (Option.mem_toList.1 hp)
    obtain ⟨_, _, hanswers⟩ := World.exists_answers_of_mem hindex.converses hmem
    exact hasNul_of_answers_saveIndex hanswers

/-- A record fails at nothing that only what concerns a repository can fail at. -/
theorem forall_mem_told {p : Exchange → Bool} (hp : ∀ {x}, x.concern ≠ .repository → p x = false)
    {records : List Log.Record} : ∀ x ∈ told records, p x = false := by
  intro x hx
  refine hp ?_
  rw [concern_of_mem_told hx]
  decide

namespace StagingTalk

variable {root : Path} {files : List Path} {result : Except Git.Failure Bool}

/-- Staging fails by itself when the repository cannot be looked for, and then nothing else is asked. -/
theorem eq_singleton {e : Failure} (h : StagingTalk root files xs (.error e)) :
    xs = [⟨.isRepository root, .error e⟩] := by
  cases h
  rfl

theorem failsLook (h : StagingTalk root files xs (.ok result)) : ∀ x ∈ xs, x.failsLook = false := by
  have htold {after : List Log.Record} : ∀ x ∈ told after, x.failsLook = false :=
    forall_mem_told Exchange.failsLook_eq_false
  cases h with
  | foreign after => exact List.forall_mem_cons.2 ⟨rfl, htold⟩
  | idle here hnone => simp [Exchange.failsLook]
  | failed here cause hsome => simp [Exchange.failsLook]
  | staged here answer after hsome =>
    exact List.forall_mem_cons.2 ⟨rfl, List.forall_mem_cons.2 ⟨rfl,
      List.forall_mem_cons.2 ⟨rfl, htold⟩⟩⟩

/-- Git fails when a command does. -/
theorem exists_ok_iff (h : StagingTalk root files xs (.ok result)) :
    (∃ b, result = .ok b) ↔ ∀ x ∈ xs, x.failsCommand = false := by
  have htold {after : List Log.Record} : ∀ x ∈ told after, x.failsCommand = false :=
    forall_mem_told Exchange.failsCommand_eq_false
  cases h with
  | foreign after => exact ⟨fun _ => List.forall_mem_cons.2 ⟨rfl, htold⟩, fun _ => ⟨_, rfl⟩⟩
  | idle here hnone => simp [Exchange.failsCommand]
  | failed here cause hsome => simp [Exchange.failsCommand]
  | staged here answer after hsome =>
    refine ⟨fun _ => ?_, fun _ => ⟨_, rfl⟩⟩
    exact List.forall_mem_cons.2 ⟨rfl, List.forall_mem_cons.2 ⟨rfl,
      List.forall_mem_cons.2 ⟨rfl, htold⟩⟩⟩

/-- The files of a repository are staged by one command, if there are any. -/
theorem command? (h : StagingTalk root files xs (.ok result)) (hw : w.Converses xs v) :
    (w.isRepository root = .ok true ∧ files ≠ [] → xs.filterMap Exchange.command? =
      [(root, Git.addFiles (files.map (Git.nameInRepository w.here root)))]) ∧
    (¬ (w.isRepository root = .ok true ∧ files ≠ []) → xs.filterMap Exchange.command? = []) := by
  cases hw with
  | nil => nomatch h
  | cons first rest =>
    cases h with
    | foreign after =>
      obtain ⟨hfound, -⟩ := eq_of_answers_isRepository first
      refine ⟨fun h => ?_, fun _ => ?_⟩
      · rw [h.1] at hfound
        cases hfound
      · rw [List.filterMap_cons, command?_told]
        rfl
    | idle here hnone => exact ⟨fun h => absurd hnone h.2, fun _ => rfl⟩
    | failed here cause hsome =>
      obtain ⟨hfound, rfl⟩ := eq_of_answers_isRepository first
      cases rest with
      | cons second rest =>
        obtain ⟨rfl, rfl⟩ := eq_of_answers_workingDirectory second
        exact ⟨fun _ => rfl, fun h => absurd ⟨hfound, hsome⟩ h⟩
    | staged here answer after hsome =>
      obtain ⟨hfound, rfl⟩ := eq_of_answers_isRepository first
      cases rest with
      | cons second rest =>
        obtain ⟨rfl, rfl⟩ := eq_of_answers_workingDirectory second
        refine ⟨fun _ => ?_, fun h => absurd ⟨hfound, hsome⟩ h⟩
        rw [List.filterMap_cons, List.filterMap_cons, List.filterMap_cons, command?_told]
        rfl

end StagingTalk

/-- What a run that gives a report says to git, and what the report says. -/
structure Returns (s : Settings) (staging : Option Bool) (done : Written) (w : World)
    (xs : List Exchange) (report : BatchReport) : Prop where
  told : done.ToldBy report
  /-- The look for the repository has not failed. -/
  searched : ∀ x ∈ xs, x.failsLook = false
  /-- Files that are to be staged are staged by one command: the pages in the order of the reports, then
  the index. -/
  staged : Stages s staging done w → ∃ names,
    List.Forall₂ (Git.TellsFile w.here s.root) done.files names ∧
      xs.filterMap Exchange.command? = [(s.root, Git.addFiles names)]
  /-- Otherwise git is told nothing. -/
  unstaged : ¬ Stages s staging done w → xs.filterMap Exchange.command? = []
  /-- The run succeeds when all has been written and git has not failed. -/
  success : report.success = true ↔ done.IsComplete ∧ ∀ x ∈ xs, x.failsCommand = false

/-- A run ends without a report: all has been written and staging is wanted, and then the look for the
repository has failed. -/
structure Breaks (s : Settings) (staging : Option Bool) (done : Written) (xs : List Exchange)
    (e : Failure) : Prop where
  written : done.IsComplete
  wanted : staging.getD s.stagePages = true
  looked : (⟨.isRepository s.root, .error e⟩ : Exchange) ∈ xs
  /-- Git is told nothing. -/
  unstaged : xs.filterMap Exchange.command? = []

section

variable {files index staged front tail : List Exchange}

/-- What git is told does not show in what concerns no repository. -/
theorem command?_around (hfront : ∀ x ∈ front, x.concern ≠ .repository)
    (htail : ∀ x ∈ tail, x.concern ≠ .repository) :
    (front ++ (staged ++ tail)).filterMap Exchange.command? = staged.filterMap Exchange.command? := by
  have hnone {ys : List Exchange} (hys : ∀ y ∈ ys, y.concern ≠ .repository) :
      ys.filterMap Exchange.command? = [] :=
    List.filterMap_eq_nil_iff.2 fun y hy => Exchange.command?_eq_none (hys y hy)
  rw [List.filterMap_append, List.filterMap_append, hnone hfront, hnone htail, List.append_nil,
    List.nil_append]

theorem forall_around {p : Exchange → Bool} (hp : ∀ {x}, x.concern ≠ .repository → p x = false)
    (hfront : ∀ x ∈ front, x.concern ≠ .repository)
    (htail : ∀ x ∈ tail, x.concern ≠ .repository) :
    (∀ x ∈ front ++ (staged ++ tail), p x = false) ↔ ∀ x ∈ staged, p x = false := by
  rw [List.forall_mem_append, List.forall_mem_append]
  exact ⟨fun h => h.2.1, fun h => ⟨fun x hx => hp (hfront x hx), h, fun x hx => hp (htail x hx)⟩⟩

theorem Breaks.around {e : Failure} (h : Breaks s staging done staged e)
    (hfront : ∀ x ∈ front, x.concern ≠ .repository)
    (htail : ∀ x ∈ tail, x.concern ≠ .repository) :
    Breaks s staging done (front ++ (staged ++ tail)) e :=
  ⟨h.written, h.wanted, List.mem_append_right _ (List.mem_append_left _ h.looked),
    (command?_around hfront htail).trans h.unstaged⟩

theorem Returns.around {report : BatchReport} (h : Returns s staging done w staged report)
    (hfront : ∀ x ∈ front, x.concern ≠ .repository)
    (htail : ∀ x ∈ tail, x.concern ≠ .repository) :
    Returns s staging done w (front ++ (staged ++ tail)) report := by
  have hcommands := @command?_around staged front tail hfront htail
  refine ⟨h.told, (forall_around Exchange.failsLook_eq_false hfront htail).2 h.searched,
    fun hstages => ?_, fun hnot => hcommands.trans (h.unstaged hnot), ?_⟩
  · obtain ⟨names, htells, hcommand⟩ := h.staged hstages
    exact ⟨names, htells, hcommands.trans hcommand⟩
  · rw [h.success, forall_around Exchange.failsCommand_eq_false hfront htail]

theorem breaks_of_runTalk {e : Failure}
    (h : RunTalk s paths staging files index staged done (.error e)) :
    Breaks s staging done staged e := by
  obtain ⟨result, hstaged, hconcludes⟩ := h.staged
  cases hconcludes
  obtain ⟨hall, hwanted, htalk⟩ | ⟨-, -, hresult⟩ := hstaged
  · rw [htalk.eq_singleton]
    exact ⟨hall, hwanted, List.mem_singleton_self _, rfl⟩
  · cases hresult

theorem returns_of_runTalk {report : BatchReport}
    (h : RunTalk s paths staging files index staged done (.ok report)) (hw : w.Converses staged v)
    (hnul : ∀ p ∈ done.files, Disk.hasNul p = false) : Returns s staging done w staged report := by
  have htells : List.Forall₂ (Git.TellsFile w.here s.root) done.files
      (done.files.map (Git.nameInRepository w.here s.root)) := by
    refine List.forall₂_map_right_iff.2 (List.forall₂_same.2 fun p hp => ?_)
    exact Git.tellsFile_nameInRepository _ _ (hnul p hp)
  obtain ⟨result, hstaged, hconcludes⟩ := h.staged
  cases hconcludes with
  | reported result report htold hsuccess =>
    obtain ⟨hall, hwanted, htalk⟩ | ⟨hunwanted, rfl, hresult⟩ := hstaged
    · obtain ⟨hcommand, hnone⟩ := htalk.command? hw
      refine ⟨htold, htalk.failsLook, fun h => ⟨_, htells, hcommand ⟨h.repository, h.files⟩⟩,
        fun h => hnone fun hsome => h ⟨hall, hwanted, hsome.1, hsome.2⟩, ?_⟩
      rw [hsuccess, htalk.exists_ok_iff]
    · refine ⟨htold, List.forall_mem_nil _, fun h => absurd ⟨h.written, h.wanted⟩ hunwanted,
        fun _ => rfl, ?_⟩
      rw [hsuccess, Except.ok.inj hresult]
      exact and_congr_right fun _ => ⟨fun _ => List.forall_mem_nil _, fun _ => ⟨false, rfl⟩⟩

end

/-! ## The contract -/

/-- What a run promises. Its conversation has three parts: the turns of the sources, the rebuilding of
the index, and what is said after that. -/
structure Contract (s : Settings) (paths : List Path) (staging : Option Bool) (w : World)
    (done : Written) (outcome : Except Failure BatchReport) (files index rest : List Exchange)
    (u u' v : World) : Prop where
  /-- One report for each source, in their order. -/
  reports : done.reports.map (·.path) = paths.map Path.text
  /-- Every source is read once, in their order. -/
  sources : (files ++ (index ++ rest)).filterMap Exchange.source? = paths
  /-- Every source has its turn; one that fails changes nothing and stops nothing. -/
  turns : Turns s w paths done.reports files u
  /-- The index is rebuilt after the last source. -/
  rebuilds : Rebuilds s u (done.indexPath, done.indexError) index u'
  /-- The index is rebuilt once. -/
  once : (files ++ (index ++ rest)).countP (·.listsPages) = 1
  /-- After that no page is saved, and no index. -/
  ends : u'.Converses rest v ∧ ∀ x ∈ rest, x.concern ∈ [.record, .repository]
  /-- The run gives its report. -/
  returns : ∀ report, outcome = .ok report →
    Returns s staging done u' (files ++ (index ++ rest)) report
  /-- There is no report only when the repository cannot be looked for. -/
  breaks : ∀ e, outcome = .error e → Breaks s staging done (files ++ (index ++ rest)) e

/-- **The contract of a run.** It is kept whatever the surroundings answer. -/
theorem contract_of_attempts (hplan : Attempts (run s paths staging) xs outcome)
    (hworld : w.Converses xs v) :
    ∃ done files index rest u u', xs = files ++ (index ++ rest) ∧
      Contract s paths staging w done outcome files index rest u u' v := by
  obtain ⟨files, index, staged, after, done, htalk, rfl⟩ := exists_of_attempts_run hplan
  obtain ⟨u, hfiles, hworld⟩ := World.converses_append.1 hworld
  obtain ⟨u', hindex, hrest⟩ := World.converses_append.1 hworld
  obtain ⟨_, hstaged, -⟩ := World.converses_append.1 hrest
  have hturns := turns_of_admits htalk.files hfiles
  have hrebuilds := rebuilds_of_admits htalk.index hindex
  have hpages := concern_of_admits_documentFiles htalk.files
  have hends : ∀ x ∈ staged ++ told after, x.concern ∈ [.record, .repository] := by
    refine List.forall_mem_append.2 ⟨htalk.concern_staged, fun x hx => ?_⟩
    simp [concern_of_mem_told hx]
  -- neither the sources nor the index concern git, and only the sources are read
  have hfront : ∀ x ∈ files ++ index, x.concern ≠ .repository := by
    refine List.forall_mem_append.2 ⟨fun x hx => ?_, fun x hx => ?_⟩
    · exact ne_of_mem_of_not_mem (hpages x hx) (by decide)
    · exact ne_of_mem_of_not_mem (hrebuilds.concern x hx) (by decide)
  have htail : ∀ x ∈ told after, x.concern ≠ .repository := by
    intro x hx
    rw [concern_of_mem_told hx]
    decide
  have hsources : (index ++ (staged ++ told after)).filterMap Exchange.source? = [] := by
    refine List.filterMap_eq_nil_iff.2 fun x hx => Exchange.source?_eq_none ?_
    rcases List.mem_append.1 hx with hx | hx
    · exact ne_of_mem_of_not_mem (hrebuilds.concern x hx) (by decide)
    · exact ne_of_mem_of_not_mem (hends x hx) (by decide)
  have hlists : (files ++ (index ++ (staged ++ told after))).countP (·.listsPages) = 1 := by
    have hfiles : files.countP (·.listsPages) = 0 := by
      refine List.countP_eq_zero.2 fun x hx => Bool.not_eq_true _ ▸ Exchange.listsPages_eq_false ?_
      exact ne_of_mem_of_not_mem (hpages x hx) (by decide)
    have hrest : (staged ++ told after).countP (·.listsPages) = 0 := by
      refine List.countP_eq_zero.2 fun x hx => Bool.not_eq_true _ ▸ Exchange.listsPages_eq_false ?_
      exact ne_of_mem_of_not_mem (hends x hx) (by decide)
    rw [List.countP_append, List.countP_append, hfiles, hrebuilds.listed, hrest]
  refine ⟨done, files, index, staged ++ told after, u, u', rfl, hturns.map_path, ?_, hturns,
    hrebuilds, hlists, ⟨hrest, hends⟩, ?_, ?_⟩
  · rw [List.filterMap_append, hturns.source?, hsources, List.append_nil]
  · rintro report rfl
    rw [← List.append_assoc]
    have hnul (p : Path) (hp : p ∈ done.files) : Disk.hasNul p = false :=
      hasNul_of_mem_files hturns hfiles hrebuilds hp
    exact (returns_of_runTalk htalk hstaged hnul).around hfront htail
  · rintro e rfl
    rw [← List.append_assoc]
    exact (breaks_of_runTalk htalk).around hfront htail

/-- The sample project in a repository, with its pages in a directory. -/
def repositoryWorld : World :=
  let w := sampleWorld bareSource (.directory docsDirectory)
  { w with disk := { w.disk with entries := ([".git".toList], .directory) :: w.disk.entries } }

/-- A run over the sample project, with its report and what it leaves. -/
def repositoryRun (s : Settings) : Except Failure BatchReport × World :=
  repositoryWorld.attempt (run s [samplePath] (some true))

/-- The contract of the run over the sample project, which stages the page and the index. -/
theorem contract_repositoryRun :
    (∃ xs done files index rest u u', repositoryWorld.Converses xs (repositoryRun sampleSettings).2 ∧
      xs = files ++ (index ++ rest) ∧
      Contract sampleSettings [samplePath] (some true) repositoryWorld done
        (repositoryRun sampleSettings).1 files index rest u u' (repositoryRun sampleSettings).2) ∧
    (repositoryRun sampleSettings).1.toOption.map (·.success) = some true ∧
      (repositoryRun sampleSettings).2.commands = [(sampleSettings.root,
        Git.addFiles ["docs/X.md".toList, "docs/index.md".toList])] := by
  refine ⟨?_, by decide +kernel⟩
  obtain ⟨xs, hplan, hworld⟩ :=
    repositoryWorld.exists_converses (run sampleSettings [samplePath] (some true)).run
  obtain ⟨done, files, index, rest, u, u', hxs, hcontract⟩ := contract_of_attempts hplan hworld
  exact ⟨xs, done, files, index, rest, u, u', hworld, hxs, hcontract⟩

/-- Settings with a root whose name is longer than a name can be. -/
def unsearchableSettings : Settings :=
  { sampleSettings with root := { slashes := 1, names := [List.replicate 256 'r'] } }

/-- A source whose page has a name longer than a name can be, in a directory that is called like the
index. -/
def cloggingSource : Text :=
  "<script>export default \x7b name: 'index.md/".toList ++ List.replicate 256 'n' ++
    "' \x7d</script>".toList

/-- Which sources have gone well in a run over the project with that source, and whether the index has. -/
def cloggedRun (paths : List Path) : Option (List Bool × Bool) :=
  let w := sampleWorld cloggingSource (.directory docsDirectory)
  (w.attempt (run sampleSettings paths none)).1.toOption.map fun report =>
    (report.results.map (·.success), report.indexError.isNone)

/-- Where the repository cannot be looked for, the run saves the page, tells git nothing and gives no
report. And a source that fails can keep the index from being written: the directory of its page has
been made in the place of the index, before the page could not be written. -/
theorem run_without_report_and_run_without_index :
    ((repositoryRun unsearchableSettings).1.toOption.isNone = true ∧
      (repositoryRun unsearchableSettings).2.disk.isFileAt (docsDirectory.pathOf "X".toList) = true ∧
      (repositoryRun unsearchableSettings).2.commands = []) ∧
    cloggedRun [samplePath] = some ([false], false) ∧ cloggedRun [] = some ([], true) := by
  decide +kernel

end ComponentBook.Batch
