import ComponentBook.Proofs.Batch.Contract
import ComponentBook.Proofs.Git.Naming

/-! # The sources of a run over what is staged

A run over what is staged reads the staged sources that exist, in the order of the listing
(**`source?_of_attempts_staged`**). They lie below the directory of sources, but directories that hold no
sources of their own are not left out, as they are when all sources are listed: a staged source is one of
those that a run over everything reads (`isListed_of_attempts_all`) exactly when it lies in no such directory
(**`staged_isListed_iff`**). -/

namespace ComponentBook.Batch

open Plan (Attempts admits_bind admits_pure admits_request admits_request_bind attempts_bind
  attempts_lift_bind attempts_pure attempts_tell_bind)

variable {s : Settings} {v w : World} {p path : Path} {paths : List Path} {staging : Option Bool}
  {xs : List Exchange} {d : Disk}

/-! ## What is asked for before the run -/

/-- The surroundings answer what is no read and no write. -/
theorem respond_eq_of_converses {r : Request} {answer : r.Answer} (h : w.Converses [⟨r, answer⟩] v)
    (hexact : Exchange.isFailure ⟨r, answer⟩ = false) : World.respond r w = (answer, v) := by
  cases h with
  | cons first rest =>
    cases rest
    rcases World.answers_iff.1 first with hanswer | ⟨hfailure, -⟩
    · exact hanswer
    · rw [hexact] at hfailure
      cases hfailure

/-- The staged component sources, as git lists them. -/
def stagedCandidates (w : World) (s : Settings) : Except Git.Failure (List Path) :=
  match (w.answerGit s.root Git.listStaged).1 with
  | .error cause => .error { command := Git.listStaged, cause }
  | .ok listing =>
    .ok (Git.stagedSources (Git.hereOn w.disk) s.root s.componentsDirectory s.extension listing)

/-- Those of some paths that lead to files on a disk. -/
def filesOn (d : Disk) : List Path → Except Failure (List Path)
  | [] => .ok []
  | path :: paths => do
    let present ← (d.isFile path).mapError .disk
    let rest ← filesOn d paths
    return if present then path :: rest else rest

/-- The staged component sources that still exist. -/
def stagedFiles (w : World) (s : Settings) : Except Failure (List Path) :=
  match stagedCandidates w s with
  | .error e => .error (.git e)
  | .ok candidates => filesOn w.disk candidates

theorem disk_answerGit (w : World) (directory : Path) (command : Git.Command) :
    (w.answerGit directory command).2.disk = w.disk := by
  rw [World.answerGit]
  split <;> rfl

/-- Git is asked for the staged files, and the sources among them are taken. -/
theorem eq_stagedCandidates {outcome : Except Git.Failure (List Path)}
    (h : (stagedSources s.root s.componentsDirectory s.extension).Admits xs outcome) (hw : w.Converses xs v) :
    v.disk = w.disk ∧ xs.filterMap Exchange.source? = [] ∧ outcome = stagedCandidates w s := by
  obtain ⟨listed, ys, zs, hlist, hrest, rfl⟩ := admits_bind.1 h
  obtain ⟨answer, front, rest, hgit, hdone, rfl⟩ := admits_bind.1 hlist
  obtain rfl := admits_request.1 hgit
  obtain ⟨u, hfront, hzs⟩ := World.converses_append.1 hw
  obtain ⟨u', hasked, hrested⟩ := World.converses_append.1 hfront
  have hasked : w.answerGit s.root Git.listStaged = (answer, u') := respond_eq_of_converses hasked rfl
  -- what git is asked for leaves the disk as it is
  have hdisk : u'.disk = w.disk := by
    rw [← disk_answerGit w s.root Git.listStaged, hasked]
  rw [stagedCandidates, hasked]
  cases answer with
  | error cause =>
    obtain ⟨rfl, rfl⟩ := admits_pure.1 hdone
    obtain ⟨rfl, rfl⟩ := admits_pure.1 hrest
    cases hrested
    cases hzs
    exact ⟨hdisk, rfl, rfl⟩
  | ok listing =>
    obtain ⟨rfl, rfl⟩ := admits_pure.1 hdone
    obtain ⟨here, rest, rfl, hdone⟩ := admits_request_bind.1 hrest
    obtain ⟨rfl, rfl⟩ := admits_pure.1 hdone
    cases hrested
    obtain ⟨hanswer, hafter⟩ := Prod.mk.inj (respond_eq_of_converses hzs rfl)
    rw [← hafter, ← hanswer]
    exact ⟨hdisk, rfl, by rw [Git.hereOn, ← hdisk]⟩

/-- The paths that lead to files are found one after another. -/
theorem eq_filesOn {outcome : Except Failure (List Path)} (h : Attempts (presentFiles paths) xs outcome)
    (hw : w.Converses xs v) :
    v = w ∧ xs.filterMap Exchange.source? = [] ∧ outcome = filesOn w.disk paths := by
  -- along the paths: asking for a file changes nothing
  induction paths generalizing xs v outcome with
  | nil =>
    obtain ⟨rfl, rfl⟩ := attempts_pure.1 h
    cases hw
    exact ⟨rfl, rfl, rfl⟩
  | cons path paths ih =>
    rw [presentFiles] at h
    rw [filesOn]
    have hanswer {answer : Except Failure Bool} {u : World} (h : w.Converses [⟨.isFile path, answer⟩] u) :
        (w.disk.isFile path).mapError .disk = answer ∧ w = u := Prod.mk.inj (respond_eq_of_converses h rfl)
    rcases attempts_bind.1 h with ⟨e, hasked, rfl⟩ | ⟨present, front, rest, hasked, hrest, rfl⟩
    · obtain rfl := admits_request.1 hasked
      obtain ⟨hasked, rfl⟩ := hanswer hw
      rw [hasked]
      exact ⟨rfl, rfl, rfl⟩
    · obtain rfl := admits_request.1 hasked
      obtain ⟨u, hfirst, hmore⟩ := World.converses_append.1 hw
      obtain ⟨hasked, rfl⟩ := hanswer hfirst
      rw [hasked]
      rcases attempts_bind.1 hrest with ⟨e, hpaths, rfl⟩ | ⟨files, front, done, hpaths, hdone, rfl⟩
      · obtain ⟨rfl, hnone, hfiles⟩ := ih hpaths hmore
        rw [← hfiles]
        exact ⟨rfl, hnone, rfl⟩
      · obtain ⟨rfl, rfl⟩ := attempts_pure.1 hdone
        rw [List.append_nil] at hmore ⊢
        obtain ⟨rfl, hnone, hfiles⟩ := ih hpaths hmore
        rw [← hfiles]
        exact ⟨rfl, hnone, rfl⟩

/-! ## The sources that are read -/

/-- A run reads its sources, in their order. -/
theorem source?_of_attempts_run {outcome : Except Failure BatchReport}
    (h : Attempts (run s paths staging) xs outcome) (hw : w.Converses xs v) :
    xs.filterMap Exchange.source? = paths := by
  obtain ⟨done, files, index, rest, u, u', rfl, hcontract⟩ := contract_of_attempts h hw
  exact hcontract.sources

/-- Nothing is read in front of a record that is told. -/
theorem source?_of_attempts_tell {level : Log.Level} {message : Text} {α : Type}
    {rest : ExceptT Failure Plan α} {outcome : Except Failure α}
    (h : Attempts (do Plan.tell level part message; rest) xs outcome) (hw : w.Converses xs v) :
    ∃ ys, ∃ u : World, Attempts rest ys outcome ∧ u.Converses ys v ∧
      xs.filterMap Exchange.source? = ys.filterMap Exchange.source? := by
  obtain ⟨ys, rfl, hrest⟩ := attempts_tell_bind.1 h
  cases hw with
  | cons first rest => exact ⟨ys, _, hrest, rest, rfl⟩

/-- A run whose start is told reads its sources, in their order. -/
theorem source?_of_attempts_told_run {level : Log.Level} {message : Text}
    {outcome : Except Failure BatchReport}
    (h : Attempts (do Plan.tell level part message; run s paths staging) xs outcome) (hw : w.Converses xs v) :
    xs.filterMap Exchange.source? = paths := by
  obtain ⟨ys, u, hrun, hu, hsources⟩ := source?_of_attempts_tell h hw
  rw [hsources]
  exact source?_of_attempts_run hrun hu

/-- **The sources that a run over what is staged reads.** -/
theorem source?_of_attempts_staged {outcome : Except Failure BatchReport}
    (h : Attempts (staged s staging) xs outcome) (hw : w.Converses xs v) :
    match stagedFiles w s with
    | .error e => outcome = .error e ∧ xs.filterMap Exchange.source? = []
    | .ok files => xs.filterMap Exchange.source? = files := by
  rw [staged] at h
  obtain ⟨candidates, ys, zs, hlist, hrest, rfl⟩ := attempts_lift_bind.1 h
  obtain ⟨u, hys, hzs⟩ := World.converses_append.1 hw
  obtain ⟨hdisk, hnone, hcandidates⟩ := eq_stagedCandidates hlist hys
  rw [stagedFiles, ← hcandidates, List.filterMap_append, hnone, List.nil_append]
  rcases candidates with e | candidates
  · obtain ⟨rfl, rfl⟩ := admits_pure.1 hrest
    exact ⟨rfl, rfl⟩
  rcases attempts_bind.1 hrest with ⟨e, hpure, -⟩ | ⟨_, front, rest, hpure, hpresent, rfl⟩
  · cases (attempts_pure.1 hpure).2
  obtain ⟨rfl, hok⟩ := attempts_pure.1 hpure
  obtain rfl := Except.ok.inj hok
  rw [List.nil_append] at hzs ⊢
  dsimp only
  rcases attempts_bind.1 hpresent with ⟨e, hfiles, rfl⟩ | ⟨files, front, rest, hfiles, hready, rfl⟩
  · obtain ⟨-, hnone, hfound⟩ := eq_filesOn hfiles hzs
    rw [hdisk] at hfound
    rw [← hfound]
    exact ⟨rfl, hnone⟩
  obtain ⟨u', hfront, hrested⟩ := World.converses_append.1 hzs
  obtain ⟨-, hnone, hfound⟩ := eq_filesOn hfiles hfront
  rw [hdisk] at hfound
  rw [← hfound, List.filterMap_append, hnone, List.nil_append]
  dsimp only at hready ⊢
  -- staged files that no longer exist are told before the run
  split at hready
  · obtain ⟨ys, a, htold, ha, hsources⟩ := source?_of_attempts_tell hready hrested
    rw [hsources]
    exact source?_of_attempts_told_run htold ha
  · exact source?_of_attempts_told_run hready hrested

/-- All staged sources that exist are read. -/
theorem exists_attempts_staged {files : List Path} (staging : Option Bool) (h : stagedFiles w s = .ok files) :
    ∃ xs v outcome, Attempts (staged s staging) xs outcome ∧ w.Converses xs v ∧
      xs.filterMap Exchange.source? = files := by
  obtain ⟨xs, hrun, hw⟩ := World.exists_converses w (staged s staging).run
  have hread := source?_of_attempts_staged hrun hw
  rw [h] at hread
  exact ⟨xs, _, _, hrun, hw, hread⟩

/-! ## Which of them are listed -/

/-- Every source that a run over everything reads is listed. -/
theorem isListed_of_attempts_all {outcome : Except Failure BatchReport}
    (h : Attempts (all s staging) xs outcome) (hw : w.Converses xs v)
    (hp : p ∈ xs.filterMap Exchange.source?) :
    IsListed w.disk s.componentsDirectory s.extension p := by
  rw [all] at h
  rcases attempts_bind.1 h with ⟨e, hasked, -⟩ | ⟨files, front, rest, hasked, hrest, rfl⟩
  · obtain rfl := admits_request.1 hasked
    cases hp
  obtain rfl := admits_request.1 hasked
  obtain ⟨u, hfirst, hmore⟩ := World.converses_append.1 hw
  obtain ⟨hanswer, -⟩ := Prod.mk.inj (respond_eq_of_converses hfirst rfl)
  have hfiles := World.mapError_eq_ok_iff.1 hanswer
  have hread := source?_of_attempts_told_run hrest hmore
  have hmem : p ∈ files := by
    rwa [List.filterMap_append, hread] at hp
  have hfind := (Disk.isFileAt_iff.1 (isFileAt_of_mem_sourceFiles hfiles hmem)).1
  exact ⟨files, p, _, hfiles, hmem, hfind, hfind⟩

theorem mem_of_mem_filesOn {files : List Path} (h : filesOn d paths = .ok files) (hp : p ∈ files) :
    p ∈ paths ∧ d.isFile p = .ok true := by
  induction paths generalizing files with
  | nil =>
    obtain rfl := Except.ok.inj h
    cases hp
  | cons path paths ih =>
    obtain ⟨present, hpresent, h⟩ := bind_eq_ok_iff.1 h
    obtain ⟨rest, hrest, h⟩ := bind_eq_ok_iff.1 h
    obtain rfl := Except.ok.inj h
    have hbehind (hp : p ∈ rest) : p ∈ path :: paths ∧ d.isFile p = .ok true :=
      ⟨List.mem_cons_of_mem path (ih hrest hp).1, (ih hrest hp).2⟩
    cases present with
    | false => exact hbehind hp
    | true =>
      rcases List.mem_cons.1 hp with rfl | hp
      · exact ⟨List.mem_cons_self, World.mapError_eq_ok_iff.1 hpresent⟩
      · exact hbehind hp

/-- The directory of sources lies in the repository, and the names in the listing of staged files are relative
and do not lead back. -/
structure StagesForward (w : World) (s : Settings) : Prop where
  hasNul : Disk.hasNul s.componentsDirectory = false
  inside : ∃ below, w.disk.placeOf s.componentsDirectory = w.disk.placeOf s.root ++ below ∧
    ∀ name ∈ below, Path.IsPathName name
  listing : ∀ name ∈ Git.stagedNames w.git.listing, (Path.ofText (Git.slashed name)).IsForward

theorem eq_listing_of_answerGit {directory : Path} {listing : Text}
    (h : (w.answerGit directory Git.listStaged).1 = .ok listing) : listing = w.git.listing := by
  rw [World.answerGit] at h
  split at h
  · cases h
  · exact (Except.ok.inj h).symm

/-- A staged source that exists lies below the directory of sources, and its path ends in the extension, if that
is a plain one. -/
theorem exists_find_of_mem_stagedFiles (hforward : StagesForward w s) {files : List Path}
    (h : stagedFiles w s = .ok files) (hp : p ∈ files) :
    (∃ names, ['.', '.'] ∉ names ∧ w.disk.find p = .ok (w.disk.placeOf s.componentsDirectory ++ names)) ∧
      (IsPlainExtension s.extension → s.extension <:+ p.name) := by
  obtain ⟨below, hplace, hbelow⟩ := hforward.inside
  rw [stagedFiles, stagedCandidates] at h
  rcases hanswer : (w.answerGit s.root Git.listStaged).1 with cause | listing
  · rw [hanswer] at h
    cases h
  rw [hanswer] at h
  obtain rfl := eq_listing_of_answerGit hanswer
  obtain ⟨hmem, hfile⟩ := mem_of_mem_filesOn h hp
  obtain ⟨⟨names, hstraight, hnames⟩, hsuffix⟩ :=
    Git.exists_placeOf_of_mem_stagedSources hforward.hasNul hplace hbelow hforward.listing hmem
  have hfind := (Disk.isFileAt_iff.1 (isFileAt_of_isFile hfile)).1
  exact ⟨⟨names, hstraight, hnames ▸ hfind⟩, hsuffix⟩

/-- **When a staged source that a run reads is listed.** It lies below the directory of sources. It is listed
exactly when the directory is there and leads to it, no directory in between is excluded, and its names fit the
extension, as they do when the extension is a plain one. -/
theorem staged_isListed_iff {outcome : Except Failure BatchReport} (hd : w.disk.Regular)
    (hforward : StagesForward w s) (hrun : Attempts (staged s staging) xs outcome) (hw : w.Converses xs v)
    (hp : p ∈ xs.filterMap Exchange.source?) :
    (∃ names, ['.', '.'] ∉ names ∧ w.disk.find p = .ok (w.disk.placeOf s.componentsDirectory ++ names)) ∧
      (IsListed w.disk s.componentsDirectory s.extension p ↔
        ∃ names, StandsBelow w.disk s.componentsDirectory p names ∧ isExcluded names = false ∧
          (IsPlainExtension s.extension ∧ ['.', '.'] ∉ names ∨ FitsExtension s.extension names)) := by
  have hread := source?_of_attempts_staged hrun hw
  rcases hfiles : stagedFiles w s with e | files
  · rw [hfiles] at hread
    rw [hread.2] at hp
    cases hp
  · rw [hfiles] at hread
    dsimp only at hread
    obtain ⟨hplace, hsuffix⟩ := exists_find_of_mem_stagedFiles hforward hfiles (hread ▸ hp)
    exact ⟨hplace, isListed_iff_of_suffix hd hsuffix⟩

/-- Two staged sources, one of them in an excluded directory, and a file that is none. -/
def stagedWorld : World where
  disk := { entries := [(["p".toList], .directory), (["p".toList, "src".toList], .directory),
    (["p".toList, "src".toList, "components".toList], .directory),
    (["p".toList, "src".toList, "components".toList, "X.vue".toList],
      .file { content := .text [], modified := 0 }),
    (["p".toList, "src".toList, "components".toList, "dist".toList], .directory),
    (["p".toList, "src".toList, "components".toList, "dist".toList, "Y.vue".toList],
      .file { content := .text [], modified := 1 })] }
  git := { listing := "README.md\nsrc\\components\\X.vue\nsrc/components/dist/Y.vue\n".toList }

/-- The settings of the project with these sources. -/
def stagedSettings : Settings := .standard (Path.ofText "/p".toList)

/-- The path of one of these sources. -/
def stagedPath (name : String) : Path := (Path.ofText "/p/src/components".toList).child name.toList

/-- A run over what is staged there. -/
theorem exists_staged_stagedWorld :
    ∃ xs v outcome, Attempts (staged stagedSettings none) xs outcome ∧ stagedWorld.Converses xs v ∧
      xs.filterMap Exchange.source? = [stagedPath "X.vue", stagedPath "dist/Y.vue"] :=
  exists_attempts_staged none (by decide +kernel)

theorem isListed_stagedWorld :
    stagedWorld.disk.Regular ∧ StagesForward stagedWorld stagedSettings ∧
      ∃ xs v outcome, Attempts (staged stagedSettings none) xs outcome ∧ stagedWorld.Converses xs v ∧
        stagedPath "X.vue" ∈ xs.filterMap Exchange.source? ∧
        IsListed stagedWorld.disk stagedSettings.componentsDirectory stagedSettings.extension
          (stagedPath "X.vue") := by
  have hd : stagedWorld.disk.Regular :=
    ⟨Disk.sound_of_forall (by decide) (by decide), by decide, by decide⟩
  have hforward : StagesForward stagedWorld stagedSettings :=
    ⟨by decide +kernel, ⟨["src".toList, "components".toList], by decide +kernel, by decide⟩, by decide +kernel⟩
  obtain ⟨xs, v, outcome, hrun, hw, hsources⟩ := exists_staged_stagedWorld
  have hmem : stagedPath "X.vue" ∈ xs.filterMap Exchange.source? := hsources ▸ List.mem_cons_self
  refine ⟨hd, hforward, xs, v, outcome, hrun, hw, hmem, ?_⟩
  refine (staged_isListed_iff hd hforward hrun hw hmem).2.2 ⟨["X.vue".toList], ?_⟩
  exact ⟨⟨by decide +kernel, by decide +kernel, by decide +kernel⟩, by decide,
    .inl ⟨⟨by decide, by decide, by decide⟩, by decide⟩⟩

/-- **A staged source need not be listed.** -/
theorem not_isListed_stagedWorld :
    ∃ xs v outcome, Attempts (staged stagedSettings none) xs outcome ∧ stagedWorld.Converses xs v ∧
      stagedPath "dist/Y.vue" ∈ xs.filterMap Exchange.source? ∧
      ¬ IsListed stagedWorld.disk stagedSettings.componentsDirectory stagedSettings.extension
        (stagedPath "dist/Y.vue") := by
  obtain ⟨xs, v, outcome, hrun, hw, hsources⟩ := exists_staged_stagedWorld
  have hmem : stagedPath "dist/Y.vue" ∈ xs.filterMap Exchange.source? :=
    hsources ▸ List.mem_cons_of_mem _ List.mem_cons_self
  refine ⟨xs, v, outcome, hrun, hw, hmem, ?_⟩
  rintro ⟨files, q, l, hfiles, hq, hfound, hp⟩
  have hlisted : sourceFiles stagedWorld.disk stagedSettings.componentsDirectory stagedSettings.extension
      = .ok [stagedPath "X.vue"] :=
    sourceFiles_of_ascending (by decide +kernel) rfl (by decide +kernel) (List.pairwise_singleton _ _)
  rw [hlisted] at hfiles
  obtain rfl := Except.ok.inj hfiles
  obtain rfl := List.mem_singleton.1 hq
  have hapart :
      stagedWorld.disk.find (stagedPath "dist/Y.vue") ≠ stagedWorld.disk.find (stagedPath "X.vue") := by
    decide +kernel
  exact hapart (hp.trans hfound.symm)

end ComponentBook.Batch
