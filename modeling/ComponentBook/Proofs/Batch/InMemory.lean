import ComponentBook.Proofs.Batch.Stability
import ComponentBook.Proofs.World.Reading

/-! # What a run leaves in memory

With pages in memory a run comes down to pages: a source that can be read puts the page of its component in the
place of the one before (**`documented`**), and the index is made of all pages (**`indexOf?`**,
**`reindexed`**). **`HasPages`** says of surroundings which pages they have and that the sources still read as at
first; each part of a run leads from such surroundings to such surroundings (`HasPages.documentFile`,
`HasPages.rebuildIndex`), and so does a whole run (**`HasPages.run`**). -/

namespace ComponentBook.Batch

open World (ReadsAs)

variable {s : Settings} {u v w : World} {m n : PageMemory} {paths : List Path} {path : Path}

/-- The pages in memory after a source has been documented whose reading comes to `outcome`. -/
def documented (s : Settings) (path : Path) (outcome : Except Disk.Failure Text) (m : PageMemory) :
    PageMemory :=
  match outcome with
  | .error _ => m
  | .ok source =>
    let c := describe s source path.stem
    m.save c.name (newPage s (m.page? c.name) c)

/-- The names of the pages in memory, each with its page. -/
def listedPages (m : PageMemory) : List (Text × Text) :=
  m.names.map fun name => (name, (m.page? name).getD [])

/-- The index of the pages in memory, with the template that the surroundings have; none when it cannot be
written. -/
def indexOf? (s : Settings) (u : World) (m : PageMemory) : Option Text :=
  match u.indexTemplate.1 with
  | .error _ => none
  | .ok template => (indexPage s.locale categoryRules template (listedPages m)).toOption

/-- The pages in memory after their index has been rebuilt; an index that cannot be written leaves the one
before it. -/
def reindexed (s : Settings) (u : World) (m : PageMemory) : PageMemory :=
  match indexOf? s u m with
  | some index => m.saveIndex index
  | none => m

/-- The pages in memory after some sources have been documented, one after another. -/
def documentedAll (s : Settings) (u : World) (paths : List Path) (m : PageMemory) : PageMemory :=
  paths.foldl (fun m path => documented s path (u.disk.read path) m) m

@[simp] theorem pages_reindexed (s : Settings) (u : World) (m : PageMemory) :
    (reindexed s u m).pages = m.pages := by
  rw [reindexed]
  split <;> rfl

theorem index_reindexed {index : Text} (h : indexOf? s u m = some index) :
    (reindexed s u m).index = some index := by
  rw [reindexed, h]
  rfl

theorem saveIndex_memory (hshelf : w.shelf = .memory m) (index : Text) :
    w.saveIndex index = (.ok none, { w with shelf := .memory (m.saveIndex index) }) := by
  rw [World.saveIndex, hshelf]

/-- Surroundings with pages in memory, in which sources and index template are read as at first. -/
structure HasPages (u : World) (m : PageMemory) (w : World) : Prop where
  shelf : w.shelf = .memory m
  reads : ReadsAs u w

namespace HasPages

theorem first (hshelf : w.shelf = .memory m) : HasPages w m w := ⟨hshelf, ReadsAs.refl w⟩

theorem tell (h : HasPages u m w) (r : Log.Record) : HasPages u m (w.tell r) :=
  ⟨(w.rewrites_tell r).shelf.trans h.shelf, h.reads.tell r⟩

theorem tellKept (h : HasPages u m w) (existing : Option Text) (name : Text) :
    HasPages u m (tellKept w existing name) := by
  rw [Batch.tellKept]
  split
  · exact h.tell _
  · exact h

/-- A page that is saved is put among the pages. -/
theorem savePage (h : HasPages u m w) (name page : Text) :
    w.savePage name page = (.ok none, { w with shelf := .memory (m.save name page) }) ∧
      HasPages u (m.save name page) { w with shelf := .memory (m.save name page) } :=
  ⟨savePage_memory h.shelf name page, rfl, h.reads.withShelf _⟩

/-! ## Sources -/

/-- What is documented is the source as it was at first. -/
theorem documentFile (h : HasPages u m w) (hlog : u.LogsApart path) (s : Settings) :
    HasPages u (documented s path (u.disk.read path) m) (w.run (documentFile s path)).2 := by
  have htold := h.tell (processing path)
  rw [run_documentFile, attempt_writePage, htold.reads.read hlog]
  rcases u.disk.read path with e | source
  · exact htold.tell _
  · dsimp only
    rw [readPage_memory htold.shelf]
    dsimp only
    have hkept := htold.tellKept ((m.page? (describe s source path.stem).name).bind
      Markdown.description?) (describe s source path.stem).name
    obtain ⟨hsave, hsaved⟩ := hkept.savePage (describe s source path.stem).name
      (newPage s (m.page? (describe s source path.stem).name) (describe s source path.stem))
    rw [hsave]
    exact hsaved.tell _

theorem documentFiles (h : HasPages u m w) (hlog : ∀ p ∈ paths, u.LogsApart p) (s : Settings) :
    HasPages u (documentedAll s u paths m)
      (w.run (Plan.forEach (Batch.documentFile s) paths)).2 := by
  induction paths generalizing w m with
  | nil => exact h
  | cons path paths ih =>
    obtain ⟨hpath, hpaths⟩ := List.forall_mem_cons.1 hlog
    rw [run_forEach_cons]
    exact ih (h.documentFile hpath s) hpaths

/-! ## The index -/

/-- All pages in memory are read. -/
theorem attempt_readPages (h : HasPages u m w) (names : List Text) :
    w.attempt (readPages names)
      = (.ok (names.map fun name => (name, (m.page? name).getD [])), w) := by
  induction names with
  | nil => rfl
  | cons name names ih =>
    rw [readPages, World.attempt_bind]
    show World.proceed _ (w.readPage name, w) = _
    rw [readPage_memory h.shelf, World.proceed_ok, World.attempt_bind, ih]
    rfl

/-- The index is rebuilt of the pages in memory, and the outcome tells of a failure when there is none. -/
theorem rebuildIndex (h : HasPages u m w) (hfixed : u.HasFixedInput paths) (s : Settings) :
    ((w.run (rebuildIndex s)).1.2 = none ↔ (indexOf? s u m).isSome) ∧
      HasPages u (reindexed s u m) (w.run (rebuildIndex s)).2 := by
  have hnames : w.pageNames = .ok m.names := by rw [World.pageNames, h.shelf]
  obtain ⟨htemplate, hreads⟩ := h.reads.indexTemplate hfixed
  have hkeeps : HasPages u m w.indexTemplate.2 :=
    ⟨w.rewrites_indexTemplate.shelf.trans h.shelf, hreads⟩
  rw [run_rebuildIndex, attempt_writeIndex, hnames]
  dsimp only
  rw [h.attempt_readPages, reindexed, indexOf?, ← htemplate, listedPages]
  dsimp only
  rcases hread : w.indexTemplate with ⟨e | template, v⟩
  · rw [hread] at hkeeps
    exact ⟨by simp, hkeeps.tell _⟩
  · rw [hread] at hkeeps
    dsimp only
    rcases indexPage s.locale categoryRules template _ with e | index
    · exact ⟨by simp [Except.toOption], hkeeps.tell _⟩
    · dsimp only [Except.toOption]
      rw [saveIndex_memory hkeeps.shelf]
      exact ⟨by simp, HasPages.tell ⟨rfl, hkeeps.reads.withShelf _⟩ _⟩

/-! ## A whole run -/

theorem stage (h : HasPages u m w) (root : Path) (files : List Path) :
    HasPages u m (w.attempt (stage root files)).2 := by
  rw [attempt_stage]
  split
  · exact h
  · exact h.tell _
  · split
    · exact h
    · have hgit : HasPages u m (w.answerGit root (stagingCommand w root files)).2 :=
        ⟨(w.rewrites_answerGit _ _).shelf.trans h.shelf, h.reads.answerGit _ _⟩
      rcases hanswer : w.answerGit root (stagingCommand w root files) with ⟨_ | _, v⟩
      · rw [hanswer] at hgit
        exact hgit
      · rw [hanswer] at hgit
        exact hgit.tell _

theorem conclude (h : HasPages u m w) (success : Bool) (results : List FileReport) (message : Text)
    (indexPath : Option Path) (indexError : Option Text) :
    HasPages u m (w.attempt (conclude success results message indexPath indexError)).2 := by
  rw [attempt_conclude]
  cases success with
  | false => exact h.tell _
  | true => exact h

/-- **What a run leaves in memory**: the pages of its sources and the index of all pages. -/
theorem run (h : HasPages u m w) (hfixed : u.HasFixedInput paths) (s : Settings)
    (staging : Option Bool) :
    ((∀ report, (w.attempt (run s paths staging)).1 = .ok report → report.indexError = none) ↔
        (indexOf? s u (documentedAll s u paths m)).isSome) ∧
      HasPages u (reindexed s u (documentedAll s u paths m)) (w.attempt (run s paths staging)).2 := by
  have hpages := h.documentFiles hfixed.sources s
  obtain ⟨herror, hindex⟩ := hpages.rebuildIndex hfixed s
  obtain ⟨w₁, w₂, done, hruns⟩ := runs_run w s paths staging
  rw [hruns.documents] at herror hindex
  dsimp only at herror hindex
  rw [hruns.index] at herror hindex
  refine ⟨hruns.indexError_iff.trans herror, ?_⟩
  rw [Batch.run, World.attempt_bind, World.attempt_liftM, hruns.documents, World.proceed_ok,
    World.attempt_bind, World.attempt_liftM, hruns.index, World.proceed_ok]
  dsimp only at hindex ⊢
  -- what is left to do is staging, if at all, and the end of the run
  split
  · have hstage := hindex.stage s.root (writtenFiles done.reports done.indexPath)
    rw [World.attempt_bind]
    rcases hstaged : w₂.attempt (Batch.stage s.root (writtenFiles done.reports done.indexPath))
      with ⟨e | e | staged, w₃⟩
    · rw [hstaged] at hstage
      exact hstage
    · rw [hstaged] at hstage
      have hfailed := hstage.tell (.of .error part
        ("Failed to stage documentation: ".toList ++ e.message))
      exact hfailed.conclude false done.reports _ done.indexPath done.indexError
    · rw [hstaged] at hstage
      exact hstage.conclude _ done.reports _ done.indexPath done.indexError
  · exact hindex.conclude _ done.reports _ done.indexPath done.indexError

end HasPages

/-! ## A project with two sources

The theorems about runs in memory are shown at work on a project at the root with the sources `/X.vue` and
`/Y.vue`. -/

/-- The paths of the sources. -/
def pairPaths : List Path := [samplePath, { slashes := 1, names := ["Y.vue".toList] }]

/-- The project, given its second source; the first one says nothing about its component. -/
def pairWorld (second : Text) : World where
  disk := { entries := [
    (["X.vue".toList], .file { content := .text bareSource, modified := 0 }),
    (["Y.vue".toList], .file { content := .text second, modified := 1 })] }

end ComponentBook.Batch
