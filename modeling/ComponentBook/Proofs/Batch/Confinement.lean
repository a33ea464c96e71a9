import ComponentBook.Proofs.Batch.Writes
import ComponentBook.Proofs.Disk.Listing

/-! # Where a run writes

Apart from the log a run changes the files of pages and the file of the index only
(**`exists_of_changed`**). The file of a page is told by the name of its component: a name without a
slash leads to a file of the directory of pages (`inside_pagePlace`), while a name such as `../X` leads
out of it. So a run stays inside the directory exactly when the names of its components do
(**`confined_run_iff`**). -/

namespace ComponentBook.Batch

variable {s : Settings} {w v : World} {pages : PageDirectory} {paths : List Path}
  {staging : Option Bool} {name : Text} {l : Location}

/-- The place of the directory of pages. -/
def directoryPlace (w : World) (pages : PageDirectory) : Location :=
  w.disk.placeOf pages.directory

/-- A place below another one. -/
def Inside (directory l : Location) : Prop := directory <+: l ∧ l ≠ directory

/-- A file that is not that of the log holds something else than before, or is new. -/
def Changed (w v : World) (l : Location) : Prop :=
  w.logPlace? ≠ some l ∧ v.disk.contentAt? l ≠ w.disk.contentAt? l

/-- Nothing is changed but files inside the directory of pages and the index. -/
def Confined (w v : World) (pages : PageDirectory) : Prop :=
  ∀ l, Changed w v l → Inside (directoryPlace w pages) l ∨ l = indexPlace w pages

/-! ## Names without a slash -/

theorem pagePlace_of_not_mem (w : World) (pages : PageDirectory) (h : '/' ∉ name) :
    pagePlace w pages name = directoryPlace w pages ++ [name ++ pageSuffix] := by
  rw [pagePlace, pages.pathOf_of_not_mem h]
  exact Disk.placeOf_extend_singleton w.disk pages.directory
    (PageDirectory.ne_parent_of_suffix (List.suffix_append name pageSuffix))

/-- The page of a component whose name has no slash lies inside the directory. -/
theorem inside_pagePlace (w : World) (pages : PageDirectory) (h : '/' ∉ name) :
    Inside (directoryPlace w pages) (pagePlace w pages name) := by
  rw [pagePlace_of_not_mem w pages h]
  exact ⟨List.prefix_append _ _, by simp⟩

/-! ## Changed files -/

/-- Whatever a run changes is the page of a component that it reports, or the index. -/
theorem exists_of_changed (hshelf : w.shelf = .directory pages)
    (h : Changed w (w.attempt (run s paths staging)).2 l) :
    l = indexPlace w pages ∨
      ∃ r ∈ sourceReports s w paths, ∃ name, r.component = some name ∧
        l = pagePlace w pages name := by
  obtain ⟨u, saved, writes, hsaved, hrewrites, hindex⟩ := rewrites_run hshelf s paths staging
  obtain ⟨hlog, hchanged⟩ := h
  rw [hrewrites.disk.contentAt? l hlog] at hchanged
  -- a file that holds something else has been written
  have hmem : ∃ entry ∈ pageWrites w pages saved ++ writes, entry.1 = l := by
    by_contra hnone
    push Not at hnone
    exact hchanged (Disk.overlay_of_not_mem hnone _)
  obtain ⟨entry, hentry, rfl⟩ := hmem
  rcases List.mem_append.1 hentry with hentry | hentry
  · obtain ⟨page, hpage, rfl⟩ := List.mem_map.1 hentry
    obtain ⟨r, hr, hname⟩ := hsaved.exists_report hpage
    exact .inr ⟨r, hr, page.1, hname, rfl⟩
  · exact .inl (hindex entry hentry)

/-- **Where a run writes.** It changes the pages of the components that it reports, and the index. It
stays inside the directory of pages exactly when every page that it changes lies there or is the index;
the page of a component whose name has no slash always lies there. -/
theorem confined_run_iff (hshelf : w.shelf = .directory pages) :
    (∀ report, (w.attempt (run s paths staging)).1 = .ok report →
      report.results = sourceReports s w paths) ∧
    (∀ l, Changed w (w.attempt (run s paths staging)).2 l →
      l = indexPlace w pages ∨
        ∃ r ∈ sourceReports s w paths, ∃ name, r.component = some name ∧
          l = pagePlace w pages name) ∧
    (Confined w (w.attempt (run s paths staging)).2 pages ↔
      ∀ r ∈ sourceReports s w paths, ∀ name, r.component = some name →
        Changed w (w.attempt (run s paths staging)).2 (pagePlace w pages name) →
        Inside (directoryPlace w pages) (pagePlace w pages name) ∨
          pagePlace w pages name = indexPlace w pages) ∧
    ∀ name, '/' ∉ name → Inside (directoryPlace w pages) (pagePlace w pages name) := by
  refine ⟨fun report hreport => ?_, fun l => exists_of_changed hshelf, ?_,
    fun name hname => inside_pagePlace w pages hname⟩
  · obtain ⟨u, u', done, hruns⟩ := runs_run w s paths staging
    rw [(hruns.told report hreport).results, hruns.reports_eq]
  constructor
  · intro h r _ name _ hchanged
    exact h _ hchanged
  · intro h l hchanged
    rcases exists_of_changed hshelf hchanged with hindex | ⟨r, hr, name, hname, rfl⟩
    · exact .inr hindex
    · exact h r hr name hname hchanged

/-- The directory `/docs` with the index `index.md`. -/
def docsDirectory : PageDirectory where
  directory := { slashes := 1, names := ["docs".toList] }
  indexName := "index.md".toList

/-- A component that is named after its file stays in the directory. -/
theorem confined_bareSource :
    let w := sampleWorld bareSource (.directory docsDirectory)
    Confined w (w.attempt (run sampleSettings [samplePath] none)).2 docsDirectory := by
  intro w
  have h := @confined_run_iff sampleSettings w docsDirectory [samplePath] none rfl
  have hnames : ∀ r ∈ sourceReports sampleSettings w [samplePath],
      r.component = some "X".toList := by decide +kernel
  refine h.2.2.1.2 fun r hr name hname _ => .inl (h.2.2.2 name ?_)
  rw [hnames r hr] at hname
  obtain rfl := Option.some.inj hname
  decide

/-- The source of a component whose name leads out of a directory. -/
def escapingSource : Text := "<script>export default \x7b name: '../X' \x7d</script>".toList

/-- A name that leads out of the directory leads the run out of it: the page is written in front of the
directory, and the report tells of success. -/
theorem not_confined_escapingSource :
    let w := sampleWorld escapingSource (.directory docsDirectory)
    (w.attempt (run sampleSettings [samplePath] none)).1.toOption.map (·.success) = some true ∧
      ¬ Confined w (w.attempt (run sampleSettings [samplePath] none)).2 docsDirectory := by
  intro w
  have hrun : (w.attempt (run sampleSettings [samplePath] none)).1.toOption.map (·.success)
        = some true ∧
      (w.attempt (run sampleSettings [samplePath] none)).2.disk.contentAt? ["X.md".toList] ≠
        w.disk.contentAt? ["X.md".toList] := by decide +kernel
  refine ⟨hrun.1, fun h => ?_⟩
  rcases h ["X.md".toList] ⟨nofun, hrun.2⟩ with hinside | hindex
  · exact absurd hinside.1 (by decide +kernel)
  · exact absurd hindex (by decide +kernel)

end ComponentBook.Batch
