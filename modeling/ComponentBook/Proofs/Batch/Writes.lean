import ComponentBook.Proofs.Batch.Run
import ComponentBook.Proofs.Markdown.LaidLines

/-! # What a run writes to a directory

When pages are kept in a directory, a run writes the page of each source that it documents, in the order
of the sources (**`InTurn`**), and then the index. All that the disk holds afterwards follows from this
list of writes (**`rewrites_run`**). -/

namespace ComponentBook.Batch

open World (Rewrites Saves)

/-- What documenting some sources one after another comes to: the reports, and the pages that have been
saved, each under its name. -/
inductive InTurn (s : Settings) :
    World → List Path → List FileReport → List (Text × Text) → World → Prop
  | nil (w : World) : InTurn s w [] [] [] w
  | failed {w v u : World} {path : Path} {e : Failure} {paths : List Path}
      {reports : List FileReport} {saved : List (Text × Text)}
      (hrun : w.run (documentFile s path) = (failedReport path e, v)) (hv : Rewrites [] w v)
      (rest : InTurn s v paths reports saved u) :
      InTurn s w (path :: paths) (failedReport path e :: reports) saved u
  | written {w v u : World} {path : Path} {source : Text} {old : Option Text} {file : Option Path}
      {paths : List Path} {reports : List FileReport} {saved : List (Text × Text)}
      (hdoc : Documents s path w source old file v) (rest : InTurn s v paths reports saved u) :
      InTurn s w (path :: paths)
        (writtenReport path (describe s source path.stem).name file :: reports)
        (((describe s source path.stem).name, newPage s old (describe s source path.stem)) ::
          saved) u

theorem exists_inTurn (s : Settings) (paths : List Path) (w : World) :
    ∃ saved, InTurn s w paths (w.run (Plan.forEach (documentFile s) paths)).1 saved
      (w.run (Plan.forEach (documentFile s) paths)).2 := by
  -- each source is documented in the surroundings that the sources in front of it leave
  induction paths generalizing w with
  | nil => exact ⟨[], .nil w⟩
  | cons path paths ih =>
    rw [run_forEach_cons]
    rcases documentFile_cases w s path with ⟨e, v, hrun, hv⟩ | ⟨source, old, file, v, hdoc⟩
    · rw [hrun]
      obtain ⟨saved, hsaved⟩ := ih v
      exact ⟨saved, .failed hrun hv hsaved⟩
    · rw [hdoc.run]
      obtain ⟨saved, hsaved⟩ := ih v
      exact ⟨_, .written hdoc hsaved⟩

variable {s : Settings} {w u v : World} {pages : PageDirectory} {path : Path} {paths : List Path}
  {source : Text} {old : Option Text} {file : Option Path} {reports : List FileReport}
  {saved : List (Text × Text)}

/-- The place of the page with a name. -/
def pagePlace (w : World) (pages : PageDirectory) (name : Text) : Location :=
  w.disk.placeOf (pages.pathOf name)

/-- The place of the index. -/
def indexPlace (w : World) (pages : PageDirectory) : Location := w.disk.placeOf pages.indexPath

/-- Pages under names as writes to their places. -/
def pageWrites (w : World) (pages : PageDirectory) (saved : List (Text × Text)) :
    List (Location × Text) :=
  saved.map fun (name, page) => (pagePlace w pages name, page)

theorem mem_pageWrites (w : World) (pages : PageDirectory) {entry : Text × Text}
    (hentry : entry ∈ saved) : (pagePlace w pages entry.1, entry.2) ∈ pageWrites w pages saved :=
  List.mem_map.2 ⟨entry, hentry, rfl⟩

theorem pageWrites_eq {writes : List (Location × Text)} (h : Rewrites writes w v)
    (pages : PageDirectory) : pageWrites v pages = pageWrites w pages := by
  funext saved
  rw [pageWrites, pageWrites]
  refine List.map_congr_left fun entry _ => ?_
  show (pagePlace v pages entry.1, entry.2) = (pagePlace w pages entry.1, entry.2)
  rw [pagePlace, pagePlace, h.disk.grows.placeOf]

/-- A documented source has its page in the directory. -/
theorem Documents.saves (hshelf : w.shelf = .directory pages)
    (h : Documents s path w source old file v) :
    file = some (pages.pathOf (describe s source path.stem).name) ∧
      Saves (pages.pathOf (describe s source path.stem).name)
        (newPage s old (describe s source path.stem)) w v := by
  obtain ⟨u, u', hu, hv, hsave⟩ := h.save
  obtain ⟨hfile, hsaves⟩ := World.savePage_eq_ok (hu.shelf.trans hshelf) hsave
  exact ⟨hfile, (Saves.after hu hsaves).trans hv⟩

/-- An index that is written is in its file. -/
theorem WritesIndex.saves {names : List Text} {listed : List (Text × Text)} {index : Text}
    (hshelf : w.shelf = .directory pages) (h : WritesIndex s w names listed index file v) :
    file = some pages.indexPath ∧ Saves pages.indexPath index w v := by
  obtain ⟨u, u', hu, hv, hsave⟩ := h.save
  obtain ⟨hfile, hsaves⟩ := World.saveIndex_eq_ok (hu.shelf.trans hshelf) hsave
  exact ⟨hfile, (Saves.after hu hsaves).trans hv⟩

namespace InTurn

/-- What is saved in a directory is written to the places of the pages. -/
theorem rewrites (hshelf : w.shelf = .directory pages) (h : InTurn s w paths reports saved u) :
    Rewrites (pageWrites w pages saved) w u := by
  induction h with
  | nil w => exact Rewrites.refl w
  | failed hrun hv _ ih =>
    -- the places of pages are the same on the disk behind the first source
    have hrest := ih (hv.shelf.trans hshelf)
    rw [pageWrites_eq hv] at hrest
    exact hv.trans hrest
  | written hdoc _ ih =>
    obtain ⟨-, hsaves⟩ := hdoc.saves hshelf
    have hrest := ih (hsaves.rewrites.shelf.trans hshelf)
    rw [pageWrites_eq hsaves.rewrites] at hrest
    exact hsaves.rewrites.trans hrest

/-- A page that is saved is reported. -/
theorem exists_report (h : InTurn s w paths reports saved u) {entry : Text × Text}
    (hentry : entry ∈ saved) : ∃ r ∈ reports, r.component = some entry.1 := by
  induction h with
  | nil => cases hentry
  | failed _ _ _ ih =>
    obtain ⟨r, hr, hname⟩ := ih hentry
    exact ⟨r, List.mem_cons_of_mem _ hr, hname⟩
  | written _ _ ih =>
    rcases List.mem_cons.1 hentry with rfl | hentry
    · exact ⟨_, List.mem_cons_self, rfl⟩
    · obtain ⟨r, hr, hname⟩ := ih hentry
      exact ⟨r, List.mem_cons_of_mem _ hr, hname⟩

/-- When every source is documented, each report names the page that is saved for it. -/
theorem forall₂ (h : InTurn s w paths reports saved u) (hsuccess : ∀ r ∈ reports, r.success = true) :
    List.Forall₂ (fun r entry => r.component = some entry.1) reports saved := by
  induction h with
  | nil => exact .nil
  | failed => cases hsuccess _ List.mem_cons_self
  | written _ _ ih => exact .cons rfl (ih fun r hr => hsuccess r (List.mem_cons_of_mem _ hr))

/-- The path of a page that is saved leads to its place. -/
theorem find (hshelf : w.shelf = .directory pages) (h : InTurn s w paths reports saved u)
    {entry : Text × Text} (hentry : entry ∈ saved) :
    Disk.hasNul (pages.pathOf entry.1) = false ∧
      u.disk.find (pages.pathOf entry.1) = .ok (pagePlace w pages entry.1) := by
  induction h with
  | nil => cases hentry
  | failed _ hv _ ih =>
    obtain ⟨hnul, hfind⟩ := ih (hv.shelf.trans hshelf) hentry
    rw [pagePlace, hv.disk.grows.placeOf] at hfind
    exact ⟨hnul, hfind⟩
  | written hdoc hrest ih =>
    obtain ⟨-, hsaves⟩ := hdoc.saves hshelf
    have hshelfv := hsaves.rewrites.shelf.trans hshelf
    rcases List.mem_cons.1 hentry with rfl | hentry
    · exact ⟨hsaves.hasNul, (hrest.rewrites hshelfv).disk.grows.find hsaves.find⟩
    · obtain ⟨hnul, hfind⟩ := ih hshelfv hentry
      rw [pagePlace, hsaves.rewrites.disk.grows.placeOf] at hfind
      exact ⟨hnul, hfind⟩

/-- A page that is saved is in canonical layout. -/
theorem carriageReturn_not_mem (h : InTurn s w paths reports saved u) {entry : Text × Text}
    (hentry : entry ∈ saved) : '\r' ∉ entry.2 := by
  induction h with
  | nil => cases hentry
  | failed _ _ _ ih => exact ih hentry
  | written _ _ ih =>
    rcases List.mem_cons.1 hentry with rfl | hentry
    · exact Markdown.carriageReturn_not_mem_tidy _
    · exact ih hentry

end InTurn

/-- What rebuilding the index writes: the index, or nothing. -/
theorem rewrites_rebuildIndex (hshelf : w.shelf = .directory pages) :
    ∃ writes, Rewrites writes w (w.run (rebuildIndex s)).2 ∧
      ∀ entry ∈ writes, entry.1 = indexPlace w pages := by
  rcases rebuildIndex_cases w s with ⟨e, v, hrun, hv⟩ | ⟨names, listed, index, file, v, hindex⟩
  · rw [hrun]
    exact ⟨[], hv, List.forall_mem_nil _⟩
  · rw [hindex.run]
    obtain ⟨-, hsaves⟩ := hindex.saves hshelf
    exact ⟨_, hsaves.rewrites, List.forall_mem_singleton.2 rfl⟩

/-- **What a run writes.** The pages that it saves, and then the index or nothing. -/
theorem rewrites_run (hshelf : w.shelf = .directory pages) (s : Settings) (paths : List Path)
    (staging : Option Bool) :
    ∃ u saved writes, InTurn s w paths (sourceReports s w paths) saved u ∧
      Rewrites (pageWrites w pages saved ++ writes) w (w.attempt (run s paths staging)).2 ∧
      ∀ entry ∈ writes, entry.1 = indexPlace w pages := by
  obtain ⟨u, u', done, hruns⟩ := runs_run w s paths staging
  obtain ⟨saved, hsaved⟩ := exists_inTurn s paths w
  rw [hruns.documents, hruns.reports_eq] at hsaved
  have hpages := hsaved.rewrites hshelf
  obtain ⟨writes, hindex, hplace⟩ := rewrites_rebuildIndex (s := s) (hpages.shelf.trans hshelf)
  rw [hruns.index] at hindex
  refine ⟨u, saved, writes, hsaved, ?_, fun entry hentry => ?_⟩
  · have hall := (hpages.trans hindex).trans hruns.rest
    rw [List.append_nil] at hall
    exact hall
  · rw [hplace entry hentry, indexPlace, indexPlace, hpages.disk.grows.placeOf]

end ComponentBook.Batch
