import ComponentBook.Proofs.Disk.Writing
import ComponentBook.Proofs.Text.Lines
import ComponentBook.World.Basic

/-! # What requests change

The requests of a run write pages, the index and the log. **`World.Rewrites`** says what becomes of the
disk when the pages are kept in a directory: it arises by writing texts at places, the file of the log
left aside. `savePage` and `saveIndex` write one file or none (`rewrites_of_savePage`,
`rewrites_of_saveIndex`); every page that is saved is read back (**`readPage_of_savePage`**). -/

namespace ComponentBook.World

open Disk (Rewrites)

variable {u v w : World} {p : Path}

/-- The place of the file to which log records go. -/
def logPlace? (w : World) : Option Location := w.logFile.map fun (path, _) => w.disk.placeOf path

/-- The log does not go to the file of a path. -/
def LogsApart (w : World) (p : Path) : Prop := w.logPlace? ≠ some (w.disk.placeOf p)

/-- The log does not go to the file of a page. -/
def LogsApartFromPage (w : World) (name : Text) : Prop :=
  match w.shelf with
  | .memory _ => True
  | .directory pages => w.LogsApart (pages.pathOf name)

theorem mapError_eq_ok_iff {ε δ α : Type} {f : ε → δ} {x : Except ε α} {a : α} :
    x.mapError f = .ok a ↔ x = .ok a := by
  rcases x with e | b
  · exact ⟨nofun, nofun⟩
  · exact ⟨fun h => congrArg Except.ok (Except.ok.inj h),
      fun h => congrArg Except.ok (Except.ok.inj h)⟩

/-- The page that a directory has for a name is the text of its file. -/
theorem readPage_directory {pages : PageDirectory} {name t : Text}
    (hshelf : w.shelf = .directory pages) :
    w.readPage name = .ok (some t) ↔ w.disk.read (pages.pathOf name) = .ok t := by
  rw [readPage, hshelf]
  dsimp only
  rw [mapError_eq_ok_iff, PageDirectory.page?]
  split
  · next text htext => rw [htext]; simp
  · next htext => rw [htext]; simp
  · next htext => rw [htext]; simp

/-- The index template that is in use, or will be, is the bundled one. -/
def UsesBundledTemplate (w : World) : Prop :=
  w.templatesDirectory = none ∧
    ∀ t, w.template = some t → t = { text := bundledTemplate, origin := none }

/-- The log goes to the same place on a disk that has grown. -/
theorem logPlace?_congr (hlogFile : v.logFile = u.logFile) (hgrows : Disk.Grows u.disk v.disk) :
    v.logPlace? = u.logPlace? := by
  rw [logPlace?, logPlace?, hlogFile]
  exact Option.map_congr fun l _ => hgrows.placeOf l.1

/-- Surroundings with the same places for everything, in which texts have been written. -/
structure Rewrites (writes : List (Location × Text)) (w v : World) : Prop where
  shelf : v.shelf = w.shelf
  logFile : v.logFile = w.logFile
  bundled : w.UsesBundledTemplate → v.UsesBundledTemplate
  disk : w.disk.Rewrites w.logPlace? writes v.disk

namespace Rewrites

variable {writes more : List (Location × Text)}

theorem refl (w : World) : Rewrites [] w w := ⟨rfl, rfl, id, Disk.Rewrites.refl _ _⟩

theorem logPlace? (h : Rewrites writes w v) : v.logPlace? = w.logPlace? :=
  logPlace?_congr h.logFile h.disk.grows

theorem trans (h : Rewrites writes u v) (g : Rewrites more v w) :
    Rewrites (writes ++ more) u w := by
  refine ⟨g.shelf.trans h.shelf, g.logFile.trans h.logFile,
    fun hw => g.bundled (h.bundled hw), h.disk.trans ?_⟩
  rw [← h.logPlace?]
  exact g.disk

theorem logsApart_iff (h : Rewrites writes w v) : v.LogsApart p ↔ w.LogsApart p := by
  rw [LogsApart, LogsApart, h.logPlace?, h.disk.grows.placeOf]

theorem logsApartFromPage_iff (h : Rewrites writes w v) (name : Text) :
    v.LogsApartFromPage name ↔ w.LogsApartFromPage name := by
  rw [LogsApartFromPage, LogsApartFromPage, h.shelf]
  cases w.shelf with
  | memory pages => exact Iff.rfl
  | directory pages => exact h.logsApart_iff

/-- A file is read as long as nothing is written. -/
theorem read {t : Text} (h : Rewrites [] w v) (hlog : w.LogsApart p)
    (ht : w.disk.read p = .ok t) : v.disk.read p = .ok t := h.disk.read hlog ht

/-- A page is read as long as nothing is written. -/
theorem readPage {name t : Text} (h : Rewrites [] w v) (hlog : w.LogsApartFromPage name)
    (ht : w.readPage name = .ok (some t)) : v.readPage name = .ok (some t) := by
  cases hshelf : w.shelf with
  | memory pages =>
    rw [World.readPage, hshelf] at ht
    rw [World.readPage, h.shelf, hshelf]
    exact ht
  | directory pages =>
    rw [LogsApartFromPage, hshelf] at hlog
    rw [readPage_directory hshelf] at ht
    rw [readPage_directory (h.shelf.trans hshelf)]
    exact h.read hlog ht

end Rewrites

/-! ## The log -/

/-- A record that is told changes the disk in the file of the log at most. -/
theorem tell_eq (w : World) (r : Log.Record) :
    ∃ disk, w.disk.Rewrites w.logPlace? [] disk ∧
      w.tell r = { w with records := w.records ++ [r], disk } := by
  rw [tell, logPlace?]
  split
  · next hnone => exact ⟨w.disk, Disk.Rewrites.refl _ _, rfl⟩
  · next file setup hsome =>
    dsimp only at hsome
    dsimp only
    rw [hsome]
    split
    · split
      · next disk hdisk => exact ⟨disk, Disk.rewrites_of_append hdisk, rfl⟩
      · exact ⟨w.disk, Disk.Rewrites.refl _ _, rfl⟩
    · exact ⟨w.disk, Disk.Rewrites.refl _ _, rfl⟩

/-- A record that is told writes no text. -/
theorem rewrites_tell (w : World) (r : Log.Record) : Rewrites [] w (w.tell r) := by
  obtain ⟨disk, hdisk, heq⟩ := w.tell_eq r
  rw [heq]
  exact ⟨rfl, rfl, id, hdisk⟩

/-! ## The index template and git -/

/-- The index template is read anew at most. -/
theorem rewrites_indexTemplate (w : World) : Rewrites [] w w.indexTemplate.2 := by
  rw [indexTemplate]
  split
  · exact Rewrites.refl w
  · split
    · next t ht =>
      refine ⟨rfl, rfl, fun hw => ⟨hw.1, ?_⟩, Disk.Rewrites.refl _ _⟩
      rintro _ ⟨⟩
      rw [readTemplate, hw.1] at ht
      exact (Except.ok.inj ht).symm
    · exact ⟨rfl, rfl, fun hw => ⟨hw.1, nofun⟩, Disk.Rewrites.refl _ _⟩

/-- A project without a template of its own uses the bundled one. -/
theorem indexTemplate_of_bundled (h : w.UsesBundledTemplate) :
    w.indexTemplate.1 = .ok bundledTemplate := by
  rw [indexTemplate]
  split
  · next t ht =>
    obtain ⟨hw, -⟩ := Option.filter_eq_some_iff.1 ht
    rw [h.2 t hw]
  · rw [readTemplate, h.1]

/-- A git command changes no file. -/
theorem rewrites_answerGit (w : World) (directory : Path) (command : Git.Command) :
    Rewrites [] w (w.answerGit directory command).2 := by
  rw [answerGit]
  split <;> exact ⟨rfl, rfl, id, Disk.Rewrites.refl _ _⟩

/-! ## Saving -/

/-- Surroundings in which one text has been saved where a path leads. -/
structure Saves (p : Path) (t : Text) (w v : World) : Prop where
  rewrites : Rewrites [(w.disk.placeOf p, t)] w v
  hasNul : Disk.hasNul p = false
  find : v.disk.find p = .ok (w.disk.placeOf p)

theorem Saves.trans {t : Text} (h : Saves p t u v) (g : Rewrites [] v w) : Saves p t u w :=
  ⟨h.rewrites.trans g, h.hasNul, g.disk.grows.find h.find⟩

theorem Saves.after {t : Text} (h : Rewrites [] u v) (g : Saves p t v w) : Saves p t u w := by
  have hplace := h.disk.grows.placeOf p
  refine ⟨?_, g.hasNul, ?_⟩
  · -- the place is the same on both disks, since one has grown from the other
    have hboth := h.trans g.rewrites
    rw [hplace] at hboth
    exact hboth
  · rw [g.find, hplace]

/-- What has been saved is read back. -/
theorem Saves.read {t : Text} (h : Saves p t w v) (hlog : w.LogsApart p) (hunix : '\r' ∉ t) :
    v.disk.read p = .ok t := by
  have hplace := h.rewrites.disk.grows.placeOf p
  refine Disk.read_eq_ok_iff.2 ⟨h.hasNul, ?_, .text t, ?_, ?_⟩
  · rw [hplace, h.find]
  · rw [hplace, h.rewrites.disk.contentAt? _ hlog, Disk.overlay, List.foldl_cons, if_pos rfl]
    rfl
  · rw [Disk.readContent, Text.unifyNewlines_of_not_mem hunix]

section

variable {t : Text} {disk : Disk} {failure : Disk.Failure}

theorem saves_of_written (h : w.disk.writeWithDirectories p t = (.ok (), disk)) :
    Saves p t w { w with disk } := by
  obtain ⟨hrewrites, hnul, hfind⟩ := Disk.rewrites_of_writeWithDirectories w.logPlace? h
  exact ⟨⟨rfl, rfl, id, hrewrites⟩, hnul, hfind⟩

theorem rewrites_of_not_written (h : w.disk.writeWithDirectories p t = (.error failure, disk)) :
    Rewrites [] w { w with disk } := ⟨rfl, rfl, id, Disk.rewrites_of_not_written h⟩

end

variable {pages : PageDirectory}

/-- A page saved in a directory is written to its file and nowhere else, or it is written nowhere. -/
theorem savePage_cases (hshelf : w.shelf = .directory pages) (name page : Text) :
    (∃ e v, w.savePage name page = (.error e, v) ∧ Rewrites [] w v) ∨
      ∃ v, w.savePage name page = (.ok (some (pages.pathOf name)), v) ∧
        Saves (pages.pathOf name) page w v := by
  cases w
  cases hshelf
  rw [savePage]
  dsimp only [PageDirectory.save]
  rcases hwrite : Disk.writeWithDirectories _ (pages.pathOf name) page with ⟨e | done, disk⟩
  · exact .inl ⟨_, _, rfl, rewrites_of_not_written hwrite⟩
  · exact .inr ⟨_, rfl, (saves_of_written hwrite).trans (rewrites_tell _ _)⟩

/-- An index saved in a directory is written to its file and nowhere else, or it is written
nowhere. -/
theorem saveIndex_cases (hshelf : w.shelf = .directory pages) (index : Text) :
    (∃ e v, w.saveIndex index = (.error e, v) ∧ Rewrites [] w v) ∨
      ∃ v, w.saveIndex index = (.ok (some pages.indexPath), v) ∧
        Saves pages.indexPath index w v := by
  cases w
  cases hshelf
  rw [saveIndex]
  dsimp only [PageDirectory.saveIndex]
  rcases hwrite : Disk.writeWithDirectories _ pages.indexPath index with ⟨e | done, disk⟩
  · exact .inl ⟨_, _, rfl, rewrites_of_not_written hwrite⟩
  · exact .inr ⟨_, rfl, saves_of_written hwrite⟩

/-- A page that could be saved in a directory is in its file. -/
theorem savePage_eq_ok {name page : Text} {file : Option Path} (hshelf : w.shelf = .directory pages)
    (h : w.savePage name page = (.ok file, v)) :
    file = some (pages.pathOf name) ∧ Saves (pages.pathOf name) page w v := by
  rcases savePage_cases hshelf name page with ⟨e, u, he, -⟩ | ⟨u, hok, hsaves⟩
  · rw [he] at h
    cases h
  · rw [hok] at h
    obtain ⟨hfile, rfl⟩ := Prod.mk.inj h
    exact ⟨(Except.ok.inj hfile).symm, hsaves⟩

/-- An index that could be saved in a directory is in its file. -/
theorem saveIndex_eq_ok {index : Text} {file : Option Path} (hshelf : w.shelf = .directory pages)
    (h : w.saveIndex index = (.ok file, v)) :
    file = some pages.indexPath ∧ Saves pages.indexPath index w v := by
  rcases saveIndex_cases hshelf index with ⟨e, u, he, -⟩ | ⟨u, hok, hsaves⟩
  · rw [he] at h
    cases h
  · rw [hok] at h
    obtain ⟨hfile, rfl⟩ := Prod.mk.inj h
    exact ⟨(Except.ok.inj hfile).symm, hsaves⟩

/-- A page that cannot be saved is written nowhere. -/
theorem rewrites_of_savePage_error {name page : Text} {e : Failure}
    (h : w.savePage name page = (.error e, v)) : Rewrites [] w v := by
  cases hshelf : w.shelf with
  | memory pages =>
    rw [savePage, hshelf] at h
    cases h
  | directory pages =>
    rcases savePage_cases hshelf name page with ⟨_, u, he, hrewrites⟩ | ⟨u, hok, -⟩
    · rw [he] at h
      obtain rfl : u = v := (Prod.mk.inj h).2
      exact hrewrites
    · rw [hok] at h
      cases h

/-- An index that cannot be saved is written nowhere. -/
theorem rewrites_of_saveIndex_error {index : Text} {e : Failure}
    (h : w.saveIndex index = (.error e, v)) : Rewrites [] w v := by
  cases hshelf : w.shelf with
  | memory pages =>
    rw [saveIndex, hshelf] at h
    cases h
  | directory pages =>
    rcases saveIndex_cases hshelf index with ⟨_, u, he, hrewrites⟩ | ⟨u, hok, -⟩
    · rw [he] at h
      obtain rfl : u = v := (Prod.mk.inj h).2
      exact hrewrites
    · rw [hok] at h
      cases h

/-- A page that is saved is read back. -/
theorem readPage_of_savePage {name page : Text} {saved : Option Path}
    (h : w.savePage name page = (.ok saved, v))
    (hlog : w.LogsApartFromPage name) (hunix : '\r' ∉ page) :
    v.readPage name = .ok (some page) := by
  cases hshelf : w.shelf with
  | memory pages =>
    rw [savePage, hshelf] at h
    obtain ⟨-, rfl⟩ := Prod.mk.inj h
    exact congrArg Except.ok (pages.page?_save name page)
  | directory pages =>
    rw [LogsApartFromPage, hshelf] at hlog
    obtain ⟨-, hsaves⟩ := savePage_eq_ok hshelf h
    exact (readPage_directory (hsaves.rewrites.shelf.trans hshelf)).2 (hsaves.read hlog hunix)

/-- Saving a page does not send the log to it. -/
theorem logsApartFromPage_of_savePage {name page : Text} {saved : Option Path}
    (h : w.savePage name page = (.ok saved, v)) (hlog : w.LogsApartFromPage name) :
    v.LogsApartFromPage name := by
  cases hshelf : w.shelf with
  | memory pages =>
    rw [savePage, hshelf] at h
    obtain ⟨-, rfl⟩ := Prod.mk.inj h
    exact True.intro
  | directory pages =>
    obtain ⟨-, hsaves⟩ := savePage_eq_ok hshelf h
    exact (hsaves.rewrites.logsApartFromPage_iff name).2 hlog

end ComponentBook.World
