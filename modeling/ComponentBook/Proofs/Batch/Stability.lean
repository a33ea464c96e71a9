import ComponentBook.Proofs.Batch.Run
import ComponentBook.Proofs.Markdown.OneLine
import ComponentBook.Proofs.Script.TidyProse

/-! # Documenting a source twice

Pages in memory that nobody edits are those that runs have left (**`Reached`**). On each of them the
description is a plain line that opens no section, or there is none (**`Settled`**): every source gives
such a line, and every page is written with it or with the line of the page before. So a source that is
documented twice in a row gets the same page both times (**`documentFile_documentFile`**). -/

namespace ComponentBook.Batch

open Markdown (FitsTitle description? opensSection)
open Text (IsPlain OneLine)
open World (Rewrites)

/-! ## What a source says -/

theorem oneLine_describe (s : Settings) (source fallback : Text) :
    OneLine (describe s source fallback).description := by
  rw [describe]
  split <;> exact Script.oneLine_description _

/-! ## Settled pages -/

/-- The description of a page, if there is one, is a plain line that opens no section. -/
def Settled (page : Text) : Prop :=
  ∀ d, description? page = some d → IsPlain d ∧ opensSection d = false

variable {s : Settings} {c : Component} {old : Option Text}

theorem settled_bind (hold : ∀ page, old = some page → Settled page) (d : Text)
    (hd : old.bind description? = some d) : IsPlain d ∧ opensSection d = false := by
  obtain ⟨page, hpage, hd⟩ := Option.bind_eq_some_iff.1 hd
  exact hold page hpage d hd

/-- A page that is written after a settled one is settled. -/
theorem settled_newPage (hlocale : s.locale ∈ Locale.all) (hname : FitsTitle c.name)
    (hown : OneLine c.description) (hold : ∀ page, old = some page → Settled page) :
    Settled (newPage s old c) :=
  fun _ hd => Markdown.plain_of_description?_page hlocale hname hown
    (fun d hd => (settled_bind hold d hd).1) hd

/-- A page that is written after a settled one does not change when it is written once more. -/
theorem newPage_newPage (hlocale : s.locale ∈ Locale.all) (hname : FitsTitle c.name)
    (hown : OneLine c.description) (hold : ∀ page, old = some page → Settled page) :
    newPage s (some (newPage s old c)) c = newPage s old c :=
  Markdown.page_of_description?_page hlocale hname hown (settled_bind hold)

/-! ## Pages in memory -/

/-- The pages in memory under names that fit a title are settled. -/
def SettledMemory (m : PageMemory) : Prop :=
  ∀ name page, FitsTitle name → m.page? name = some page → Settled page

/-- Pages that runs have left in memory, one run after another; the sources, the languages and the
other settings can be different ones in each run. -/
inductive Reached : PageMemory → Prop
  | empty : Reached {}
  | run {m m' : PageMemory} {w : World} {s : Settings} {paths : List Path} {staging : Option Bool}
      (hm : Reached m) (hshelf : w.shelf = .memory m) (hlocale : s.locale ∈ Locale.all)
      (hrun : (w.attempt (run s paths staging)).2.shelf = .memory m') : Reached m'

variable {w v : World} {m : PageMemory} {path : Path} {source : Text} {saved : Option Path}

theorem savePage_memory (hshelf : w.shelf = .memory m) (name page : Text) :
    w.savePage name page = (.ok none, { w with shelf := .memory (m.save name page) }) := by
  rw [World.savePage, hshelf]

theorem readPage_memory (hshelf : w.shelf = .memory m) (name : Text) :
    w.readPage name = .ok (m.page? name) := by
  rw [World.readPage, hshelf]

/-- The page of a documented source is put into memory, made from the one that was there. -/
theorem Documents.memory (hshelf : w.shelf = .memory m) (h : Documents s path w source old saved v) :
    old = m.page? (describe s source path.stem).name ∧
      v.shelf = .memory (m.save (describe s source path.stem).name
        (newPage s (m.page? (describe s source path.stem).name) (describe s source path.stem))) := by
  obtain ⟨u, hu, -, hpage⟩ := h.read
  rw [readPage_memory (hu.shelf.trans hshelf)] at hpage
  obtain rfl := Except.ok.inj hpage
  obtain ⟨u, u', hu, hv, hsave⟩ := h.save
  rw [savePage_memory (hu.shelf.trans hshelf)] at hsave
  obtain ⟨-, rfl⟩ := Prod.mk.inj hsave
  exact ⟨rfl, hv.shelf⟩

/-- Documenting a source keeps the pages in memory settled. -/
theorem settledMemory_documentFile (hlocale : s.locale ∈ Locale.all) (hshelf : w.shelf = .memory m)
    (hm : SettledMemory m) (path : Path) :
    ∃ m', (w.run (documentFile s path)).2.shelf = .memory m' ∧ SettledMemory m' := by
  rcases documentFile_cases w s path with ⟨e, v, hrun, hv⟩ | ⟨source, old, saved, v, hdoc⟩
  · rw [hrun]
    exact ⟨m, hv.shelf.trans hshelf, hm⟩
  · rw [hdoc.run]
    obtain ⟨-, hv⟩ := hdoc.memory hshelf
    refine ⟨_, hv, fun name page hname hpage => ?_⟩
    -- the page that is saved is settled, and every other page stays as it is
    by_cases hsame : name = (describe s source path.stem).name
    · subst hsame
      rw [PageMemory.page?_save] at hpage
      obtain rfl := Option.some.inj hpage
      exact settled_newPage hlocale hname (oneLine_describe _ _ _) (hm _ · hname)
    · rw [PageMemory.page?_save_of_ne m hsame] at hpage
      exact hm name page hname hpage

theorem settledMemory_forEach (hlocale : s.locale ∈ Locale.all) (paths : List Path)
    (hshelf : w.shelf = .memory m) (hm : SettledMemory m) :
    ∃ m', (w.run (Plan.forEach (documentFile s) paths)).2.shelf = .memory m' ∧ SettledMemory m' := by
  induction paths generalizing w m with
  | nil => exact ⟨m, hshelf, hm⟩
  | cons path paths ih =>
    obtain ⟨m', hshelf', hm'⟩ := settledMemory_documentFile hlocale hshelf hm path
    rw [run_forEach_cons]
    exact ih hshelf' hm'

/-- Rebuilding the index keeps the pages in memory. -/
theorem settledMemory_rebuildIndex (hshelf : w.shelf = .memory m) (hm : SettledMemory m) :
    ∃ m', (w.run (rebuildIndex s)).2.shelf = .memory m' ∧ SettledMemory m' := by
  rcases rebuildIndex_cases w s with ⟨e, v, hrun, hv⟩ | ⟨names, pages, index, saved, v, hindex⟩
  · rw [hrun]
    exact ⟨m, hv.shelf.trans hshelf, hm⟩
  · obtain ⟨u, u', hu, hv, hsave⟩ := hindex.save
    rw [World.saveIndex, hu.shelf.trans hshelf] at hsave
    obtain ⟨-, rfl⟩ := Prod.mk.inj hsave
    rw [hindex.run]
    exact ⟨_, hv.shelf, hm⟩

/-- The pages that runs leave in memory are settled. -/
theorem Reached.settled (h : Reached m) : SettledMemory m := by
  induction h with
  | empty => exact fun name page _ hpage => nomatch hpage
  | @run m m' w s paths staging _ hshelf hlocale hrun ih =>
    -- the invariant goes through the two parts of the run that save something
    obtain ⟨u, u', done, hruns⟩ := runs_run w s paths staging
    obtain ⟨m₁, hshelf₁, hm₁⟩ := settledMemory_forEach hlocale paths hshelf ih
    rw [hruns.documents] at hshelf₁
    obtain ⟨m₂, hshelf₂, hm₂⟩ := settledMemory_rebuildIndex (s := s) hshelf₁ hm₁
    rw [hruns.index] at hshelf₂
    rw [hruns.rest.shelf, hshelf₂] at hrun
    obtain rfl := Shelf.memory.inj hrun
    exact hm₂

/-! ## Twice in a row -/

/-- A source that can be read is documented in memory. -/
theorem exists_documents_memory (hshelf : w.shelf = .memory m) (hlog : w.LogsApart path)
    (hsource : w.disk.read path = .ok source) :
    ∃ v, Documents s path w source (m.page? (describe s source path.stem).name) none v := by
  have htold := w.rewrites_tell (processing path)
  have hread := htold.read hlog hsource
  have hpage := readPage_memory (htold.shelf.trans hshelf) (describe s source path.stem).name
  have hkept := rewrites_tellKept (w.tell (processing path))
    ((m.page? (describe s source path.stem).name).bind description?)
    (describe s source path.stem).name
  have hsave := savePage_memory ((htold.trans hkept).shelf.trans hshelf)
    (describe s source path.stem).name
    (newPage s (m.page? (describe s source path.stem).name) (describe s source path.stem))
  have hrun := run_documentFile w s path
  rw [attempt_writePage, hread] at hrun
  dsimp only at hrun
  rw [hpage] at hrun
  dsimp only at hrun
  rw [hsave] at hrun
  exact ⟨_, hrun, ⟨_, htold, hread, hpage⟩, ⟨_, _, htold.trans hkept, World.rewrites_tell _ _, hsave⟩⟩

/-- Documenting a source in memory does not change what is read elsewhere. -/
theorem Documents.read_memory {q : Path} {t : Text} (hshelf : w.shelf = .memory m)
    (h : Documents s path w source old saved v) (hlog : w.LogsApart q)
    (ht : w.disk.read q = .ok t) : v.LogsApart q ∧ v.disk.read q = .ok t := by
  obtain ⟨u, u', hu, hv, hsave⟩ := h.save
  rw [savePage_memory (hu.shelf.trans hshelf)] at hsave
  obtain ⟨-, rfl⟩ := Prod.mk.inj hsave
  have hlogu : u.LogsApart q := hu.logsApart_iff.2 hlog
  exact ⟨hv.logsApart_iff.2 hlogu, hv.read hlogu (hu.read hlog ht)⟩

/-- **Documenting a source twice.** Whatever runs have come before, a source that is documented twice
in a row gets the same page both times. The log does not go to the source, which would change it in
between. -/
theorem documentFile_documentFile (hm : Reached m) (hshelf : w.shelf = .memory m)
    (hlocale : s.locale ∈ Locale.all) (hlog : w.LogsApart path)
    (hsource : w.disk.read path = .ok source)
    (hname : FitsTitle (describe s source path.stem).name) :
    let first := w.run (documentFile s path)
    let second := first.2.run (documentFile s path)
    first.1.success = true ∧ second.1.success = true ∧
      ∃ page, first.2.readPage (describe s source path.stem).name = .ok (some page) ∧
        second.2.readPage (describe s source path.stem).name = .ok (some page) := by
  obtain ⟨v, hfirst⟩ := exists_documents_memory (s := s) hshelf hlog hsource
  obtain ⟨hlogv, hsourcev⟩ := hfirst.read_memory hshelf hlog hsource
  obtain ⟨-, hshelfv⟩ := hfirst.memory hshelf
  obtain ⟨x, hsecond⟩ := exists_documents_memory (s := s) hshelfv hlogv hsourcev
  obtain ⟨-, hshelfx⟩ := hsecond.memory hshelfv
  dsimp only
  rw [hfirst.run]
  dsimp only
  rw [hsecond.run, readPage_memory hshelfv, readPage_memory hshelfx, PageMemory.page?_save,
    PageMemory.page?_save]
  refine ⟨rfl, rfl, _, rfl, ?_⟩
  rw [newPage_newPage hlocale hname (oneLine_describe _ _ _)
    fun page => hm.settled _ page hname]

/-- The source of a component whose description looks like the row of a table. -/
def rowSource : Text := "<script>\n/**\n * | row\n */\nexport default {}\n</script>".toList

theorem name_rowSource :
    (describe sampleSettings rowSource samplePath.stem).name = "X".toList := by decide +kernel

/-- A description that the layout changes is the same on both pages. -/
theorem documentFile_documentFile_rowSource :
    let first := (sampleWorld rowSource (.memory {})).run (documentFile sampleSettings samplePath)
    let second := first.2.run (documentFile sampleSettings samplePath)
    first.1.success = true ∧ second.1.success = true ∧
      ∃ page, first.2.readPage "X".toList = .ok (some page) ∧
        second.2.readPage "X".toList = .ok (some page) := by
  have h := @documentFile_documentFile sampleSettings (sampleWorld rowSource (.memory {})) {}
    samplePath rowSource .empty rfl List.mem_cons_self nofun (by rfl)
    ⟨by rw [name_rowSource]; rfl, by rw [name_rowSource]; exact Text.no_break_of_all rfl⟩
  rw [name_rowSource] at h
  exact h

end ComponentBook.Batch
