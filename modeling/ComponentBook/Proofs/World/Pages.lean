import ComponentBook.Proofs.Store.Steady
import ComponentBook.Proofs.World.Conversation

/-! # Pages and index through a conversation

Pages and index are kept in memory or in a directory (**`World.HoldsPage`**, **`World.index?`**). An
exchange **`KeepsPages`** unless it saves a page that is not there already. As long as exchanges do so, the
surroundings are **`Steady`**: the pages that were listed and read are listed and read again
(**`Steady.pageNames`**, **`Steady.readPage`**), and the index stays what it is until it is saved anew
(**`index?_of_answers`**). Pages in a directory must be in order for that (**`InOrder`**). -/

namespace ComponentBook

namespace PageMemory

variable {m : PageMemory} {name page : Text}

theorem putPage_of_lookup {pages : List (Text × Text)} (h : pages.lookup name = some page) :
    putPage name page pages = pages := by
  induction pages with
  | nil => cases h
  | cons entry rest ih =>
    obtain ⟨n, p⟩ := entry
    by_cases hn : name = n
    · subst hn
      rw [List.lookup_cons_self] at h
      rw [putPage, if_pos rfl, Option.some.inj h]
    · have hne : (name == n) = false := by simp [hn]
      rw [List.lookup_cons, hne] at h
      rw [putPage, if_neg hn, ih h]

/-- Saving a page that is there already changes no page. -/
theorem pages_save_of_page? (h : m.page? name = some page) : (m.save name page).pages = m.pages :=
  putPage_of_lookup h

end PageMemory

namespace World

variable {u v w : World} {x : Exchange} {pages : PageDirectory} {name page index : Text}

/-- The surroundings with another index template in use. -/
def withTemplate (w : World) (template : Option LoadedTemplate) : World := { w with template }

/-- The index that is kept. -/
def index? (w : World) : Option Content :=
  match w.shelf with
  | .memory pages => pages.index.map .text
  | .directory pages => w.disk.contentAt? (w.disk.placeOf pages.indexPath)

/-- A page is kept under a name. -/
def HoldsPage (w : World) (name page : Text) : Prop :=
  match w.shelf with
  | .memory pages => pages.page? name = some page
  | .directory pages => w.disk.contentAt? (w.disk.placeOf (pages.pathOf name)) = some (.text page)

/-- An exchange that saves no page, or one that is kept already. -/
def KeepsPages (w : World) (x : Exchange) : Prop :=
  ∀ name page file, x = ⟨.savePage name page, .ok file⟩ → w.HoldsPage name page

/-- Later surroundings with the same pages. -/
inductive Steady (u v : World) : Prop
  | memory {m n : PageMemory} (before : u.shelf = .memory m) (after : v.shelf = .memory n)
      (pages : n.pages = m.pages)
  | directory {pages : PageDirectory} (before : u.shelf = .directory pages)
      (after : v.shelf = .directory pages) (logFile : v.logFile = u.logFile)
      (keeps : pages.Keeps u.logPlace? u.disk v.disk)

theorem steady_of_rewrites (h : Rewrites [] u v) : Steady u v := by
  cases hshelf : u.shelf with
  | memory m => exact .memory hshelf (h.shelf.trans hshelf) rfl
  | directory pages =>
    exact .directory hshelf (h.shelf.trans hshelf) h.logFile
      ⟨h.disk.grows, fun l hlog _ => h.disk.contentAt? l hlog⟩

namespace Steady

theorem refl (w : World) : Steady w w := steady_of_rewrites (Rewrites.refl w)

theorem trans (h : Steady u v) (g : Steady v w) : Steady u w := by
  cases h with
  | memory before after pages =>
    cases g with
    | memory before' after' pages' =>
      obtain rfl := Shelf.memory.inj (after.symm.trans before')
      exact .memory before after' (pages'.trans pages)
    | directory before' => cases after.symm.trans before'
  | directory before after logFile keeps =>
    cases g with
    | memory before' => cases after.symm.trans before'
    | directory before' after' logFile' keeps' =>
      obtain rfl := Shelf.directory.inj (after.symm.trans before')
      rw [logPlace?_congr logFile keeps.grows] at keeps'
      exact .directory before after' (logFile'.trans logFile) (keeps.trans keeps')

theorem grows (h : Steady u v) (hshelf : u.shelf = .directory pages) : Disk.Grows u.disk v.disk := by
  cases h with
  | memory before => cases hshelf.symm.trans before
  | directory _ _ _ keeps => exact keeps.grows

theorem shelf_eq_of_directory (h : Steady u v) (hshelf : v.shelf = .directory pages) :
    u.shelf = .directory pages := by
  cases h with
  | memory _ after => cases hshelf.symm.trans after
  | directory before after => rw [before, ← after, hshelf]

theorem of_withTemplate {template : Option LoadedTemplate} (h : Steady (u.withTemplate template) v) :
    Steady u v := by
  cases h with
  | memory before after pages => exact .memory before after pages
  | directory before after logFile keeps => exact .directory before after logFile keeps

end Steady

/-- A text that is saved where it is held already changes no file. -/
theorem Saves.contentAt?_of_held {p : Path} {t : Text} (h : Saves p t u v)
    (hheld : u.disk.contentAt? (u.disk.placeOf p) = some (.text t)) {l : Location}
    (hlog : u.logPlace? ≠ some l) : v.disk.contentAt? l = u.disk.contentAt? l := by
  rw [h.rewrites.disk.contentAt? l hlog, Disk.overlay, List.foldl_cons, List.foldl_nil]
  split
  · next hplace =>
    have hplace : u.disk.placeOf p = l := hplace
    rw [← hplace, hheld]
  · rfl

theorem savePage_memory {m : PageMemory} (hshelf : u.shelf = .memory m) {file : Option Path}
    (h : u.savePage name page = (.ok file, v)) : v.shelf = .memory (m.save name page) := by
  rw [savePage, hshelf] at h
  rw [← (Prod.mk.inj h).2]

theorem saveIndex_memory {m : PageMemory} (hshelf : u.shelf = .memory m) {file : Option Path}
    (h : u.saveIndex index = (.ok file, v)) : v.shelf = .memory (m.saveIndex index) := by
  rw [saveIndex, hshelf] at h
  rw [← (Prod.mk.inj h).2]

/-- The pages stay when every page that is saved is there already. -/
theorem steady_of_answers (h : u.Answers x v) (hkeeps : u.KeepsPages x)
    (hpause : x.concern ≠ .pause) : Steady u v := by
  rcases answers_cases h hpause with
    hrewrites | ⟨name, page, file, rfl, hsave⟩ | ⟨index, file, rfl, hsave⟩
  · exact steady_of_rewrites hrewrites
  · have hheld := hkeeps name page file rfl
    rw [HoldsPage] at hheld
    cases hshelf : u.shelf with
    | memory m =>
      rw [hshelf] at hheld
      exact .memory hshelf (savePage_memory hshelf hsave) (PageMemory.pages_save_of_page? hheld)
    | directory pages =>
      rw [hshelf] at hheld
      obtain ⟨-, hsaves⟩ := savePage_eq_ok hshelf hsave
      -- the page is written where it stands already
      exact .directory hshelf (hsaves.rewrites.shelf.trans hshelf) hsaves.rewrites.logFile
        ⟨hsaves.rewrites.disk.grows, fun l hlog _ => hsaves.contentAt?_of_held hheld hlog⟩
  · cases hshelf : u.shelf with
    | memory m => exact .memory hshelf (saveIndex_memory hshelf hsave) (m.pages_saveIndex index)
    | directory pages =>
      obtain ⟨-, hsaves⟩ := saveIndex_eq_ok hshelf hsave
      refine .directory hshelf (hsaves.rewrites.shelf.trans hshelf) hsaves.rewrites.logFile
        ⟨hsaves.rewrites.disk.grows, fun l hlog hindex => ?_⟩
      rw [hsaves.rewrites.disk.contentAt? l hlog]
      exact Disk.overlay_of_not_mem (by simpa using Ne.symm hindex) _

/-! ## The index -/

/-- In a directory the log does not go to the file of the index. -/
def LogsApartFromIndex (w : World) : Prop :=
  match w.shelf with
  | .memory _ => True
  | .directory pages => w.LogsApart pages.indexPath

theorem Steady.logsApartFromIndex (h : Steady u v) (hlog : u.LogsApartFromIndex) :
    v.LogsApartFromIndex := by
  rw [LogsApartFromIndex] at hlog ⊢
  cases h with
  | memory before after pages =>
    rw [after]
    exact True.intro
  | directory before after logFile keeps =>
    rw [before] at hlog
    rw [after]
    dsimp only at hlog ⊢
    rw [LogsApart, logPlace?_congr logFile keeps.grows, keeps.grows.placeOf]
    exact hlog

/-- What has been saved as the index is the index. -/
theorem index?_of_saveIndex {file : Option Path} (h : u.saveIndex index = (.ok file, v))
    (hlog : u.LogsApartFromIndex) : v.index? = some (.text index) := by
  rw [index?]
  rw [LogsApartFromIndex] at hlog
  cases hshelf : u.shelf with
  | memory m =>
    rw [saveIndex_memory hshelf h]
    rfl
  | directory pages =>
    rw [hshelf] at hlog
    obtain ⟨-, hsaves⟩ := saveIndex_eq_ok hshelf h
    rw [hsaves.rewrites.shelf, hshelf]
    dsimp only
    rw [hsaves.rewrites.disk.grows.placeOf, hsaves.rewrites.disk.contentAt? _ hlog, Disk.overlay,
      List.foldl_cons, if_pos rfl]
    rfl

/-- The index stays until it is saved anew. -/
theorem index?_of_answers (hanswers : u.Answers x v) (hkeeps : u.KeepsPages x)
    (hpause : x.concern ≠ .pause) (hindex : x.savesIndex = false) (hlog : u.LogsApartFromIndex) :
    v.index? = u.index? := by
  rw [index?, index?]
  rw [LogsApartFromIndex] at hlog
  rcases answers_cases hanswers hpause with
    hrewrites | ⟨name, page, file, rfl, hsave⟩ | ⟨index, file, rfl, -⟩
  · -- only logs are written to, and the index lies apart from them
    rw [hrewrites.shelf]
    cases hshelf : u.shelf with
    | memory m => rfl
    | directory pages =>
      rw [hshelf] at hlog
      dsimp only
      rw [hrewrites.disk.grows.placeOf, hrewrites.disk.contentAt? _ hlog]
      rfl
  · -- a page that is there already is written where it lies, which is not where the index does
    have hheld := hkeeps name page file rfl
    rw [HoldsPage] at hheld
    cases hshelf : u.shelf with
    | memory m =>
      rw [savePage_memory hshelf hsave]
      rfl
    | directory pages =>
      rw [hshelf] at hheld hlog
      obtain ⟨-, hsaves⟩ := savePage_eq_ok hshelf hsave
      rw [hsaves.rewrites.shelf, hshelf]
      dsimp only
      rw [hsaves.rewrites.disk.grows.placeOf, hsaves.contentAt?_of_held hheld hlog]
  · cases hindex

/-! ## Sound disks -/

theorem sound_tell (h : w.disk.Sound) (r : Log.Record) : (w.tell r).disk.Sound := by
  rw [tell]
  split
  · exact h
  · next file setup _ =>
    split
    · split
      · next disk happend => exact Disk.Sound.append (d := w.disk) h happend
      · exact h
    · exact h

theorem sound_savePage (h : w.disk.Sound) (name page : Text) :
    (w.savePage name page).2.disk.Sound := by
  rw [savePage]
  split
  · exact h
  · next pages _ =>
    have hwritten := h.writeWithDirectories (pages.pathOf name) page
    dsimp only [PageDirectory.save]
    split
    · exact sound_tell (w := { w with disk := _ }) hwritten _
    · exact hwritten

theorem sound_saveIndex (h : w.disk.Sound) (index : Text) : (w.saveIndex index).2.disk.Sound := by
  rw [saveIndex]
  split
  · exact h
  · next pages _ => exact h.writeWithDirectories pages.indexPath index

/-- Whatever is asked for but a pause, the disk stays sound. -/
theorem sound_of_answers (h : u.Answers x v) (hpause : x.concern ≠ .pause) (hsound : u.disk.Sound) :
    v.disk.Sound := by
  cases h with
  | failed => exact hsound
  | answered r =>
    cases r with
    | log record => exact sound_tell hsound record
    | savePage name page => exact sound_savePage hsound name page
    | saveIndex index => exact sound_saveIndex hsound index
    | indexTemplate =>
      show u.indexTemplate.2.disk.Sound
      rw [indexTemplate]
      split
      · exact hsound
      · split <;> exact hsound
    | git directory command =>
      show (u.answerGit directory command).2.disk.Sound
      rw [answerGit]
      split <;> exact hsound
    | pause seconds => exact absurd rfl hpause
    | _ => exact hsound

/-! ## Pages in a directory -/

theorem exists_rewrites_of_answers (hshelf : u.shelf = .directory pages) (h : u.Answers x v)
    (hpause : x.concern ≠ .pause) : ∃ writes, Rewrites writes u v := by
  rcases answers_cases h hpause with
    hrewrites | ⟨name, page, file, -, hsave⟩ | ⟨index, file, -, hsave⟩
  · exact ⟨_, hrewrites⟩
  · exact ⟨_, (savePage_eq_ok hshelf hsave).2.rewrites⟩
  · exact ⟨_, (saveIndex_eq_ok hshelf hsave).2.rewrites⟩

/-- What is listed is listed by the directory. -/
theorem lists_of_pageNames {names : List Text} (hshelf : u.shelf = .directory pages)
    (hnames : u.pageNames = .ok names) (hname : name ∈ names) : pages.Lists u.disk name := by
  rw [pageNames, hshelf] at hnames
  dsimp only at hnames
  rw [mapError_eq_ok_iff] at hnames
  exact (PageDirectory.mem_names_iff hnames).1 hname

/-- Pages and index in a directory are told from each other and from the log, from some time until a later
one. -/
structure InOrder (pages : PageDirectory) (u w : World) : Prop where
  /-- The index is a file of the directory. -/
  plain : pages.HasPlainIndex
  /-- The disk is sound at first. -/
  sound : u.disk.Sound
  /-- The directory is there at first, or its path leads to it without `..`. -/
  there : u.disk.isDirectory pages.directory = .ok true ∨
    ['.', '.'] ∉ u.disk.namesOf pages.directory
  /-- The log does not go to the file of the index. -/
  index : u.LogsApart pages.indexPath
  /-- In the end every page has a name, and the log does not go to its file. -/
  clear : pages.Clear w.logPlace? w.disk

/-- If pages and index are in a directory, they are in order until some later time. -/
def Orderly (u w : World) : Prop := ∀ pages, u.shelf = .directory pages → InOrder pages u w

namespace Orderly

theorem withTemplate (h : Orderly u w) (template : Option LoadedTemplate) :
    Orderly (u.withTemplate template) w := fun pages hshelf =>
  have h := h pages hshelf
  ⟨h.plain, h.sound, h.there, h.index, h.clear⟩

/-- An exchange keeps pages and index in order. -/
theorem of_answers (h : Orderly u w) (hanswers : u.Answers x v) (hpause : x.concern ≠ .pause) :
    Orderly v w := by
  intro pages hafter
  cases hshelf : u.shelf with
  | memory m =>
    -- pages in memory stay there
    exfalso
    rcases answers_cases hanswers hpause with
      hrewrites | ⟨name, page, file, -, hsave⟩ | ⟨index, file, -, hsave⟩
    · cases hafter.symm.trans (hrewrites.shelf.trans hshelf)
    · cases hafter.symm.trans (savePage_memory hshelf hsave)
    · cases hafter.symm.trans (saveIndex_memory hshelf hsave)
  | directory before =>
    obtain ⟨writes, hrewrites⟩ := exists_rewrites_of_answers hshelf hanswers hpause
    obtain rfl := Shelf.directory.inj (hafter.symm.trans (hrewrites.shelf.trans hshelf))
    have hgrows := hrewrites.disk.grows
    have h := h pages hshelf
    refine ⟨h.plain, sound_of_answers hanswers hpause h.sound, ?_, ?_, h.clear⟩
    · rw [hgrows.namesOf]
      exact h.there.imp_left hgrows.isDirectory
    · exact hrewrites.logsApart_iff.2 h.index

theorem logsApartFromIndex (h : Orderly u w) : u.LogsApartFromIndex := by
  rw [LogsApartFromIndex]
  cases hshelf : u.shelf with
  | memory m => exact True.intro
  | directory pages => exact (h pages hshelf).index

end Orderly

/-- The index has been saved in a directory that is there. -/
theorem isDirectory_of_saveIndex (hshelf : u.shelf = .directory pages)
    (hplain : pages.HasPlainIndex) {file : Option Path} (h : u.saveIndex index = (.ok file, v)) :
    v.disk.isDirectory pages.directory = .ok true := by
  obtain ⟨-, hsaves⟩ := saveIndex_eq_ok hshelf h
  have hnul := hsaves.hasNul
  have hfind := hsaves.find
  rw [hplain.indexPath, PageDirectory.fileIn] at hnul hfind
  rw [Disk.hasNul, Disk.extend, List.any_append, Bool.or_eq_false_iff] at hnul
  exact Disk.isDirectory_eq_ok_true_iff.2 ⟨hnul.1, Disk.find_of_find_extend hfind⟩

namespace Steady

variable {names : List Text}

/-- The pages that were listed are listed. -/
theorem pageNames (h : Steady u v) (horder : Orderly u v) (hlater : Orderly v v)
    (hdir : ∀ pages, v.shelf = .directory pages → v.disk.isDirectory pages.directory = .ok true)
    (hnames : u.pageNames = .ok names) : v.pageNames = .ok names := by
  cases h with
  | memory before after same =>
    rw [World.pageNames, before] at hnames
    rw [World.pageNames, after]
    dsimp only [PageMemory.names] at hnames ⊢
    rw [same]
    exact hnames
  | @directory pages before after logFile keeps =>
    have horder := horder pages before
    have hclear := horder.clear
    rw [logPlace?_congr logFile keeps.grows] at hclear
    rw [World.pageNames, before] at hnames
    rw [World.pageNames, after]
    dsimp only at hnames ⊢
    rw [mapError_eq_ok_iff] at hnames ⊢
    exact keeps.names_eq horder.plain hclear horder.sound (hlater pages after).sound horder.there
      (hdir pages after) hnames

/-- A page that was listed is read as it was. -/
theorem readPage {page : Option Text} (h : Steady u v) (horder : Orderly u v)
    (hlists : ∀ pages, u.shelf = .directory pages → pages.Lists u.disk name)
    (hpage : u.readPage name = .ok page) : v.readPage name = .ok page := by
  cases h with
  | memory before after same =>
    rw [World.readPage, before] at hpage
    rw [World.readPage, after]
    dsimp only [PageMemory.page?] at hpage ⊢
    rw [same]
    exact hpage
  | @directory pages before after logFile keeps =>
    have horder := horder pages before
    have hclear := horder.clear
    rw [logPlace?_congr logFile keeps.grows] at hclear
    rw [World.readPage, before] at hpage
    rw [World.readPage, after]
    dsimp only at hpage ⊢
    rw [mapError_eq_ok_iff] at hpage ⊢
    exact keeps.page?_eq horder.plain hclear (hlists pages before) hpage

end Steady

end World

end ComponentBook
