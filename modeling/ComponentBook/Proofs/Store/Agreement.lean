import ComponentBook.Proofs.Disk.Directory
import ComponentBook.Proofs.Text.Order
import ComponentBook.Store.Memory

/-! # Pages in a directory and pages in memory

Whatever is done with a store of pages (**`StoreOperation`**), it answers the same whether the pages are
kept in a directory or in memory (**`answers_eq_answers`**). The directory is empty at the start, or it
can be made and is empty then (**`Vacant`**); one step keeps the two stores alike (**`Alike`**,
`alike_perform`). -/

namespace ComponentBook

/-! ## Operations and their answers -/

/-- What is done with a store of pages. -/
inductive StoreOperation where
  /-- A page is saved under a name. -/
  | save (name page : Text)
  /-- The index is saved. -/
  | saveIndex (index : Text)
  /-- The page of a name is read. -/
  | read (name : Text)
  /-- The description on the page of a name is read. -/
  | load (name : Text)
  /-- The names of all pages are listed. -/
  | list

/-- What a store answers to an operation that reads. -/
inductive StoreAnswer where
  | page (page : Option Text)
  | description (description : Option Text)
  | names (names : List Text)
  deriving DecidableEq, Repr

/-- The answers of a store to some operations, one after another. -/
def answersTo {σ α : Type} (perform : σ → StoreOperation → Option α × σ) :
    List StoreOperation → σ → List α
  | [], _ => []
  | op :: ops, s => (perform s op).1.toList ++ answersTo perform ops (perform s op).2

namespace PageMemory

/-- An operation on pages in memory. -/
def perform (m : PageMemory) : StoreOperation → Option StoreAnswer × PageMemory
  | .save name page => (none, m.save name page)
  | .saveIndex index => (none, m.saveIndex index)
  | .read name => (some (.page (m.page? name)), m)
  | .load name => (some (.description ((m.page? name).bind Markdown.description?)), m)
  | .list => (some (.names m.names), m)

end PageMemory

namespace PageDirectory

/-- An operation on pages in a directory. -/
def perform (pages : PageDirectory) (d : Disk) :
    StoreOperation → Option (Except Disk.Failure StoreAnswer) × Disk
  | .save name page => (none, (pages.save d name page).2)
  | .saveIndex index => (none, (pages.saveIndex d index).2)
  | .read name => (some ((pages.page? d name).map .page), d)
  | .load name =>
    (some ((pages.page? d name).map fun page => .description (page.bind Markdown.description?)), d)
  | .list => (some ((pages.names d).map .names), d)

/-! ## Names, texts and directories that fit -/

/-- A name under which a page can be kept in a file of the directory. -/
structure Takes (pages : PageDirectory) (name : Text) : Prop where
  ne_nil : name ≠ []
  no_slash : '/' ∉ name
  no_nul : '\x00' ∉ name
  short : (name ++ pageSuffix).utf8Length ≤ Disk.nameLimit
  path : Disk.tooLong (pages.pathOf name) = false
  ne_index : name ++ pageSuffix ≠ pages.indexName

/-- An operation whose names fit and whose texts have plain line ends. -/
def Accepts (pages : PageDirectory) : StoreOperation → Prop
  | .save name page => pages.Takes name ∧ '\r' ∉ page
  | .saveIndex index => '\r' ∉ index
  | .read name => pages.Takes name
  | .load name => pages.Takes name
  | .list => True

/-- The directory is there or can be made, and is empty then. -/
structure Vacant (pages : PageDirectory) (d : Disk) : Prop where
  made : (d.makeDirectories pages.directory).1 = .ok ()
  empty : (d.makeDirectories pages.directory).2.namesBelow pages.directory = []

variable {pages : PageDirectory} {d e : Disk} {m : PageMemory} {name : Text}

/-- The file of a name that fits. -/
theorem Takes.pathOf (h : pages.Takes name) :
    pages.pathOf name = Disk.extend pages.directory [name ++ pageSuffix] :=
  pages.pathOf_of_not_mem h.no_slash

theorem Takes.fitsIn (h : pages.Takes name) :
    Disk.FitsIn pages.directory (name ++ pageSuffix) where
  ne_parent := ne_parent_of_suffix (List.suffix_append name pageSuffix)
  no_nul := by
    rw [List.mem_append, not_or]
    exact ⟨h.no_nul, by decide⟩
  short := h.short
  path := by
    rw [← h.pathOf]
    exact h.path

/-! ## A directory with the pages of a memory -/

/-- The directory holds files only, and of pages those that are in memory. -/
structure Holds (pages : PageDirectory) (d : Disk) (m : PageMemory) : Prop where
  files : Disk.HoldsFiles d pages.directory
  held : ∀ name, name ++ pageSuffix ≠ pages.indexName →
    d.heldIn? pages.directory (name ++ pageSuffix) = (m.page? name).map .text
  taken : ∀ name page, m.page? name = some page → pages.Takes name ∧ '\r' ∉ page
  nodup : (m.pages.map Prod.fst).Nodup

/-- A page is read from the directory as it is in memory. -/
theorem Holds.page? (h : pages.Holds d m) (hname : pages.Takes name) :
    pages.page? d name = .ok (m.page? name) := by
  have hheld := h.held name hname.ne_index
  rw [PageDirectory.page?, hname.pathOf]
  cases hpage : m.page? name with
  | none =>
    rw [hpage] at hheld
    have hnone := Disk.entryAt?_eq_none_of_contentAt? (h.files.files _) hheld
    rw [Disk.read_extend_of_none h.files.isDirectory hname.fitsIn hnone]
  | some page =>
    rw [hpage] at hheld
    rw [Disk.read_extend_of_content h.files.isDirectory hname.fitsIn hheld, Disk.readContent,
      Text.unifyNewlines_of_not_mem (h.taken name page hpage).2]

end PageDirectory

/-! ## The names in memory -/

namespace PageMemory

variable {m : PageMemory} {name page : Text}

theorem map_fst_putPage (name page : Text) (pages : List (Text × Text)) :
    (putPage name page pages).map Prod.fst =
      if name ∈ pages.map Prod.fst then pages.map Prod.fst else pages.map Prod.fst ++ [name] := by
  induction pages with
  | nil => simp [putPage]
  | cons entry rest ih =>
    obtain ⟨n, p⟩ := entry
    by_cases hn : name = n
    · simp [putPage, hn]
    · rw [putPage, if_neg hn, List.map_cons, ih]
      by_cases hmem : name ∈ rest.map Prod.fst
      · have hthere : name ∈ ((n, p) :: rest).map Prod.fst := List.mem_cons_of_mem n hmem
        rw [if_pos hmem, if_pos hthere, List.map_cons]
      · have hnot : name ∉ ((n, p) :: rest).map Prod.fst := by
          rw [List.map_cons, List.mem_cons, not_or]
          exact ⟨hn, hmem⟩
        rw [if_neg hmem, if_neg hnot, List.map_cons, List.cons_append]

/-- Saving a page keeps every name once. -/
theorem nodup_save (h : (m.pages.map Prod.fst).Nodup) :
    ((m.save name page).pages.map Prod.fst).Nodup := by
  rw [save, map_fst_putPage]
  split
  · exact h
  · next hmem =>
    refine List.nodup_append.2 ⟨h, List.nodup_singleton name, fun n hn k hk => ?_⟩
    rw [List.mem_singleton.1 hk]
    rintro rfl
    exact hmem hn

theorem mem_map_fst_iff : name ∈ m.pages.map Prod.fst ↔ ∃ page, m.page? name = some page := by
  constructor
  · intro h
    obtain ⟨entry, hentry, rfl⟩ := List.mem_map.1 h
    cases hlookup : m.pages.lookup entry.1 with
    | some page => exact ⟨page, hlookup⟩
    | none => simpa using List.lookup_eq_none_iff.1 hlookup entry hentry
  · rintro ⟨page, hpage⟩
    obtain ⟨before, after, hpages, -⟩ := List.lookup_eq_some_iff.1 hpage
    rw [hpages]
    simp

end PageMemory

namespace PageDirectory

variable {pages : PageDirectory} {d e : Disk} {m : PageMemory} {name : Text}

/-- A file of a page is that of a page in memory. -/
theorem Holds.exists_page (h : pages.Holds d m)
    (hfile : d.isFileAt (pages.fileIn (name ++ pageSuffix)) = true)
    (hindex : name ++ pageSuffix ≠ pages.indexName) : ∃ page, m.page? name = some page := by
  obtain ⟨-, hcontent⟩ := Disk.isFileAt_iff.1 hfile
  have hparent := ne_parent_of_suffix (List.suffix_append name pageSuffix)
  rw [fileIn, Disk.placeOf_extend_singleton d pages.directory hparent, ← Disk.heldIn?,
    h.held name hindex, Option.isSome_map] at hcontent
  exact Option.isSome_iff_exists.1 hcontent

/-- The directory lists the names of the pages that are in memory. -/
theorem Holds.lists_iff (h : pages.Holds d m) :
    pages.Lists d name ↔ ∃ page, m.page? name = some page := by
  constructor
  · rintro ⟨-, f, hfile, ⟨stem, rfl⟩, hindex, rfl⟩
    obtain ⟨page, hpage⟩ := h.exists_page hfile hindex
    refine ⟨page, ?_⟩
    rw [stemOf_append_pageSuffix (h.taken stem page hpage).1.ne_nil, hpage]
  · rintro ⟨page, hpage⟩
    have hname := (h.taken name page hpage).1
    obtain ⟨hnul, -, -⟩ := Disk.isDirectory_eq_ok_true_iff.1 h.files.isDirectory
    refine lists_of_isFileAt hname.ne_nil hname.ne_index hnul ?_
    rw [fileIn, h.files.isFileAt_iff hname.fitsIn, h.held name hname.ne_index, hpage]
    rfl

/-- The directory lists its pages in the order in which memory does. -/
theorem Holds.names_eq (h : pages.Holds d m) : pages.names d = .ok m.names := by
  have hlisted := names_of_isDirectory h.files.isDirectory
  have hnodup : (pages.pageFiles d).Nodup :=
    ((Disk.nodup_select_name h.files.nodup).filter _).filter _
  have hstems : ∀ q ∈ pages.pageFiles d,
      ∃ stem, stem ≠ [] ∧ q = pages.fileIn (stem ++ pageSuffix) := by
    intro q hq
    obtain ⟨f, rfl, ⟨stem, rfl⟩, hindex, hfile⟩ := (mem_pageFiles_iff h.files.isDirectory).1 hq
    obtain ⟨page, hpage⟩ := h.exists_page hfile hindex
    exact ⟨stem, (h.taken stem page hpage).1.ne_nil, rfl⟩
  -- different files have different stems
  have hstem : ((pages.pageFiles d).map Path.stem).Nodup := by
    refine List.Nodup.map_on (fun q hq r hr heq => ?_) hnodup
    obtain ⟨s, hs, rfl⟩ := hstems q hq
    obtain ⟨t, ht, rfl⟩ := hstems r hr
    rw [Path.stem, Path.stem, name_fileIn, name_fileIn, stemOf_append_pageSuffix hs,
      stemOf_append_pageSuffix ht] at heq
    rw [heq]
  have hmem (name : Text) :
      name ∈ (pages.pageFiles d).map Path.stem ↔ name ∈ m.pages.map Prod.fst := by
    rw [← Text.mem_sorted, mem_names_iff hlisted, h.lists_iff, PageMemory.mem_map_fst_iff]
  have hperm := (List.perm_ext_iff_of_nodup hstem h.nodup).2 hmem
  rw [hlisted, PageMemory.names, Text.sorted_eq_sorted hperm]

/-! ## Saving -/

/-- A page that is saved is in the directory and in memory. -/
theorem Holds.save (h : pages.Holds d m) (hname : pages.Takes name) {page : Text}
    (hpage : '\r' ∉ page) (hput : Disk.PutsFile pages.directory (name ++ pageSuffix) (.text page) d e) :
    pages.Holds e (m.save name page) := by
  refine ⟨h.files.put hput, fun k hk => ?_, fun k kept hkept => ?_, PageMemory.nodup_save h.nodup⟩
  · rw [hput.heldIn?]
    by_cases hsame : k = name
    · subst hsame
      rw [if_pos rfl, PageMemory.page?_save]
      rfl
    · have hfile : k ++ pageSuffix ≠ name ++ pageSuffix :=
        fun heq => hsame (List.append_cancel_right heq)
      rw [if_neg hfile, PageMemory.page?_save_of_ne m hsame, h.held k hk]
  · by_cases hsame : k = name
    · subst hsame
      rw [PageMemory.page?_save] at hkept
      obtain rfl := Option.some.inj hkept
      exact ⟨hname, hpage⟩
    · rw [PageMemory.page?_save_of_ne m hsame] at hkept
      exact h.taken k kept hkept

/-- The index that is saved is no page. -/
theorem Holds.saveIndex (h : pages.Holds d m) {content : Content}
    (hput : Disk.PutsFile pages.directory pages.indexName content d e) (index : Text) :
    pages.Holds e (m.saveIndex index) := by
  refine ⟨h.files.put hput, fun k hk => ?_, h.taken, h.nodup⟩
  rw [hput.heldIn?, if_neg hk]
  exact h.held k hk

/-! ## Stores that are alike -/

/-- The directory holds the pages that are in memory, once it has been made; as long as it is not there
nothing is in memory. -/
def Alike (pages : PageDirectory) (d : Disk) (m : PageMemory) : Prop :=
  ∃ made, d.makeDirectories pages.directory = (.ok (), made) ∧ pages.Holds made m ∧
    (d = made ∨ d.find pages.directory = .error .missing ∧ m.pages = [])

theorem Holds.alike (h : pages.Holds d m) : pages.Alike d m :=
  ⟨d, Disk.makeDirectories_of_isDirectory h.files.isDirectory, h, .inl rfl⟩

theorem alike_of_vacant (h : pages.Vacant d) : pages.Alike d {} := by
  have hmade := h.made
  have hempty := h.empty
  rcases hrun : d.makeDirectories pages.directory with ⟨outcome, made⟩
  rw [hrun] at hmade hempty
  obtain rfl : outcome = .ok () := hmade
  obtain ⟨hfiles, hnone⟩ :=
    Disk.holdsFiles_of_namesBelow (Disk.isDirectory_of_makeDirectories hrun) hempty
  refine ⟨made, hrun, ⟨hfiles, fun name _ => hnone _, nofun, List.nodup_nil⟩, ?_⟩
  rcases Disk.find_eq_missing_or_of_makeDirectories hrun with hmissing | hdir
  · exact .inr ⟨hmissing, rfl⟩
  · have hsame := Disk.makeDirectories_of_isDirectory hdir
    rw [hrun] at hsame
    exact .inl (Prod.mk.inj hsame).2.symm

/-- The same page is read from stores that are alike. -/
theorem Alike.page? (h : pages.Alike d m) (hname : pages.Takes name) :
    pages.page? d name = .ok (m.page? name) := by
  obtain ⟨made, hmade, hholds, rfl | ⟨hmissing, hnone⟩⟩ := h
  · exact hholds.page? hname
  · obtain ⟨hnul, -, -⟩ := Disk.isDirectory_eq_ok_true_iff.1 hholds.files.isDirectory
    have hread := Disk.read_of_missing (d := d) (Disk.hasNul_extend hnul hname.fitsIn)
      (Disk.find_extend_of_missing hname.fitsIn hmissing)
    rw [PageDirectory.page?, hname.pathOf, hread, PageMemory.page?, hnone]
    rfl

/-- The same names are listed by stores that are alike. -/
theorem Alike.names (h : pages.Alike d m) : pages.names d = .ok m.names := by
  obtain ⟨made, hmade, hholds, rfl | ⟨hmissing, hnone⟩⟩ := h
  · exact hholds.names_eq
  · obtain ⟨hnul, -, -⟩ := Disk.isDirectory_eq_ok_true_iff.1 hholds.files.isDirectory
    have hdir : d.isDirectory pages.directory = .ok false := by
      rw [Disk.isDirectory, Disk.look, hnul, if_neg Bool.false_ne_true, hmissing]
      rfl
    rw [names_of_not_isDirectory hdir, PageMemory.names, hnone, List.map_nil, Text.sorted,
      List.mergeSort_nil]

/-- Saving a page keeps stores alike. -/
theorem Alike.save (h : pages.Alike d m) (hname : pages.Takes name) {page : Text}
    (hpage : '\r' ∉ page) : pages.Alike (pages.save d name page).2 (m.save name page) := by
  obtain ⟨made, hmade, hholds, -⟩ := h
  obtain ⟨after, hwrite⟩ := hholds.files.exists_write hname.fitsIn page
  have hparent : (Disk.extend pages.directory [name ++ pageSuffix]).parent = pages.directory := by
    simp [Disk.extend, Path.parent]
  rw [PageDirectory.save, hname.pathOf, Disk.writeWithDirectories, hparent, hmade]
  dsimp only
  rw [hwrite]
  exact (hholds.save hname hpage (.of_write hname.fitsIn.ne_parent hwrite)).alike

/-- Saving the index keeps stores alike. -/
theorem Alike.saveIndex (h : pages.Alike d m) (hindex : pages.HasPlainIndex) (index : Text) :
    pages.Alike (pages.saveIndex d index).2 (m.saveIndex index) := by
  obtain ⟨made, hmade, hholds, -⟩ := h
  have hparent : (Disk.extend pages.directory [pages.indexName]).parent = pages.directory := by
    simp [Disk.extend, Path.parent]
  rw [PageDirectory.saveIndex, hindex.indexPath, fileIn, Disk.writeWithDirectories, hparent, hmade]
  dsimp only
  -- an index that cannot be written leaves the directory that has been made
  rcases hwrite : made.write (Disk.extend pages.directory [pages.indexName]) index with e | after
  · exact Holds.alike ⟨hholds.files, hholds.held, hholds.taken, hholds.nodup⟩
  · exact (hholds.saveIndex (.of_write hindex.ne_parent hwrite) index).alike

/-- An operation is answered the same by stores that are alike, and leaves them alike. -/
theorem alike_perform (h : pages.Alike d m) (hindex : pages.HasPlainIndex) {op : StoreOperation}
    (hop : pages.Accepts op) :
    (pages.perform d op).1 = (m.perform op).1.map .ok ∧
      pages.Alike (pages.perform d op).2 (m.perform op).2 := by
  cases op with
  | save name page => exact ⟨rfl, h.save hop.1 hop.2⟩
  | saveIndex index => exact ⟨rfl, h.saveIndex hindex index⟩
  | read name =>
    refine ⟨?_, h⟩
    show some ((pages.page? d name).map _) = _
    rw [h.page? hop]
    rfl
  | load name =>
    refine ⟨?_, h⟩
    show some ((pages.page? d name).map _) = _
    rw [h.page? hop]
    rfl
  | list =>
    refine ⟨?_, h⟩
    show some ((pages.names d).map _) = _
    rw [h.names]
    rfl

theorem Alike.answers (h : pages.Alike d m) (hindex : pages.HasPlainIndex)
    {ops : List StoreOperation} (hops : ∀ op ∈ ops, pages.Accepts op) :
    answersTo pages.perform ops d = (answersTo PageMemory.perform ops m).map .ok := by
  induction ops generalizing d m with
  | nil => rfl
  | cons op ops ih =>
    obtain ⟨hanswer, hafter⟩ := alike_perform h hindex (hops op List.mem_cons_self)
    have hrest := ih hafter fun op hop => hops op (List.mem_cons_of_mem _ hop)
    rw [answersTo, answersTo, hanswer, hrest, List.map_append]
    cases (m.perform op).1 <;> rfl

/-- **Directories stand for memory.** As long as names and texts fit, pages that are kept in a directory
are read and listed as pages in memory are. -/
theorem answers_eq_answers (hvacant : pages.Vacant d) (hindex : pages.HasPlainIndex)
    {ops : List StoreOperation} (hops : ∀ op ∈ ops, pages.Accepts op) :
    answersTo pages.perform ops d = (answersTo PageMemory.perform ops {}).map .ok :=
  (alike_of_vacant hvacant).answers hindex hops

/-! ## A directory at work -/

/-- The directory `/docs` with the index `index.md`. -/
def sampleDirectory : PageDirectory where
  directory := { slashes := 1, names := ["docs".toList] }
  indexName := "index.md".toList

/-- A page is saved and read again, its description with it, and a page that is not there is asked
for. -/
def sampleOperations : List StoreOperation :=
  [.save ".A.b".toList "# A\nfirst\n## P\n".toList, .saveIndex "all\n".toList,
    .read ".A.b".toList, .load ".A.b".toList, .list, .read "C".toList]

theorem answers_eq_answers_sample :
    answersTo sampleDirectory.perform sampleOperations {} =
      (answersTo PageMemory.perform sampleOperations {}).map .ok := by
  have htakes (name : Text) (h : name = ".A.b".toList ∨ name = "C".toList) :
      sampleDirectory.Takes name := by
    rcases h with rfl | rfl <;> constructor <;> decide +kernel
  have hvacant : sampleDirectory.Vacant {} := ⟨by decide +kernel, by decide +kernel⟩
  refine answers_eq_answers hvacant ⟨by decide, by decide, by decide, by decide⟩ fun op hop => ?_
  simp only [sampleOperations, List.mem_cons, List.not_mem_nil, or_false] at hop
  rcases hop with rfl | rfl | rfl | rfl | rfl | rfl
  · exact ⟨htakes _ (.inl rfl), by decide⟩
  · show '\r' ∉ _
    decide
  · exact htakes _ (.inl rfl)
  · exact htakes _ (.inl rfl)
  · exact True.intro
  · exact htakes _ (.inr rfl)

/-- The directory is absent, or it is there and empty. -/
def AbsentOrEmpty (pages : PageDirectory) (d : Disk) : Prop :=
  d.exists? pages.directory = .ok false ∨
    d.isDirectory pages.directory = .ok true ∧ d.namesBelow pages.directory = []

/-- A directory below `/docs`, and a disk on which `/docs` is a file. -/
def blockedDirectory : PageDirectory :=
  { sampleDirectory with directory := { slashes := 1, names := ["docs".toList, "out".toList] } }

def blockingDisk : Disk where
  entries := [(["docs".toList], .file { content := .text "text".toList, modified := 0 })]

/-- A path to `/docs` on which the directory `/docs/A.md` is made. -/
def roundaboutDirectory : PageDirectory :=
  { sampleDirectory with
    directory := { slashes := 1, names := ["docs".toList, "A.md".toList, "..".toList] } }

/-- An absent directory is not enough: when it cannot be made, or is not empty once it has been made,
stores answer differently. -/
theorem answers_ne_answers_of_absent :
    (blockedDirectory.AbsentOrEmpty blockingDisk ∧ blockedDirectory.HasPlainIndex ∧
      (∀ op ∈ [StoreOperation.read "X".toList], blockedDirectory.Accepts op) ∧
      answersTo blockedDirectory.perform [.read "X".toList] blockingDisk
        = [.error (.fault .notADirectory "/docs/out/X.md".toList)] ∧
      answersTo PageMemory.perform [.read "X".toList] {} = [.page none]) ∧
    (roundaboutDirectory.AbsentOrEmpty {} ∧ roundaboutDirectory.HasPlainIndex ∧
      (∀ op ∈ [StoreOperation.save "A".toList [], .read "A".toList],
        roundaboutDirectory.Accepts op) ∧
      answersTo roundaboutDirectory.perform [.save "A".toList [], .read "A".toList] {}
        = [.error (.fault .isADirectory "/docs/A.md/../A.md".toList)] ∧
      answersTo PageMemory.perform [.save "A".toList [], .read "A".toList] {}
        = [.page (some [])]) := by
  have hblocked : blockedDirectory.Takes "X".toList := by constructor <;> decide +kernel
  have hroundabout : roundaboutDirectory.Takes "A".toList := by constructor <;> decide +kernel
  refine ⟨⟨.inl (by decide +kernel), ⟨by decide, by decide, by decide, by decide⟩, ?_,
    by decide +kernel, by decide +kernel⟩, .inl (by decide +kernel),
    ⟨by decide, by decide, by decide, by decide⟩, ?_, by decide +kernel, by decide +kernel⟩
  · rintro op hop
    obtain rfl := List.mem_singleton.1 hop
    exact hblocked
  · intro op hop
    rw [List.mem_cons, List.mem_singleton] at hop
    rcases hop with rfl | rfl
    · exact ⟨hroundabout, by decide⟩
    · exact hroundabout

end PageDirectory

end ComponentBook
