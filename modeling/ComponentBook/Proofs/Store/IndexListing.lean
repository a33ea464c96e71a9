import ComponentBook.Proofs.Store.Agreement
import ComponentBook.Proofs.Store.Steady

/-! # When a directory lists its index

The index is left out of the pages by its name, and written where its name leads. The two agree when the
index has a plain file name, and then it is not among the pages (**`not_listsIndex_after`**). When a longer
way to the same file is given, as with `./index.md`, the file is one of the pages. The file with nothing but
the suffix of pages as its name is listed under a name that leads to another file, which can be the index.
There is no third way (**`listsIndex_after_iff`**).

On a disk all this rests on names that hold no slash (**`Disk.SlashFree`**), as it stays whatever is
written. -/

namespace ComponentBook

/-! ## Names without slashes -/

/-- No name along the path holds a slash. -/
def Path.SlashFree (p : Path) : Prop := ∀ name ∈ p.names, '/' ∉ name

namespace Path

theorem slashFree_ofText (t : Text) : (ofText t).SlashFree := by
  intro name hname
  exact Text.not_mem_of_mem_fields (List.mem_filter.1 hname).1

theorem SlashFree.parent {p : Path} (h : p.SlashFree) : p.parent.SlashFree :=
  fun name hname => h name (List.dropLast_subset _ hname)

theorem SlashFree.child {p : Path} (h : p.SlashFree) (t : Text) : (p.child t).SlashFree := by
  intro name hname
  rw [Path.child, join] at hname
  split at hname
  · exact slashFree_ofText t name hname
  · rcases List.mem_append.1 hname with hname | hname
    · exact h name hname
    · exact slashFree_ofText t name hname

end Path

namespace Disk

variable {d e : Disk} {p : Path} {l : Location} {names : List Text}

/-- No name on the disk holds a slash. -/
structure SlashFree (d : Disk) : Prop where
  entries : ∀ entry ∈ d.entries, ∀ name ∈ entry.1, '/' ∉ name
  workingDirectory : ∀ name ∈ d.workingDirectory, '/' ∉ name

/-- The names of a place are those of the way to it. -/
theorem mem_or_mem_of_mem_placeFrom {name : Text} (h : name ∈ placeFrom l names) :
    name ∈ l ∨ name ∈ names := by
  induction names generalizing l with
  | nil => exact .inl h
  | cons n names ih =>
    rw [placeFrom, List.foldl_cons, ← placeFrom] at h
    rcases ih h with h | h
    · split at h
      · exact .inl (List.dropLast_subset _ h)
      · rcases List.mem_append.1 h with h | h
        · exact .inl h
        · exact .inr (List.mem_cons.2 (.inl (List.mem_singleton.1 h)))
    · exact .inr (List.mem_cons_of_mem n h)

/-- A path leads to something. -/
def Finds (d : Disk) (p : Path) : Prop := d.find p = .ok (d.placeOf p)

namespace SlashFree

theorem placeOf (h : d.SlashFree) (hp : p.SlashFree) : ∀ name ∈ d.placeOf p, '/' ∉ name := by
  intro name hname
  rcases mem_or_mem_of_mem_placeFrom hname with hname | hname
  · cases hname
  · rw [namesOf] at hname
    split at hname
    · exact hp name hname
    · rcases List.mem_append.1 hname with hname | hname
      · exact h.workingDirectory name hname
      · exact hp name hname

theorem put (h : d.SlashFree) (hl : ∀ name ∈ l, '/' ∉ name) (entry : Entry) :
    (d.put l entry).SlashFree := by
  refine ⟨List.forall_mem_cons.2 ⟨hl, fun other hother => ?_⟩, h.workingDirectory⟩
  exact h.entries other (List.mem_filter.1 hother).1

theorem setClock (h : d.SlashFree) (clock : Int) : SlashFree { d with clock } :=
  ⟨h.entries, h.workingDirectory⟩

theorem write {t : Text} (h : d.SlashFree) (hp : p.SlashFree) (hwrite : d.write p t = .ok e) :
    e.SlashFree := by
  obtain ⟨made, hstore, rfl⟩ := map_eq_ok_iff.1 hwrite
  obtain ⟨-, -, -, rfl⟩ := eq_put_of_store hstore
  exact (h.put (h.placeOf hp) _).setClock _

theorem makeDirectory (h : d.SlashFree) (hp : p.SlashFree) (hmake : d.makeDirectory p = .ok e) :
    e.SlashFree := by
  rw [Disk.makeDirectory] at hmake
  split at hmake
  · cases hmake
  · next l hplace =>
    split at hmake
    · cases hmake
    · obtain rfl := Except.ok.inj hmake
      obtain rfl := eq_placeOf_of_place hplace
      exact h.put (h.placeOf hp) _

theorem makeDirectories (h : d.SlashFree) (hp : p.SlashFree) : (d.makeDirectories p).2.SlashFree :=
  makeDirectories_induct_path (Q := Path.SlashFree) (fun _ hp => hp.parent)
    (fun _ _ _ _ hp h hmake => h.makeDirectory hp hmake) d p hp h

theorem writeWithDirectories (h : d.SlashFree) (hp : p.SlashFree) (t : Text) :
    (d.writeWithDirectories p t).2.SlashFree := by
  have hmade := h.makeDirectories hp.parent
  rw [Disk.writeWithDirectories]
  rcases hrun : d.makeDirectories p.parent with ⟨_ | _, made⟩
  · rw [hrun] at hmade
    exact hmade
  · rw [hrun] at hmade
    dsimp only at hmade ⊢
    split
    · next hwrite => exact hmade.write hp hwrite
    · exact hmade

/-- What stands in a directory has no slash in its name. -/
theorem not_mem_of_isFileAt {f : Text} (h : d.SlashFree) (hf : f ≠ ['.', '.'])
    (hfile : d.isFileAt (extend p [f]) = true) : '/' ∉ f := by
  obtain ⟨hfind, -⟩ := isFileAt_iff.1 hfile
  have hbelow := mem_namesBelow hf (find_of_find_extend hfind).1 hfile
  rw [namesBelow, (find_of_find_extend hfind).1] at hbelow
  obtain ⟨entry, hentry, hname⟩ := List.mem_filterMap.1 hbelow
  split at hname
  · have hdrop : f ∈ entry.1.drop (d.placeOf p).length := by
      rw [Option.some.inj hname]
      exact List.mem_singleton_self f
    exact h.entries entry hentry f (List.mem_of_mem_drop hdrop)
  · cases hname

end SlashFree

/-- Whether a text can be written or not, directories stay directories and files stay files. -/
theorem grows_writeWithDirectories (d : Disk) (p : Path) (t : Text) :
    Grows d (d.writeWithDirectories p t).2 := by
  rcases hrun : d.writeWithDirectories p t with ⟨_ | _, e⟩
  · have hrewrites : Rewrites none [] d e := rewrites_of_not_written hrun
    exact hrewrites.grows
  · exact (rewrites_of_writeWithDirectories none hrun).1.grows

end Disk

namespace PageDirectory

variable {pages : PageDirectory} {d e : Disk} {f name : Text}

/-! ## The disk after some operations -/

/-- The disk after some operations on the pages in a directory. -/
def after (pages : PageDirectory) (ops : List StoreOperation) (d : Disk) : Disk :=
  ops.foldl (fun d op => (pages.perform d op).2) d

theorem grows_perform (pages : PageDirectory) (d : Disk) (op : StoreOperation) :
    Disk.Grows d (pages.perform d op).2 := by
  cases op with
  | save name page => exact Disk.grows_writeWithDirectories d _ page
  | saveIndex index => exact Disk.grows_writeWithDirectories d _ index
  | read name => exact .refl d
  | load name => exact .refl d
  | list => exact .refl d

theorem slashFree_perform (hd : d.SlashFree) (hdir : pages.directory.SlashFree) (op : StoreOperation) :
    (pages.perform d op).2.SlashFree := by
  cases op with
  | save name page => exact hd.writeWithDirectories (hdir.child _) page
  | saveIndex index => exact hd.writeWithDirectories (hdir.child _) index
  | read name => exact hd
  | load name => exact hd
  | list => exact hd

/-- After any operations the disk has grown, and no name on it holds a slash. -/
theorem slashFree_after (hd : d.SlashFree) (hdir : pages.directory.SlashFree)
    (ops : List StoreOperation) :
    (pages.after ops d).SlashFree ∧ Disk.Grows d (pages.after ops d) := by
  induction ops generalizing d with
  | nil => exact ⟨hd, .refl d⟩
  | cons op ops ih =>
    obtain ⟨hafter, hgrows⟩ := ih (slashFree_perform hd hdir op)
    exact ⟨hafter, (grows_perform pages d op).trans hgrows⟩

/-! ## The index among the pages -/

/-- The directory lists the index: it lists a name whose file is that of the index. -/
def ListsIndex (pages : PageDirectory) (d : Disk) : Prop :=
  ∃ names name l, pages.names d = .ok names ∧ name ∈ names ∧
    d.find (pages.pathOf name) = .ok l ∧ d.find pages.indexPath = .ok l

/-- The index is at the place of the file `f` of the directory. -/
def IndexIs (pages : PageDirectory) (d : Disk) (f : Text) : Prop :=
  d.placeOf pages.indexPath = d.placeOf pages.directory ++ [f]

/-- The file to which the name leads under which the file `f` is listed. -/
def listedFile (f : Text) : Text := if f = pageSuffix then pageSuffix ++ pageSuffix else f

theorem suffix_listedFile (h : pageSuffix <:+ f) : pageSuffix <:+ listedFile f := by
  rw [listedFile]
  split
  · exact List.suffix_append _ _
  · exact h

/-- The stem of a file is the name of a page, that of the file itself unless nothing is left of it without
the suffix. -/
theorem pathOf_stemOf (hslash : '/' ∉ f) (h : pageSuffix <:+ f) :
    pages.pathOf (Path.stemOf f) = pages.fileIn (listedFile f) := by
  obtain ⟨stem, rfl⟩ := h
  by_cases hnil : stem = []
  · subst hnil
    have hstem : Path.stemOf ([] ++ pageSuffix) = pageSuffix := rfl
    rw [hstem, pages.pathOf_of_not_mem (by decide)]
    rfl
  · have hne : stem ++ pageSuffix ≠ pageSuffix := by simpa using hnil
    have hstem : '/' ∉ stem := fun hmem => hslash (List.mem_append_left _ hmem)
    rw [stemOf_append_pageSuffix hnil, pages.pathOf_of_not_mem hstem, listedFile, if_neg hne]

theorem placeOf_listedFile (d : Disk) (h : pageSuffix <:+ f) :
    d.placeOf (pages.fileIn (listedFile f)) = d.placeOf pages.directory ++ [listedFile f] :=
  Disk.placeOf_extend_singleton d _ (ne_parent_of_suffix (suffix_listedFile h))

/-- A directory lists its index when a page file is listed under a name that leads to the index. -/
theorem listsIndex_iff (hd : d.SlashFree) :
    pages.ListsIndex d ↔ d.isDirectory pages.directory = .ok true ∧ d.Finds pages.indexPath ∧
      ∃ f, pages.IsPageFile d f ∧ pages.IndexIs d (listedFile f) ∧
        d.Finds (pages.fileIn (listedFile f)) := by
  constructor
  · rintro ⟨names, name, l, hnames, hmem, hpage, hindex⟩
    obtain ⟨hdir, f, hfile, hsuffix, hne, rfl⟩ := (mem_names_iff hnames).1 hmem
    have hslash := hd.not_mem_of_isFileAt (ne_parent_of_suffix hsuffix) hfile
    rw [pathOf_stemOf hslash hsuffix] at hpage
    obtain rfl := Disk.eq_placeOf_of_find hpage
    have hsame := Disk.eq_placeOf_of_find hindex
    refine ⟨hdir, ?_, f, ⟨hsuffix, hne, hfile⟩, ?_, hpage⟩
    · rwa [Disk.Finds, ← hsame]
    · rw [IndexIs, ← hsame, placeOf_listedFile d hsuffix]
  · rintro ⟨hdir, hindex, f, hfile, his, hpage⟩
    have hslash := hd.not_mem_of_isFileAt (ne_parent_of_suffix hfile.suffix) hfile.isFileAt
    have hnames := names_of_isDirectory hdir
    refine ⟨_, Path.stemOf f, _, hnames, (mem_names_iff hnames).2 ?_, ?_, hindex⟩
    · exact ⟨hdir, f, hfile.isFileAt, hfile.suffix, hfile.ne_index, rfl⟩
    · rw [pathOf_stemOf hslash hfile.suffix, his, ← placeOf_listedFile d hfile.suffix]
      exact hpage

/-- **When the index is among the pages.** Whatever pages and indexes have been saved, the directory lists
its index exactly when the index is at the place of a file with the suffix of pages, and this file does not
have the name that is given for the index; or when the file that is nothing but the suffix is a page, and
the index is at the place to which the name of that page leads. -/
theorem listsIndex_after_iff (hd : d.SlashFree) (hdir : pages.directory.SlashFree)
    (ops : List StoreOperation) :
    pages.ListsIndex (pages.after ops d) ↔
      (pages.after ops d).isDirectory pages.directory = .ok true ∧
        (pages.after ops d).Finds pages.indexPath ∧
          ∃ f, pages.IsPageFile (pages.after ops d) f ∧ pages.IndexIs d (listedFile f) ∧
            (pages.after ops d).Finds (pages.fileIn (listedFile f)) := by
  obtain ⟨hafter, hgrows⟩ := slashFree_after hd hdir ops
  have his (f : Text) : pages.IndexIs (pages.after ops d) f ↔ pages.IndexIs d f := by
    rw [IndexIs, IndexIs, hgrows.placeOf, hgrows.placeOf]
  simp only [listsIndex_iff hafter, his]

/-- A directory with the index `index.md` does not list it. -/
theorem listsIndex_after_iff_sample :
    Disk.SlashFree {} ∧ sampleDirectory.directory.SlashFree ∧
      ¬ sampleDirectory.ListsIndex (sampleDirectory.after sampleOperations {}) := by
  have hd : Disk.SlashFree {} := ⟨nofun, nofun⟩
  have hdir : sampleDirectory.directory.SlashFree := by
    rw [sampleDirectory, Path.SlashFree, List.forall_mem_singleton]
    decide
  refine ⟨hd, hdir, fun h => ?_⟩
  obtain ⟨-, -, f, hfile, his, -⟩ := (listsIndex_after_iff hd hdir sampleOperations).1 h
  have hindex : listedFile f = "index.md".toList :=
    (List.cons.inj (List.append_cancel_left his)).1.symm
  rw [listedFile] at hindex
  split at hindex
  · revert hindex
    decide
  · exact hfile.ne_index hindex

/-- An index that is given by a longer way than its name. -/
def dottedDirectory : PageDirectory := { sampleDirectory with indexName := "./index.md".toList }

/-- An index with the suffix of pages behind the suffix of pages. -/
def suffixDirectory : PageDirectory := { sampleDirectory with indexName := ".md.md".toList }

/-- The index of either directory is listed once it has been saved, and no page has been saved in its
place. -/
theorem listsIndex_dotted :
    (answersTo dottedDirectory.perform [.saveIndex "all\n".toList, .list] {} =
        [.ok (.names ["index".toList])] ∧
      dottedDirectory.pathOf "index".toList = dottedDirectory.indexPath ∧
      dottedDirectory.ListsIndex (dottedDirectory.after [.saveIndex "all\n".toList, .list] {})) ∧
    (answersTo suffixDirectory.perform
        [.save [] "page\n".toList, .saveIndex "all\n".toList, .list] {} =
        [.ok (.names [".md".toList])] ∧
      suffixDirectory.pathOf [] ≠ suffixDirectory.indexPath ∧
      suffixDirectory.pathOf ".md".toList = suffixDirectory.indexPath ∧
      suffixDirectory.ListsIndex (suffixDirectory.after
        [.save [] "page\n".toList, .saveIndex "all\n".toList, .list] {})) := by
  refine ⟨⟨by decide +kernel, by decide, ?_⟩, by decide +kernel, by decide, by decide, ?_⟩
  · exact ⟨["index".toList], "index".toList, ["docs".toList, "index.md".toList], by decide +kernel,
      List.mem_singleton_self _, by decide +kernel, by decide +kernel⟩
  · exact ⟨[".md".toList], ".md".toList, ["docs".toList, ".md.md".toList], by decide +kernel,
      List.mem_singleton_self _, by decide +kernel, by decide +kernel⟩

/-- **An index with a plain file name is never among the pages**, whatever is saved. -/
theorem not_listsIndex_after (hd : d.SlashFree) (hdir : pages.directory.SlashFree)
    (hplain : pages.HasPlainIndex) (hname : pages.indexName ≠ pageSuffix ++ pageSuffix)
    (ops : List StoreOperation) : ¬ pages.ListsIndex (pages.after ops d) := by
  obtain ⟨hafter, -⟩ := slashFree_after hd hdir ops
  rw [listsIndex_iff hafter]
  rintro ⟨-, -, f, hfile, his, -⟩
  rw [IndexIs, hplain.indexPath, fileIn, Disk.placeOf_extend_singleton _ _ hplain.ne_parent] at his
  have hindex : pages.indexName = listedFile f := (List.cons.inj (List.append_cancel_left his)).1
  rw [listedFile] at hindex
  split at hindex
  · exact hname hindex
  · exact hfile.ne_index hindex.symm

end PageDirectory

end ComponentBook
