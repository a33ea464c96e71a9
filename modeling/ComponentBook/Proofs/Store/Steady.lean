import ComponentBook.Proofs.Disk.Sound
import ComponentBook.Proofs.Text.Order

/-! # Directories whose pages stay

Much can be written while the pages in a directory stay as they are: the index, the log, directories.
When only such things are written (**`Keeps`**), the directory lists the same names (**`Keeps.names_eq`**),
and each of them has the same page (**`Keeps.page?_eq`**), provided that the files of pages are files of
their own (**`Clear`**). -/

namespace ComponentBook.PageDirectory

variable {pages : PageDirectory} {log : Option Location} {c d e : Disk} {name f : Text}
  {names : List Text}

/-- A later disk, on which every file holds what it held before. Two files are left aside: that of the
index and that of the log. -/
structure Keeps (pages : PageDirectory) (log : Option Location) (d e : Disk) : Prop where
  grows : Disk.Grows d e
  contentAt? : ∀ l, log ≠ some l → l ≠ d.placeOf pages.indexPath →
    e.contentAt? l = d.contentAt? l

namespace Keeps

theorem trans (h : pages.Keeps log c d) (g : pages.Keeps log d e) : pages.Keeps log c e := by
  refine ⟨h.grows.trans g.grows, fun l hlog hindex => ?_⟩
  rw [g.contentAt? l hlog (by rwa [h.grows.placeOf]), h.contentAt? l hlog hindex]

end Keeps

/-- A file in the directory that is a page. -/
structure IsPageFile (pages : PageDirectory) (d : Disk) (f : Text) : Prop where
  suffix : pageSuffix <:+ f
  ne_index : f ≠ pages.indexName
  isFileAt : d.isFileAt (pages.fileIn f) = true

/-- Every page has a name, and the log does not go to its file. -/
structure Clear (pages : PageDirectory) (log : Option Location) (d : Disk) : Prop where
  named : ∀ f, pages.IsPageFile d f → f ≠ pageSuffix ∧ '/' ∉ f
  apart : ∀ f, pages.IsPageFile d f → log ≠ some (d.placeOf (pages.fileIn f))

/-- The pages of a directory are told from the log by looking at each of them. -/
theorem clear_of_forall (hdir : d.isDirectory pages.directory = .ok true)
    (h : ∀ q ∈ pages.pageFiles d, (q.name ≠ pageSuffix ∧ '/' ∉ q.name) ∧ log ≠ some (d.placeOf q)) :
    pages.Clear log d := by
  have hpage (f : Text) (hf : pages.IsPageFile d f) :
      (f ≠ pageSuffix ∧ '/' ∉ f) ∧ log ≠ some (d.placeOf (pages.fileIn f)) := by
    have hmem := (mem_pageFiles_iff hdir).2 ⟨f, rfl, hf.suffix, hf.ne_index, hf.isFileAt⟩
    have hq := h _ hmem
    rwa [name_fileIn] at hq
  exact ⟨fun f hf => (hpage f hf).1, fun f hf => (hpage f hf).2⟩

theorem IsPageFile.grow (h : pages.IsPageFile d f) (hgrows : Disk.Grows d e) :
    pages.IsPageFile e f := ⟨h.suffix, h.ne_index, hgrows.isFileAt h.isFileAt⟩

/-- The file of a page is not that of the index. -/
theorem IsPageFile.placeOf_ne (h : pages.IsPageFile d f) (hplain : pages.HasPlainIndex) :
    d.placeOf (pages.fileIn f) ≠ d.placeOf pages.indexPath := by
  rw [hplain.indexPath, fileIn, fileIn,
    Disk.placeOf_extend_singleton d pages.directory (ne_parent_of_suffix h.suffix),
    Disk.placeOf_extend_singleton d pages.directory hplain.ne_parent]
  intro hsame
  exact h.ne_index (List.cons.inj (List.append_cancel_left hsame)).1

/-- The file of a page is found under the name of the page. -/
theorem IsPageFile.pathOf_stemOf (h : pages.IsPageFile d f) (hclear : pages.Clear log d) :
    pages.pathOf (Path.stemOf f) = pages.fileIn f := by
  obtain ⟨hne, hslash⟩ := hclear.named f h
  obtain ⟨stem, rfl⟩ := h.suffix
  have hstem : stem ≠ [] := by
    rintro rfl
    exact hne rfl
  rw [stemOf_append_pageSuffix hstem]
  exact pages.pathOf_of_not_mem fun hmem => hslash (List.mem_append_left _ hmem)

namespace Keeps

variable (h : pages.Keeps log d e) (hplain : pages.HasPlainIndex) (hclear : pages.Clear log e)

include h hplain hclear

/-- The file of a page holds what it held. -/
theorem contentAt?_page (hpage : pages.IsPageFile e f) :
    e.contentAt? (d.placeOf (pages.fileIn f)) = d.contentAt? (d.placeOf (pages.fileIn f)) := by
  have hlog := hclear.apart f hpage
  have hindex := hpage.placeOf_ne hplain
  rw [h.grows.placeOf] at hlog hindex
  rw [h.grows.placeOf] at hindex
  exact h.contentAt? _ hlog hindex

/-- What is a page later on has been one before. -/
theorem isPageFile_iff (hdir : d.isDirectory pages.directory = .ok true) :
    pages.IsPageFile e f ↔ pages.IsPageFile d f := by
  refine ⟨fun hpage => ⟨hpage.suffix, hpage.ne_index, ?_⟩, fun hpage => hpage.grow h.grows⟩
  obtain ⟨hfind, hcontent⟩ := Disk.isFileAt_iff.1 hpage.isFileAt
  rw [h.grows.placeOf] at hfind hcontent
  rw [h.contentAt?_page hplain hclear hpage] at hcontent
  obtain ⟨content, hheld⟩ := Option.isSome_iff_exists.1 hcontent
  obtain ⟨file, hentry, -⟩ := Disk.contentAt?_eq_some_iff.1 hheld
  exact Disk.isFileAt_iff.2
    ⟨h.grows.find_extend hdir hfind (by rw [hentry]; rfl), hcontent⟩

/-- **The same names are listed.** A directory that has not been there before has been made at a place
where nothing stood, provided that its path leads straight to it. -/
theorem names_eq (hd : d.Sound) (he : e.Sound)
    (hthere : d.isDirectory pages.directory = .ok true ∨
      ['.', '.'] ∉ d.namesOf pages.directory)
    (hdir : e.isDirectory pages.directory = .ok true) (hnames : pages.names d = .ok names) :
    pages.names e = .ok names := by
  rw [names_of_isDirectory hdir, ← hnames]
  obtain ⟨there, hbefore, -⟩ := bind_eq_ok_iff.1 hnames
  cases there with
  | true =>
    -- both disks have the same files of pages, and names are listed in order
    have hmem (q : Path) : q ∈ pages.pageFiles e ↔ q ∈ pages.pageFiles d := by
      rw [mem_pageFiles_iff hdir, mem_pageFiles_iff hbefore]
      refine exists_congr fun f => and_congr_right fun _ => ?_
      have hsame := h.isPageFile_iff (f := f) hplain hclear hbefore
      exact ⟨fun ⟨hsuffix, hindex, hfile⟩ =>
          ⟨hsuffix, hindex, (hsame.1 ⟨hsuffix, hindex, hfile⟩).isFileAt⟩,
        fun ⟨hsuffix, hindex, hfile⟩ =>
          ⟨hsuffix, hindex, (hsame.2 ⟨hsuffix, hindex, hfile⟩).isFileAt⟩⟩
    have hnodup {d : Disk} (hsound : d.Sound) : (pages.pageFiles d).Nodup :=
      ((Disk.nodup_select_name (hsound.nodup_namesBelow _)).filter _).filter _
    have hperm := (List.perm_ext_iff_of_nodup (hnodup he) (hnodup hd)).2 hmem
    rw [names_of_isDirectory hbefore, Text.sorted_eq_sorted (hperm.map _)]
  | false =>
    have hnone : pages.pageFiles e = [] := by
      refine List.eq_nil_iff_forall_not_mem.2 fun q hq => ?_
      obtain ⟨f, rfl, hsuffix, hindex, hfile⟩ := (mem_pageFiles_iff hdir).1 hq
      have hpage : pages.IsPageFile e f := ⟨hsuffix, hindex, hfile⟩
      obtain ⟨-, hcontent⟩ := Disk.isFileAt_iff.1 hfile
      rw [h.grows.placeOf, h.contentAt?_page hplain hclear hpage] at hcontent
      obtain ⟨content, hheld⟩ := Option.isSome_iff_exists.1 hcontent
      obtain ⟨file, hentry, -⟩ := Disk.contentAt?_eq_some_iff.1 hheld
      rw [fileIn, Disk.placeOf_extend_singleton d _ (ne_parent_of_suffix hsuffix)] at hentry
      -- the page was there before, and then so was the directory
      have hbefore' : d.isDirectory pages.directory = .ok true := by
        rcases hthere with hthere | hstraight
        · exact hthere
        · exact hd.isDirectory_of_isSome h.grows hstraight hdir (by rw [hentry]; rfl)
      rw [hbefore] at hbefore'
      cases hbefore'
    rw [names_of_not_isDirectory hbefore, hnone, List.map_nil, Text.sorted, List.mergeSort_nil]

/-- **The same page is read** under a name that was listed. -/
theorem page?_eq {page : Option Text} (hlists : pages.Lists d name)
    (hpage : pages.page? d name = .ok page) : pages.page? e name = .ok page := by
  obtain ⟨-, f, hfile, hsuffix, hindex, rfl⟩ := hlists
  have hbefore : pages.IsPageFile d f := ⟨hsuffix, hindex, hfile⟩
  have hafter := hbefore.grow h.grows
  have hpath := hafter.pathOf_stemOf hclear
  rw [PageDirectory.page?, hpath] at hpage ⊢
  split at hpage
  · next t hread =>
    rw [h.grows.read (h.contentAt?_page hplain hclear hafter) hread]
    exact hpage
  · next hread =>
    -- the file is there, so that it cannot be missing
    exact absurd hread (Disk.read_ne_missing hfile)
  · cases hpage

end Keeps

end ComponentBook.PageDirectory
