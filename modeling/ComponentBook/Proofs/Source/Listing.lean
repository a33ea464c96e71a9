import ComponentBook.Proofs.Disk.Changing
import ComponentBook.Proofs.Text.Order
import ComponentBook.Source.Listing

/-! # The component sources on two disks

The sources below a directory are listed in ascending order and without repetitions
(`pairwise_sourceFiles`, `nodup_sourceFiles`). A source that is listed on one disk is listed on another one
on which it stands at the same place (**`mem_sourceFiles_of_file`**). When the sources of one disk cannot be
listed, because a name is too long or the pattern makes no sense, those of another one are none
(**`eq_nil_of_sourceFiles_error`**). -/

namespace ComponentBook

namespace Path

/-! ## The order of paths -/

theorem precedesByName_total (s t : List Text) :
    (precedesByName s t || precedesByName t s) = true := by
  induction s generalizing t with
  | nil => simp [precedesByName]
  | cons a s ih =>
    cases t with
    | nil => simp [precedesByName]
    | cons b t =>
      by_cases hab : a = b
      · subst hab
        simpa [precedesByName] using ih t
      · simpa [precedesByName, hab, Ne.symm hab] using Text.precedes_total a b

theorem precedesByName_trans {r s t : List Text} (hrs : precedesByName r s = true)
    (hst : precedesByName s t = true) : precedesByName r t = true := by
  induction r generalizing s t with
  | nil => simp [precedesByName]
  | cons a r ih =>
    cases s with
    | nil => simp [precedesByName] at hrs
    | cons b s =>
      cases t with
      | nil => simp [precedesByName] at hst
      | cons c t =>
        -- the first place at which two of the lists differ decides
        by_cases hab : a = b
        · subst hab
          by_cases hac : a = c
          · subst hac
            simp only [precedesByName, if_true] at hrs hst ⊢
            exact ih hrs hst
          · simpa only [precedesByName, if_neg hac] using hst
        · simp only [precedesByName, if_neg hab] at hrs
          by_cases hbc : b = c
          · subst hbc
            simpa only [precedesByName, if_neg hab] using hrs
          · simp only [precedesByName, if_neg hbc] at hst
            have hac : a ≠ c := by
              rintro rfl
              exact hab (Text.precedes_antisymm hrs hst)
            simpa only [precedesByName, if_neg hac] using Text.precedes_trans hrs hst

/-- A list of paths that has been sorted ascends. -/
theorem pairwise_sorted (ps : List Path) : (sorted ps).Pairwise (precedes · · = true) :=
  @List.pairwise_mergeSort Path precedes (fun _ _ _ => precedesByName_trans)
    (fun _ _ => precedesByName_total _ _) ps

end Path

namespace Disk

variable {d e : Disk} {p : Path} {l m : Location} {names : List Text} {failure : Failure}

/-! ## Directories that cannot be asked for -/

theorem exists_long_of_walk (h : d.walk l names = .error .nameTooLong) :
    ∃ name ∈ names, name ≠ ['.', '.'] ∧ nameLimit < name.utf8Length := by
  induction names generalizing l with
  | nil =>
    rw [walk] at h
    split at h <;> cases h
  | cons name names ih =>
    rw [walk] at h
    split at h
    · split at h
      · obtain ⟨other, hother, hlong⟩ := ih h
        exact ⟨other, List.mem_cons_of_mem name hother, hlong⟩
      · next fault hstep =>
        obtain rfl := Except.error.inj h
        rw [step] at hstep
        split at hstep
        · split at hstep
          · cases hstep
          · next hname =>
            split at hstep
            · next hlong => exact ⟨name, List.mem_cons_self, hname, hlong⟩
            · cases hstep
        · cases hstep
    · cases h

theorem not_long_of_walk (h : d.walk l names = .ok m) {name : Text} (hname : name ∈ names)
    (hne : name ≠ ['.', '.']) : ¬ nameLimit < name.utf8Length := by
  induction names generalizing l with
  | nil => cases hname
  | cons first names ih =>
    obtain ⟨next, hstep, hrest⟩ := walk_cons_eq_ok_iff.1 h
    rcases List.mem_cons.1 hname with rfl | hname
    · intro hlong
      rw [step, if_pos (eq_of_step hstep).1, if_neg hne, if_pos hlong] at hstep
      cases hstep
    · exact ih hrest hname

theorem find_of_isDirectory_error (h : d.isDirectory p = .error failure) :
    d.find p = .error .nameTooLong := by
  rw [isDirectory, look] at h
  split at h
  · cases h
  · split at h
    · cases h
    · next hfind => exact hfind
    · cases h

/-- A path of which one disk cannot tell whether it leads to a directory leads to none on another disk. -/
theorem not_isDirectory_of_error (h : d.isDirectory p = .error failure)
    (hcwd : e.workingDirectory = d.workingDirectory) : e.isDirectory p ≠ .ok true := by
  intro hdir
  have hfind := find_of_isDirectory_error h
  obtain ⟨hshort, hwalk⟩ := walk_of_find (isDirectory_eq_ok_true_iff.1 hdir).2.1
  rw [find, hshort, if_neg Bool.false_ne_true] at hfind
  obtain ⟨name, hname, hne, hlong⟩ := exists_long_of_walk hfind
  have hnames : e.namesOf p = d.namesOf p := by rw [namesOf, namesOf, hcwd]
  exact not_long_of_walk hwalk (hnames ▸ hname) hne hlong

/-! ## The names of a pattern -/

theorem exists_of_mem_mapM {α β ε : Type} {f : α → Except ε β} {xs : List α} {ys : List β} {y : β}
    (h : xs.mapM f = .ok ys) (hy : y ∈ ys) : ∃ x ∈ xs, f x = .ok y := by
  induction xs generalizing ys with
  | nil =>
    obtain rfl := Except.ok.inj h
    cases hy
  | cons x xs ih =>
    rw [List.mapM_cons] at h
    obtain ⟨z, hz, h⟩ := bind_eq_ok_iff.1 h
    obtain ⟨zs, hzs, h⟩ := bind_eq_ok_iff.1 h
    obtain rfl := Except.ok.inj h
    rcases List.mem_cons.1 hy with rfl | hy
    · exact ⟨x, List.mem_cons_self, hz⟩
    · obtain ⟨other, hother, hf⟩ := ih hzs hy
      exact ⟨other, List.mem_cons_of_mem x hother, hf⟩

/-- A pattern asks for exactly a name only when it has been written with that name. -/
theorem mem_names_of_exactly {t name : Text} {pattern : PathPattern}
    (h : PathPattern.ofText t = .ok pattern) (hname : .exactly name ∈ pattern) :
    name ∈ (Path.ofText t).names := by
  obtain ⟨steps, hsteps, h⟩ := bind_eq_ok_iff.1 h
  obtain rfl := Except.ok.inj h
  rcases List.mem_append.1 hname with hname | hname
  · obtain ⟨written, hwritten, hstep⟩ := exists_of_mem_mapM hsteps hname
    have heq : written = name := by
      rw [PatternStep.ofText] at hstep
      split at hstep
      · cases hstep
      · split at hstep
        · cases hstep
        · split at hstep
          · cases hstep
          · exact PatternStep.exactly.inj (Except.ok.inj hstep)
    rwa [← heq]
  · split at hname
    · rw [List.mem_singleton] at hname
      cases hname
    · cases hname

end Disk

/-! ## What is listed -/

variable {d e : Disk} {directory p : Path} {extension : Text} {files before : List Path}
  {failure : Disk.Failure}

/-- The files that a pattern selects below a directory, without those in excluded directories. -/
def selectedFiles (d : Disk) (directory : Path) (pattern : Disk.PathPattern) : List Path :=
  ((d.select (.anyDepth :: pattern) directory).filter d.isFileAt).filter
    fun p => !isExcluded (p.names.drop directory.names.length)

theorem mem_selectedFiles {pattern : Disk.PathPattern} :
    p ∈ selectedFiles d directory pattern ↔
      p ∈ d.select (.anyDepth :: pattern) directory ∧ d.isFileAt p = true ∧
        isExcluded (p.names.drop directory.names.length) = false := by
  rw [selectedFiles, List.mem_filter, List.mem_filter, Bool.not_eq_true', and_assoc]

/-- What listing the sources comes to. -/
theorem sourceFiles_eq_ok_iff :
    sourceFiles d directory extension = .ok files ↔
      d.isDirectory directory = .ok false ∧ files = [] ∨
        d.isDirectory directory = .ok true ∧ ∃ pattern,
          Disk.PathPattern.ofText ('*' :: extension) = .ok pattern ∧
            files = Path.sorted (selectedFiles d directory pattern) := by
  rw [sourceFiles, bind_eq_ok_iff]
  constructor
  · rintro ⟨there, hthere, h⟩
    cases there with
    | false => exact .inl ⟨hthere, (Except.ok.inj h).symm⟩
    | true =>
      obtain ⟨pattern, hpattern, h⟩ := bind_eq_ok_iff.1 h
      exact .inr ⟨hthere, pattern, hpattern, (Except.ok.inj h).symm⟩
  · rintro (⟨hthere, rfl⟩ | ⟨hthere, pattern, hpattern, rfl⟩)
    · exact ⟨false, hthere, rfl⟩
    · exact ⟨true, hthere, bind_eq_ok_iff.2 ⟨pattern, hpattern, rfl⟩⟩

/-- The sources ascend. -/
theorem pairwise_sourceFiles (h : sourceFiles d directory extension = .ok files) :
    files.Pairwise (Path.precedes · · = true) := by
  rcases sourceFiles_eq_ok_iff.1 h with ⟨-, rfl⟩ | ⟨-, pattern, -, rfl⟩
  · exact List.Pairwise.nil
  · exact Path.pairwise_sorted _

/-- No source is listed twice. -/
theorem nodup_sourceFiles (h : sourceFiles d directory extension = .ok files) : files.Nodup := by
  rcases sourceFiles_eq_ok_iff.1 h with ⟨-, rfl⟩ | ⟨-, pattern, -, rfl⟩
  · exact List.nodup_nil
  · rw [Path.sorted, (List.mergeSort_perm _ _).nodup_iff, selectedFiles, Disk.select]
    exact ((nodup_eraseDups _).filter _).filter _

/-- The sources of a directory that has any lie below it. -/
theorem exists_of_mem_sourceFiles (hd : d.Regular)
    (hextension : ['.', '.'] ∉ (Path.ofText ('*' :: extension)).names)
    (h : sourceFiles d directory extension = .ok files) (hp : p ∈ files) :
    ∃ pattern name more, Disk.PathPattern.ofText ('*' :: extension) = .ok pattern ∧
      .exactly ['.', '.'] ∉ pattern ∧ d.isDirectory directory = .ok true ∧
      p ∈ selectedFiles d directory pattern ∧ p = Disk.extend directory (name :: more) ∧
      ['.', '.'] ∉ name :: more := by
  rcases sourceFiles_eq_ok_iff.1 h with ⟨-, rfl⟩ | ⟨hdir, pattern, hpattern, rfl⟩
  · cases hp
  · rw [Path.sorted, List.mem_mergeSort] at hp
    have hexactly : .exactly ['.', '.'] ∉ pattern :=
      fun hmem => hextension (Disk.mem_names_of_exactly hpattern hmem)
    have hsteps : .exactly ['.', '.'] ∉ Disk.PatternStep.anyDepth :: pattern := by
      rw [List.mem_cons, not_or]
      exact ⟨nofun, hexactly⟩
    obtain ⟨hselect, hfile, -⟩ := mem_selectedFiles.1 hp
    obtain ⟨names, rfl, hstraight⟩ :=
      Disk.exists_extend_of_mem_select hd.namesForward hsteps hselect
    cases names with
    | nil =>
      -- the directory itself is no file
      have hat := Disk.isDirectoryAt_iff.2 (Disk.isDirectory_eq_ok_true_iff.1 hdir).2
      rw [Disk.extend_nil, Disk.not_isFileAt_of_isDirectoryAt hat] at hfile
      cases hfile
    | cons name more =>
      exact ⟨pattern, name, more, hpattern, hexactly, hdir, hp, rfl, hstraight⟩

/-- A source that is listed is a file that can be asked for. -/
theorem exists_file_of_mem_sourceFiles (hd : d.Regular)
    (hextension : ['.', '.'] ∉ (Path.ofText ('*' :: extension)).names)
    (h : sourceFiles d directory extension = .ok files) (hp : p ∈ files) :
    ∃ f, d.file p = .ok f ∧ d.entryAt? (d.placeOf p) = some (.file f) := by
  obtain ⟨pattern, name, more, -, -, hdir, hselected, rfl, hstraight⟩ :=
    exists_of_mem_sourceFiles hd hextension h hp
  have hfile := (mem_selectedFiles.1 hselected).2.1
  obtain ⟨hfind, hcontent⟩ := Disk.isFileAt_iff.1 hfile
  obtain ⟨content, hcontent⟩ := Option.isSome_iff_exists.1 hcontent
  obtain ⟨f, hentry, -⟩ := Disk.contentAt?_eq_some_iff.1 hcontent
  have hnul := hd.hasNul_extend (Disk.isDirectory_eq_ok_true_iff.1 hdir).1 hstraight hfile
  exact ⟨f, Disk.file_eq_ok_iff.2 ⟨hnul, hfind, hentry⟩, hentry⟩

/-- **A source that is listed on one disk is listed on another one on which it stands at the same place.** -/
theorem mem_sourceFiles_of_file (hd : d.Regular) (he : e.Sound)
    (hcwd : e.workingDirectory = d.workingDirectory) (hway : e.HasWay directory)
    (hextension : ['.', '.'] ∉ (Path.ofText ('*' :: extension)).names)
    (h : sourceFiles d directory extension = .ok files) (hp : p ∈ files) {f : File}
    (hentry : e.entryAt? (d.placeOf p) = some (.file f))
    (hbefore : sourceFiles e directory extension = .ok before) : p ∈ before := by
  obtain ⟨pattern, name, more, hpattern, hexactly, hdir, hselected, rfl, hstraight⟩ :=
    exists_of_mem_sourceFiles hd hextension h hp
  obtain ⟨hselect, hfile, hkept⟩ := mem_selectedFiles.1 hselected
  have hefile := he.isFileAt_of_hasWay (hway.extend hstraight) hcwd hfile hentry
  -- the directory is there, as there is a file below it
  have hedir : e.isDirectory directory = .ok true :=
    Disk.isDirectory_eq_ok_true_iff.2 ⟨(Disk.isDirectory_eq_ok_true_iff.1 hdir).1,
      Disk.find_of_find_extend (Disk.isFileAt_iff.1 hefile).1⟩
  rcases sourceFiles_eq_ok_iff.1 hbefore with ⟨hnone, -⟩ | ⟨-, other, hother, rfl⟩
  · rw [hedir] at hnone
    cases hnone
  · rw [hpattern] at hother
    obtain rfl := Except.ok.inj hother
    have hsteps : .exactly ['.', '.'] ∉ Disk.PatternStep.anyDepth :: pattern := by
      rw [List.mem_cons, not_or]
      exact ⟨nofun, hexactly⟩
    rw [Path.sorted, List.mem_mergeSort]
    exact mem_selectedFiles.2
      ⟨Disk.mem_select_of_isFileAt hd.namesForward hsteps hselect hfile hefile, hefile, hkept⟩

/-- **When the sources of one disk cannot be listed, those of another one are none.** -/
theorem eq_nil_of_sourceFiles_error (h : sourceFiles d directory extension = .error failure)
    (hcwd : e.workingDirectory = d.workingDirectory)
    (hfiles : sourceFiles e directory extension = .ok files) : files = [] := by
  rcases sourceFiles_eq_ok_iff.1 hfiles with ⟨-, rfl⟩ | ⟨hdir, pattern, hpattern, -⟩
  · rfl
  · exfalso
    rcases hthere : d.isDirectory directory with fault | there
    · exact Disk.not_isDirectory_of_error hthere hcwd hdir
    · cases there with
      | false => rw [sourceFiles_eq_ok_iff.2 (.inl ⟨hthere, rfl⟩)] at h; cases h
      | true =>
        rw [sourceFiles_eq_ok_iff.2 (.inr ⟨hthere, pattern, hpattern, rfl⟩)] at h
        cases h

end ComponentBook
