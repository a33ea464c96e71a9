import ComponentBook.Proofs.Source.Listing
import ComponentBook.Proofs.Store.IndexListing
import Mathlib.Data.List.Find

/-! # Finding a component that is listed

A component is looked up by the path that its name and the extension make, and then by the stems of the
sources that are listed. The stem of a file name is the name without the extension only when the extension
has one dot, at its start and with something behind it, and the name is not empty
(**`stemOf_append_extension_iff`**). So a source that is listed is found by its name when it stands at the
path itself, or when the extension is such a one (**`findSource_eq_some_iff`**). With one exception: a file
with nothing but the extension for a name has the extension for its stem, and is taken for the component that
is called like the extension (`HidesRepeated`). -/

namespace ComponentBook

namespace Path

variable {name front back : Text}

/-- The stem of a name whose last dot has something on either side is what stands in front of the dot. -/
theorem stemOf_append_dot (h : '.' ∉ back) :
    stemOf (front ++ '.' :: back) = if back = [] ∨ front = [] then front ++ '.' :: back else front := by
  have hplain : ∀ c ∈ back.reverse, decide (c ≠ '.') = true := by
    intro c hc
    rw [decide_eq_true_eq]
    rintro rfl
    exact h (List.mem_reverse.1 hc)
  have hend : ((front ++ '.' :: back).reverse.takeWhile (· ≠ '.')).length = back.length := by
    rw [List.reverse_append, List.reverse_cons, List.append_assoc, List.singleton_append,
      Text.takeWhile_append_of_stop hplain (by simp), List.length_reverse]
  have hlength : (front ++ '.' :: back).length = front.length + (back.length + 1) := List.length_append
  have hcut : back.length = 0 ∨ front.length + (back.length + 1) ≤ back.length + 1 ↔
      back = [] ∨ front = [] := by
    rw [← List.length_eq_zero_iff, ← List.length_eq_zero_iff (l := front)]
    omega
  rw [stemOf, hend, hlength, if_congr hcut rfl rfl]
  split
  · rfl
  · exact List.take_left' (by omega)

/-- A text with a dot has a last one. -/
theorem exists_last_dot (h : '.' ∈ name) : ∃ front back, name = front ++ '.' :: back ∧ '.' ∉ back := by
  obtain ⟨back, front, hname, hback⟩ := List.eq_append_cons_of_mem (List.mem_reverse.2 h)
  refine ⟨front.reverse, back.reverse, ?_, by rwa [List.mem_reverse]⟩
  rw [← List.reverse_reverse name, hname]
  simp

/-- **The stem of a name with an extension is the name when the last dot is that of the extension, and there
is something on either side of it.** -/
theorem stemOf_append_extension_iff {part : Text} :
    stemOf (name ++ '.' :: part) = name ↔ name ≠ [] ∧ part ≠ [] ∧ '.' ∉ part := by
  have hlonger (more : Text) : name ++ '.' :: more ≠ name := by simp
  by_cases hdot : '.' ∈ part
  · -- what stands in front of the last dot is longer than the name
    obtain ⟨front, back, rfl, hback⟩ := exists_last_dot hdot
    rw [show name ++ '.' :: (front ++ '.' :: back) = (name ++ '.' :: front) ++ '.' :: back by simp,
      stemOf_append_dot hback]
    refine iff_of_false ?_ fun h => h.2.2 hdot
    split
    · simp
    · exact hlonger front
  · rw [stemOf_append_dot hdot]
    split
    · next hcut => exact iff_of_false (hlonger part) fun h => hcut.elim h.2.1 h.1
    · next hcut =>
      rw [not_or] at hcut
      exact iff_of_true rfl ⟨hcut.2, hcut.1, hdot⟩

/-- A file name that ends in an extension of one dot has a name as its stem: the one in front of the
extension, or, when there is none, the extension. -/
theorem stemOf_eq_iff_of_suffix {f part : Text} (hpart : part ≠ []) (hdot : '.' ∉ part)
    (hf : '.' :: part <:+ f) :
    stemOf f = name ↔ name ≠ [] ∧ f = name ++ '.' :: part ∨ f = '.' :: part ∧ name = '.' :: part := by
  obtain ⟨front, rfl⟩ := hf
  rw [stemOf_append_dot hdot, List.append_left_inj]
  by_cases hfront : front = []
  · subst hfront
    rw [if_pos (.inr rfl), List.nil_append]
    constructor
    · exact fun h => .inr ⟨rfl, h.symm⟩
    · rintro (⟨hname, rfl⟩ | ⟨-, rfl⟩)
      · exact absurd rfl hname
      · rfl
  · rw [if_neg (not_or.2 ⟨hpart, hfront⟩)]
    constructor
    · rintro rfl
      exact .inl ⟨hfront, rfl⟩
    · rintro (⟨-, rfl⟩ | ⟨h, -⟩)
      · rfl
      · exact absurd (List.append_left_eq_self.1 h) hfront

end Path

namespace Disk

variable {d : Disk} {p q : Path} {l : Location} {names : List Text}

/-! ## Asking for a file next to one that is there -/

theorem namesOf_subset (hslashes : q.slashes = p.slashes) (hnames : q.names.Sublist p.names) :
    d.namesOf q ⊆ d.namesOf p := by
  intro name hname
  rw [namesOf, Path.isAbsolute] at hname ⊢
  rw [hslashes] at hname
  split at hname
  · next habsolute =>
    rw [if_pos habsolute]
    exact hnames.subset hname
  · next hrelative =>
    rw [if_neg hrelative]
    exact List.append_subset.2
      ⟨List.subset_append_left _ _, List.subset_append_of_subset_right _ hnames.subset⟩ hname

/-- A path that leads somewhere has no part that is too long, and neither has one with some of its names. -/
theorem find_ne_nameTooLong (hslashes : q.slashes = p.slashes) (hnames : q.names.Sublist p.names)
    (h : d.find p = .ok l) : d.find q ≠ .error .nameTooLong := by
  obtain ⟨hshort, hwalk⟩ := walk_of_find h
  rw [find, tooLong_of_sublist hslashes hnames hshort, if_neg Bool.false_ne_true]
  intro hq
  obtain ⟨name, hname, hne, hlong⟩ := exists_long_of_walk hq
  exact not_long_of_walk hwalk (namesOf_subset hslashes hnames hname) hne hlong

theorem hasNul_of_subset (hnames : q.names ⊆ p.names) (h : hasNul p = false) : hasNul q = false := by
  rw [hasNul, List.any_eq_false] at h ⊢
  exact fun name hname => h name (hnames hname)

theorem isFile_eq_isFileAt (hnul : hasNul p = false) (h : d.find p ≠ .error .nameTooLong) :
    d.isFile p = .ok (d.isFileAt p) := by
  rw [isFile, look, hnul, if_neg Bool.false_ne_true, isFileAt]
  rcases hfind : d.find p with fault | l
  · cases fault with
    | nameTooLong => exact absurd hfind h
    | _ => rfl
  · rfl

theorem name_extend_mem (p : Path) (hne : names ≠ []) : (extend p names).name ∈ names := by
  rw [Path.name, extend, List.getLast?_append_of_ne_nil _ hne, List.getLast?_eq_some_getLast hne]
  exact List.getLast_mem hne

end Disk

/-! ## The sources that are listed -/

variable {d : Disk} {directory p q : Path} {extension name part : Text} {files : List Path}

/-- A listed source has a name without slashes, and lies below the directory along such names. -/
theorem exists_slashFree_of_mem_sourceFiles (hslash : d.SlashFree)
    (h : sourceFiles d directory extension = .ok files) (hp : p ∈ files) :
    d.isDirectory directory = .ok true ∧ d.isFileAt p = true ∧
      ∃ names, p = Disk.extend directory names ∧ p.name ∈ names ∧ '/' ∉ p.name := by
  rcases sourceFiles_eq_ok_iff.1 h with ⟨-, rfl⟩ | ⟨hdir, pattern, hpattern, rfl⟩
  · cases hp
  · rw [Path.sorted, List.mem_mergeSort] at hp
    obtain ⟨hselect, hfile, -⟩ := mem_selectedFiles.1 hp
    have hsteps (name : Text) (hname : .exactly name ∈ Disk.PatternStep.anyDepth :: pattern) :
        '/' ∉ name := by
      rcases List.mem_cons.1 hname with hname | hname
      · cases hname
      · exact Path.slashFree_ofText _ name (Disk.mem_names_of_exactly hpattern hname)
    obtain ⟨names, rfl, hfree⟩ := Disk.exists_extend_of_forall hslash.entries hsteps hselect
    have hne : names ≠ [] := by
      rintro rfl
      -- the directory itself is no file
      have hat := Disk.isDirectoryAt_iff.2 (Disk.isDirectory_eq_ok_true_iff.1 hdir).2
      rw [Disk.extend_nil, Disk.not_isFileAt_of_isDirectoryAt hat] at hfile
      cases hfile
    have hmem := Disk.name_extend_mem directory hne
    exact ⟨hdir, hfile, names, rfl, hmem, hfree _ hmem⟩

/-- The name of a listed source ends in the extension. -/
theorem suffix_of_mem_sourceFiles (hliteral : Disk.IsLiteral extension) (hslash : '/' ∉ extension)
    (h : sourceFiles d directory extension = .ok files) (hp : p ∈ files) : extension <:+ p.name := by
  rcases sourceFiles_eq_ok_iff.1 h with ⟨-, rfl⟩ | ⟨-, pattern, hpattern, rfl⟩
  · cases hp
  · rw [Disk.PathPattern.ofText_star hliteral hslash] at hpattern
    obtain rfl := Except.ok.inj hpattern
    rw [Path.sorted, List.mem_mergeSort] at hp
    rcases Disk.mem_select_cons_iff.1 (mem_selectedFiles.1 hp).1 with ⟨hslash, -⟩ | ⟨names, -, hp⟩
    · cases hslash
    · obtain ⟨f, -, haccepts, rfl⟩ := Disk.mem_select_name.1 hp
      rw [List.mem_singleton.1 (Disk.name_extend_mem _ (List.cons_ne_nil f []))]
      exact Disk.accepts_star_iff.1 haccepts

/-! ## What is found -/

/-- Among the files that have the extension, once or twice, for their whole name, the first one has it
once. -/
def HidesRepeated (files : List Path) (extension : Text) : Prop :=
  (files.find? fun q => q.name = extension ∨ q.name = extension ++ extension).map Path.name
    = some extension

instance (files : List Path) (extension : Text) : Decidable (HidesRepeated files extension) :=
  inferInstanceAs (Decidable (_ = _))

/-- A listed source is found by its stem when the stem is its name without the extension. -/
theorem exists_find?_stem_iff (hfiles : ∀ q ∈ files, '.' :: part <:+ q.name) (hp : p ∈ files)
    (hname : p.name = name ++ '.' :: part) :
    (∃ q, files.find? (fun q => q.stem = name) = some q ∧ q.name = name ++ '.' :: part) ↔
      name ≠ [] ∧ part ≠ [] ∧ '.' ∉ part ∧ (name = '.' :: part → ¬ HidesRepeated files ('.' :: part)) := by
  have hstem (hpart : part ≠ []) (hdot : '.' ∉ part) (q : Path) (hq : q ∈ files) : Path.stemOf q.name = name ↔
      name ≠ [] ∧ q.name = name ++ '.' :: part ∨ q.name = '.' :: part ∧ name = '.' :: part :=
    Path.stemOf_eq_iff_of_suffix hpart hdot (hfiles q hq)
  -- a component that is called like the extension shares its stem with a file that has only the extension
  have hhidden (hpart : part ≠ []) (hdot : '.' ∉ part) (hcalled : name = '.' :: part) :
      files.find? (fun q => q.stem = name)
        = files.find? fun q => q.name = '.' :: part ∨ q.name = '.' :: part ++ '.' :: part := by
    refine List.find?_congr fun q hq => decide_eq_decide.2 ?_
    rw [Path.stem, hstem hpart hdot q hq, hcalled]
    constructor
    · exact fun h => h.symm.imp (·.1) (·.2)
    · exact fun h => h.symm.imp (⟨List.cons_ne_nil _ _, ·⟩) (⟨·, rfl⟩)
  constructor
  · rintro ⟨q, hfind, hq⟩
    have hqstem : q.stem = name := by simpa using List.find?_some hfind
    rw [Path.stem, hq] at hqstem
    obtain ⟨hne, hpart, hdot⟩ := Path.stemOf_append_extension_iff.1 hqstem
    refine ⟨hne, hpart, hdot, fun hcalled hhides => ?_⟩
    rw [HidesRepeated, ← hhidden hpart hdot hcalled, hfind, Option.map_some, hq] at hhides
    exact hne (List.append_left_eq_self.1 (Option.some.inj hhides))
  · rintro ⟨hne, hpart, hdot, hclear⟩
    have hsome : (files.find? fun q => q.stem = name).isSome := by
      rw [List.find?_isSome]
      refine ⟨p, hp, decide_eq_true ?_⟩
      rw [Path.stem, hname]
      exact Path.stemOf_append_extension_iff.2 ⟨hne, hpart, hdot⟩
    obtain ⟨q, hfind⟩ := Option.isSome_iff_exists.1 hsome
    have hqstem : q.stem = name := by simpa using List.find?_some hfind
    refine ⟨q, hfind, ?_⟩
    rcases (hstem hpart hdot q (List.mem_of_find?_eq_some hfind)).1 hqstem with ⟨-, hq⟩ | ⟨hq, hcalled⟩
    · exact hq
    · refine absurd ?_ (hclear hcalled)
      rw [HidesRepeated, ← hhidden hpart hdot hcalled, hfind, Option.map_some, hq]

/-- Looking for a component takes the path that its name and the extension make, or the first of the listed
sources with its stem. -/
theorem findSource_eq (hd : d.Regular) (hslash : d.SlashFree)
    (h : sourceFiles d directory extension = .ok files) (hp : p ∈ files)
    (hname : p.name = name ++ extension) :
    findSource d directory name extension
      = .ok (if d.isFileAt (directory.child (name ++ extension)) then
          some (directory.child (name ++ extension))
        else files.find? fun q => q.stem = name) := by
  obtain ⟨hdir, -, names, rfl, hmem, hfree⟩ := exists_slashFree_of_mem_sourceFiles hslash h hp
  rw [hname] at hmem hfree
  have hstar : '/' ∉ '*' :: extension := by
    rw [List.mem_cons, not_or]
    exact ⟨by decide, fun hmem => hfree (List.mem_append_right name hmem)⟩
  have hforward : ['.', '.'] ∉ (Path.ofText ('*' :: extension)).names := by
    intro hback
    have hfield := (List.mem_filter.1 hback).1
    rw [Text.fields_of_not_mem hstar] at hfield
    cases List.mem_singleton.1 hfield
  obtain ⟨file, hread, -⟩ := exists_file_of_mem_sourceFiles hd hforward h hp
  obtain ⟨hnul, hfind, -⟩ := Disk.file_eq_ok_iff.1 hread
  -- the path of the name and the extension has names of the path of the source
  have hsub : (directory.child (name ++ extension)).names.Sublist (Disk.extend directory names).names := by
    rw [Disk.child_of_not_mem directory hfree]
    split
    · exact List.sublist_append_left _ _
    · exact (List.singleton_sublist.2 hmem).append_left _
  have hslashes : (directory.child (name ++ extension)).slashes = (Disk.extend directory names).slashes := by
    rw [Disk.child_of_not_mem directory hfree]
    split <;> rfl
  have hasked := Disk.isFile_eq_isFileAt (Disk.hasNul_of_subset hsub.subset hnul)
    (Disk.find_ne_nameTooLong hslashes hsub hfind)
  rw [findSource, hasked, h]
  cases d.isFileAt (directory.child (name ++ extension)) with
  | true => rfl
  | false => rfl

/-- What stands at the path of the name and the extension has that name, if it is a file. -/
theorem name_child_of_isFileAt (hdir : d.isDirectory directory = .ok true) (hfree : '/' ∉ name)
    (h : d.isFileAt (directory.child name) = true) : (directory.child name).name = name := by
  rw [Disk.child_of_not_mem directory hfree] at h ⊢
  split at h
  · -- the empty name and the dot lead to the directory itself
    have hat := Disk.isDirectoryAt_iff.2 (Disk.isDirectory_eq_ok_true_iff.1 hdir).2
    rw [Disk.not_isFileAt_of_isDirectoryAt hat] at h
    cases h
  · next hplain =>
    rw [if_neg hplain]
    exact List.mem_singleton.1 (Disk.name_extend_mem directory (List.cons_ne_nil name []))

/-- **Which listed sources are found by their names.** A source that is listed is found when a file with its
name stands at the path that the component's name and the extension make. Else it is found exactly when the
component's name is not empty, and the extension has one dot and something behind it; and, if the component
is called like the extension, when no file with nothing but the extension for a name comes before it. -/
theorem exists_findSource_iff (hd : d.Regular) (hslash : d.SlashFree) (hliteral : Disk.IsLiteral part)
    (h : sourceFiles d directory ('.' :: part) = .ok files) (hp : p ∈ files)
    (hname : p.name = name ++ '.' :: part) :
    (∃ q, findSource d directory name ('.' :: part) = .ok (some q) ∧ q.name = name ++ '.' :: part ∧
        d.isFileAt q = true) ↔
      d.isFileAt (directory.child (name ++ '.' :: part)) = true ∨
        name ≠ [] ∧ part ≠ [] ∧ '.' ∉ part ∧
          (name = '.' :: part → ¬ HidesRepeated files ('.' :: part)) := by
  obtain ⟨hdir, -, -, -, -, hfree⟩ := exists_slashFree_of_mem_sourceFiles hslash h hp
  rw [hname] at hfree
  have hextension : '/' ∉ '.' :: part := fun hmem => hfree (List.mem_append_right name hmem)
  have hdotted : Disk.IsLiteral ('.' :: part) := List.forall_mem_cons.2 ⟨by decide, hliteral⟩
  rw [findSource_eq hd hslash h hp hname]
  by_cases hdirect : d.isFileAt (directory.child (name ++ '.' :: part)) = true
  · rw [if_pos hdirect]
    exact iff_of_true ⟨_, rfl, name_child_of_isFileAt hdir hfree hdirect, hdirect⟩ (.inl hdirect)
  · rw [if_neg hdirect, or_iff_right hdirect,
      ← exists_find?_stem_iff (fun q hq => suffix_of_mem_sourceFiles hdotted hextension h hq) hp hname]
    constructor
    · rintro ⟨q, hfind, hq, -⟩
      exact ⟨q, Except.ok.inj hfind, hq⟩
    · rintro ⟨q, hfind, hq⟩
      obtain ⟨-, hfile, -⟩ :=
        exists_slashFree_of_mem_sourceFiles hslash h (List.mem_of_find?_eq_some hfind)
      exact ⟨q, congrArg Except.ok hfind, hq, hfile⟩

/-- Sources that are selected in ascending order are listed so. -/
theorem sourceFiles_of_ascending {pattern : Disk.PathPattern} (hthere : d.isDirectory directory = .ok true)
    (hpattern : Disk.PathPattern.ofText ('*' :: extension) = .ok pattern)
    (hselected : selectedFiles d directory pattern = files)
    (hascending : files.Pairwise (Path.precedes · · = true)) : sourceFiles d directory extension = .ok files := by
  refine sourceFiles_eq_ok_iff.2 (.inr ⟨hthere, pattern, hpattern, ?_⟩)
  rw [hselected, Path.sorted, List.mergeSort_of_pairwise hascending]

/-- Sources with several dots in their names, below the directory of sources. -/
def dottedSources : Disk where
  entries := [(["src".toList], .directory), (["src".toList, "forms".toList], .directory),
    (["src".toList, "forms".toList, ".vue".toList], .file { content := .text [], modified := 0 }),
    (["src".toList, "forms".toList, "X.ce.vue".toList], .file { content := .text [], modified := 1 }),
    (["src".toList, "zoo".toList], .directory),
    (["src".toList, "zoo".toList, ".vue.vue".toList], .file { content := .text [], modified := 2 })]

theorem sourceFiles_dottedSources :
    sourceFiles dottedSources (Path.ofText "src".toList) ".vue".toList =
      .ok [Path.ofText "src/forms/.vue".toList, Path.ofText "src/forms/X.ce.vue".toList,
        Path.ofText "src/zoo/.vue.vue".toList] :=
  sourceFiles_of_ascending (by decide +kernel) rfl (by decide +kernel) (by decide +kernel)

/-- With the extension `.vue` the component `X.ce` is found further down. -/
theorem exists_findSource_dotted :
    dottedSources.Regular ∧ dottedSources.SlashFree ∧ Disk.IsLiteral "vue".toList ∧
      ∃ files p, sourceFiles dottedSources (Path.ofText "src".toList) ('.' :: "vue".toList) = .ok files ∧
        p ∈ files ∧ p.name = "X.ce".toList ++ '.' :: "vue".toList ∧
        ∃ q, findSource dottedSources (Path.ofText "src".toList) "X.ce".toList ('.' :: "vue".toList)
            = .ok (some q) ∧
          q.name = "X.ce".toList ++ '.' :: "vue".toList ∧ dottedSources.isFileAt q = true := by
  have hd : dottedSources.Regular :=
    ⟨Disk.sound_of_forall (by decide) (by decide), by decide, by decide⟩
  have hslash : dottedSources.SlashFree := ⟨by decide, by decide⟩
  have hfiles : sourceFiles dottedSources (Path.ofText "src".toList) ('.' :: "vue".toList) =
      .ok [Path.ofText "src/forms/.vue".toList, Path.ofText "src/forms/X.ce.vue".toList,
        Path.ofText "src/zoo/.vue.vue".toList] := sourceFiles_dottedSources
  have hp : Path.ofText "src/forms/X.ce.vue".toList ∈ [Path.ofText "src/forms/.vue".toList,
      Path.ofText "src/forms/X.ce.vue".toList, Path.ofText "src/zoo/.vue.vue".toList] := by decide
  refine ⟨hd, hslash, by decide, _, _, hfiles, hp, by decide, ?_⟩
  exact (exists_findSource_iff hd hslash (by decide) hfiles hp (by decide)).2
    (.inr ⟨by decide, by decide, by decide, fun h => absurd h (by decide)⟩)

/-- **A source that is listed need not be found by its name.** With the extension `.ce.vue` the stem of the
only source still has a dot. With the extension `.vue` nothing is found for the empty name, and the component
called like the extension is mistaken for the one with the empty name. -/
theorem findSource_dotted_ne :
    (sourceFiles dottedSources (Path.ofText "src".toList) ".ce.vue".toList
        = .ok [Path.ofText "src/forms/X.ce.vue".toList] ∧
      findSource dottedSources (Path.ofText "src".toList) "X".toList ".ce.vue".toList = .ok none) ∧
    sourceFiles dottedSources (Path.ofText "src".toList) ".vue".toList
        = .ok [Path.ofText "src/forms/.vue".toList, Path.ofText "src/forms/X.ce.vue".toList,
          Path.ofText "src/zoo/.vue.vue".toList] ∧
      findSource dottedSources (Path.ofText "src".toList) [] ".vue".toList = .ok none ∧
      findSource dottedSources (Path.ofText "src".toList) ".vue".toList ".vue".toList
        = .ok (some (Path.ofText "src/forms/.vue".toList)) := by
  refine ⟨⟨by decide +kernel, by decide +kernel⟩, sourceFiles_dottedSources, ?_, ?_⟩
  · rw [findSource, sourceFiles_dottedSources]
    decide +kernel
  · rw [findSource, sourceFiles_dottedSources]
    decide +kernel

end ComponentBook
