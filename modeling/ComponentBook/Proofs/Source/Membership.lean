import ComponentBook.Proofs.Source.Finding

/-! # Which files are listed

A pattern leads to a file along the names that it **`Fits`** (**`Disk.mem_select_iff_fits`**). So a path leads
to a listed file when that file stands below the directory, not in an excluded directory, along names that fit
the extension (**`isListed_iff`**). An extension is *plain* when it is a part of a name and stands for itself;
then the names of every file fit whose path ends in the extension (**`StandsBelow.fitsExtension`**). What is
found by its name has such a path, but it may stand outside of the directory or in an excluded one
(**`findSource_isListed_iff`**). -/

namespace ComponentBook

namespace Disk

/-! ## The names that a pattern fits -/

/-- The names along which a pattern leads to a file. Each step takes names of its own, and there are names
left as long as there are steps left. -/
def PathPattern.Fits : PathPattern → List Text → Prop
  | [], names => names = []
  | .slash :: _, names => names = []
  | .anyDepth :: steps, names =>
    ∃ front back, names = front ++ back ∧ ['.', '.'] ∉ front ∧ back ≠ [] ∧ Fits steps back
  | .name pattern :: steps, names =>
    ∃ name back, names = name :: back ∧ name ≠ ['.', '.'] ∧ pattern.accepts name = true ∧
      (back = [] → steps = []) ∧ Fits steps back
  | .exactly name :: steps, names =>
    ∃ back, names = name :: back ∧ (back = [] → steps = []) ∧ Fits steps back

variable {d : Disk} {p q : Path} {l : Location} {names front back : List Text} {step : PatternStep}
  {steps : PathPattern} {last : Bool}

theorem extend_eq_self_iff : extend q names = q ↔ names = [] := by
  constructor
  · intro h
    have hnames : q.names ++ names = q.names := congrArg Path.names h
    exact List.append_right_eq_self.1 hnames
  · rintro rfl
    exact extend_nil q

/-- On the way to a file there are directories. -/
theorem isDirectoryAt_iff_ne_nil (hfile : d.isFileAt (extend q back) = true) :
    d.isDirectoryAt q = true ↔ back ≠ [] := by
  constructor
  · rintro hdir rfl
    rw [extend_nil, not_isFileAt_of_isDirectoryAt hdir] at hfile
    cases hfile
  · intro hne
    obtain ⟨name, more, rfl⟩ := List.exists_cons_of_ne_nil hne
    exact isDirectoryAt_iff.2 (find_of_find_extend (isFileAt_iff.1 hfile).1)

/-- Towards a file, any number of names may be taken at any depth, as long as names are left. -/
theorem takes_anyDepth_iff (hd : d.NamesForward) (hfile : d.isFileAt (extend (extend q front) back) = true) :
    d.Takes q last .anyDepth front ↔ ['.', '.'] ∉ front ∧ back ≠ [] := by
  constructor
  · intro htakes
    have hstraight := htakes.not_mem hd fun hsame => by cases hsame
    exact ⟨hstraight, (isDirectoryAt_iff_ne_nil hfile).1 htakes.2⟩
  · rintro ⟨hstraight, hne⟩
    refine ⟨?_, (isDirectoryAt_iff_ne_nil hfile).2 hne⟩
    by_cases hnil : front = []
    · exact .inl hnil
    · exact .inr (mem_namesBelow_of_isFileAt hnil hstraight hfile)

/-- Towards a file, a pattern of a name takes one name that it accepts. -/
theorem takes_name_iff {pattern : NamePattern} (hd : d.NamesForward)
    (hfile : d.isFileAt (extend (extend q front) back) = true) :
    d.Takes q last (.name pattern) front ↔
      ∃ name, front = [name] ∧ name ≠ ['.', '.'] ∧ pattern.accepts name = true ∧ (back = [] → last = true) := by
  constructor
  · intro htakes
    have hstraight := htakes.not_mem hd fun hsame => by cases hsame
    obtain ⟨name, rfl, -, haccepts, hgoes⟩ := htakes
    refine ⟨name, rfl, fun hback => hstraight (hback ▸ List.mem_singleton_self _), haccepts, fun hnil => ?_⟩
    exact hgoes.elim id fun hat => absurd hnil ((isDirectoryAt_iff_ne_nil hfile).1 hat)
  · rintro ⟨name, rfl, hne, haccepts, hends⟩
    have hstraight : ['.', '.'] ∉ [name] := fun hmem => hne (List.mem_singleton.1 hmem).symm
    refine ⟨name, rfl, mem_namesBelow_of_isFileAt (List.cons_ne_nil name []) hstraight hfile, haccepts, ?_⟩
    by_cases hnil : back = []
    · exact .inl (hends hnil)
    · exact .inr ((isDirectoryAt_iff_ne_nil hfile).2 hnil)

/-- Towards a file, a name that is given takes that name. -/
theorem takes_exactly_iff {name : Text} (hfile : d.isFileAt (extend (extend q front) back) = true) :
    d.Takes q last (.exactly name) front ↔ front = [name] ∧ (back = [] → last = true) := by
  constructor
  · rintro ⟨rfl, hgoes⟩
    refine ⟨rfl, fun hnil => ?_⟩
    exact hgoes.elim (fun hat => absurd hnil ((isDirectoryAt_iff_ne_nil hfile).1 hat)) And.left
  · rintro ⟨rfl, hends⟩
    refine ⟨rfl, ?_⟩
    by_cases hnil : back = []
    · subst hnil
      rw [extend_nil] at hfile
      exact .inr ⟨hends rfl, hfile⟩
    · exact .inl ((isDirectoryAt_iff_ne_nil hfile).2 hnil)

/-- The way of a pattern from one step to the next. -/
theorem extend_mem_select_cons_iff (hstep : step ≠ .slash) :
    extend q names ∈ d.select (step :: steps) q ↔
      ∃ front back, names = front ++ back ∧ d.Takes q steps.isEmpty step front ∧
        extend (extend q front) back ∈ d.select steps (extend q front) := by
  rw [mem_select_cons_iff]
  constructor
  · rintro (⟨hslash, -⟩ | ⟨front, htakes, h⟩)
    · exact absurd hslash hstep
    · have hany : ∀ entry ∈ d.entries, ∀ name ∈ entry.1, True := fun _ _ _ _ => trivial
      obtain ⟨back, hback, -⟩ := exists_extend_of_forall hany (fun _ _ => trivial) h
      rw [hback] at h
      rw [extend_extend] at hback
      exact ⟨front, back, List.append_cancel_left (congrArg Path.names hback), htakes, h⟩
  · rintro ⟨front, back, rfl, htakes, h⟩
    rw [extend_extend] at h
    exact .inr ⟨front, htakes, h⟩

/-- **A pattern leads to a file along the names that it fits.** -/
theorem mem_select_iff_fits (hd : d.NamesForward) (hfile : d.isFileAt (extend q names) = true) :
    extend q names ∈ d.select steps q ↔ PathPattern.Fits steps names := by
  -- along the steps of the pattern: the file stays the same, and the place where the way goes on moves
  induction steps generalizing q names with
  | nil => rw [select, List.mem_singleton, extend_eq_self_iff, PathPattern.Fits]
  | cons step steps ih =>
    by_cases hslash : step = .slash
    · subst hslash
      rw [select, List.mem_singleton, extend_eq_self_iff, PathPattern.Fits]
    rw [extend_mem_select_cons_iff hslash]
    have hthere {front back : List Text} (hnames : names = front ++ back) :
        d.isFileAt (extend (extend q front) back) = true := by
      rwa [extend_extend, ← hnames]
    have hrest {front back : List Text} (hnames : names = front ++ back) :
        extend (extend q front) back ∈ d.select steps (extend q front) ↔ PathPattern.Fits steps back :=
      ih (hthere hnames)
    cases step with
    | slash => exact absurd rfl hslash
    | anyDepth =>
      rw [PathPattern.Fits]
      refine exists₂_congr fun front back => and_congr_right fun hnames => ?_
      rw [hrest hnames, takes_anyDepth_iff hd (hthere hnames), and_assoc]
    | name pattern =>
      rw [PathPattern.Fits]
      constructor
      · rintro ⟨front, back, hnames, htakes, h⟩
        obtain ⟨name, rfl, hne, haccepts, hends⟩ := (takes_name_iff hd (hthere hnames)).1 htakes
        exact ⟨name, back, hnames, hne, haccepts, fun hnil => List.isEmpty_iff.1 (hends hnil), (hrest hnames).1 h⟩
      · rintro ⟨name, back, hnames, hne, haccepts, hends, h⟩
        refine ⟨[name], back, hnames, (takes_name_iff hd (hthere hnames)).2 ?_, (hrest hnames).2 h⟩
        exact ⟨name, rfl, hne, haccepts, fun hnil => List.isEmpty_iff.2 (hends hnil)⟩
    | exactly name =>
      rw [PathPattern.Fits]
      constructor
      · rintro ⟨front, back, hnames, htakes, h⟩
        obtain ⟨rfl, hends⟩ := (takes_exactly_iff (hthere hnames)).1 htakes
        exact ⟨back, hnames, fun hnil => List.isEmpty_iff.1 (hends hnil), (hrest hnames).1 h⟩
      · rintro ⟨back, hnames, hends, h⟩
        refine ⟨[name], back, hnames, (takes_exactly_iff (hthere hnames)).2 ?_, (hrest hnames).2 h⟩
        exact ⟨rfl, fun hnil => List.isEmpty_iff.2 (hends hnil)⟩

end Disk

/-! ## Listed files -/

variable {d : Disk} {directory p q : Path} {extension name t : Text} {names : List Text}

/-- The path leads to a file that is listed. -/
def IsListed (d : Disk) (directory : Path) (extension : Text) (p : Path) : Prop :=
  ∃ files q l, sourceFiles d directory extension = .ok files ∧ q ∈ files ∧ d.find q = .ok l ∧ d.find p = .ok l

/-- The path leads to the file that stands below a directory along names. -/
structure StandsBelow (d : Disk) (directory p : Path) (names : List Text) : Prop where
  there : d.isDirectory directory = .ok true
  file : d.isFileAt (Disk.extend directory names) = true
  same : d.find p = d.find (Disk.extend directory names)

/-- A file with the names has the extension. -/
def FitsExtension (extension : Text) (names : List Text) : Prop :=
  ∃ pattern, Disk.PathPattern.ofText ('*' :: extension) = .ok pattern ∧
    Disk.PathPattern.Fits (.anyDepth :: pattern) names

/-- **Which files are listed.** -/
theorem isListed_iff (hd : d.NamesForward) :
    IsListed d directory extension p ↔
      ∃ names, StandsBelow d directory p names ∧ isExcluded names = false ∧ FitsExtension extension names := by
  have hdrop (names : List Text) : (Disk.extend directory names).names.drop directory.names.length = names :=
    List.drop_left ..
  constructor
  · rintro ⟨files, q, l, hfiles, hq, hfound, hp⟩
    rcases sourceFiles_eq_ok_iff.1 hfiles with ⟨-, rfl⟩ | ⟨hdir, pattern, hpattern, rfl⟩
    · cases hq
    rw [Path.sorted, List.mem_mergeSort] at hq
    obtain ⟨hselect, hfile, hkept⟩ := mem_selectedFiles.1 hq
    have hany : ∀ entry ∈ d.entries, ∀ name ∈ entry.1, True := fun _ _ _ _ => trivial
    -- what is selected lies below the directory, along the names that the pattern fits
    obtain ⟨names, rfl, -⟩ := Disk.exists_extend_of_forall hany (fun _ _ => trivial) hselect
    rw [hdrop] at hkept
    exact ⟨names, ⟨hdir, hfile, hp.trans hfound.symm⟩, hkept, pattern, hpattern,
      (Disk.mem_select_iff_fits hd hfile).1 hselect⟩
  · rintro ⟨names, ⟨hdir, hfile, hsame⟩, hkept, pattern, hpattern, hfits⟩
    have hselected : Disk.extend directory names ∈ selectedFiles d directory pattern := by
      rw [mem_selectedFiles, hdrop]
      exact ⟨(Disk.mem_select_iff_fits hd hfile).2 hfits, hfile, hkept⟩
    have hfound := (Disk.isFileAt_iff.1 hfile).1
    exact ⟨_, _, _, sourceFiles_eq_ok_iff.2 (.inr ⟨hdir, pattern, hpattern, rfl⟩),
      List.mem_mergeSort.2 hselected, hfound, hsame.trans hfound⟩

/-! ## Extensions that are parts of names -/

/-- The extension is a part of a name and stands for itself. -/
structure IsPlainExtension (extension : Text) : Prop where
  literal : Disk.IsLiteral extension
  no_slash : '/' ∉ extension
  ne_dot : extension ≠ ['.']

namespace Text

/-- What is put behind a text without another separator belongs to the last field. -/
theorem exists_fields_append {sep : Char} {t u : Text} (h : sep ∉ u) :
    ∃ front last, fields sep (t ++ u) = front ++ [last ++ u] := by
  induction t with
  | nil => exact ⟨[], [], fields_of_not_mem h⟩
  | cons c t ih =>
    obtain ⟨front, last, hfields⟩ := ih
    rw [List.cons_append, fields, hfields]
    split
    · exact ⟨[] :: front, last, rfl⟩
    · cases front with
      | nil => exact ⟨[], c :: last, rfl⟩
      | cons f front => exact ⟨(c :: f) :: front, last, rfl⟩

end Text

/-- The last name of a path that is written with an extension at its end has the extension. -/
theorem suffix_name_child (h : IsPlainExtension extension) (p : Path) (t : Text) :
    extension <:+ (p.child (t ++ extension)).name := by
  by_cases hnil : extension = []
  · rw [hnil]
    exact List.nil_suffix
  obtain ⟨front, last, hfields⟩ := Text.exists_fields_append (t := t) h.no_slash
  -- the last name is neither empty nor a dot, and so it is kept
  have hkept : last ++ extension ≠ [] ∧ last ++ extension ≠ ['.'] := by
    refine ⟨List.append_ne_nil_of_right_ne_nil _ hnil, fun hdot => ?_⟩
    rcases List.append_eq_singleton_iff.1 hdot with ⟨-, hdot⟩ | ⟨-, hempty⟩
    · exact h.ne_dot hdot
    · exact hnil hempty
  have hnames : ∃ more, (Path.ofText (t ++ extension)).names = more ++ [last ++ extension] := by
    refine ⟨front.filter fun n => n ≠ [] ∧ n ≠ ['.'], ?_⟩
    rw [Path.ofText, hfields, List.filter_append, List.filter_singleton, decide_eq_true hkept]
    rfl
  obtain ⟨more, hmore⟩ := hnames
  rw [Path.child, Path.join, Path.name]
  split
  · rw [hmore, List.getLast?_concat]
    exact List.suffix_append _ _
  · rw [hmore, ← List.append_assoc, List.getLast?_concat]
    exact List.suffix_append _ _

/-- One step back from a directory there is a directory. -/
theorem Disk.Sound.directory_dropLast {l : Location} (h : d.Sound) (hl : d.entryAt? l = some .directory) :
    d.entryAt? l.dropLast = some .directory := by
  rcases List.eq_nil_or_concat l with rfl | ⟨front, name, rfl⟩
  · exact hl
  · rw [List.concat_eq_append] at hl ⊢
    rw [List.dropLast_concat]
    exact h.inside front name (by rw [hl]; rfl)

/-- A file stands at a place that ends in the last name of its path. -/
theorem exists_placeOf_eq (hd : d.Sound) (hfile : d.isFileAt p = true) (hne : p.names ≠ []) :
    ∃ front, d.placeOf p = front ++ [p.name] := by
  obtain ⟨hfind, hcontent⟩ := Disk.isFileAt_iff.1 hfile
  have hlast : p.names = p.names.dropLast ++ [p.name] := by
    rw [Path.name, List.getLast?_eq_some_getLast hne, Option.getD_some, List.dropLast_append_getLast]
  have hfront : ∃ front, d.namesOf p = front ++ [p.name] := by
    rw [Disk.namesOf]
    split
    · exact ⟨_, hlast⟩
    · exact ⟨d.workingDirectory ++ p.names.dropLast, by rw [List.append_assoc, ← hlast]⟩
  obtain ⟨front, hfront⟩ := hfront
  rw [Disk.placeOf, hfront, Disk.placeFrom_append, Disk.placeFrom, List.foldl_cons, List.foldl_nil]
  split
  · next hback =>
    -- one step back there would be a directory
    exfalso
    have hwhole := (Disk.walk_of_find hfind).2
    rw [hfront, Disk.walk_append] at hwhole
    obtain ⟨l, hl, hwalk⟩ := bind_eq_ok_iff.1 hwhole
    have hdir := Disk.directory_of_walk hwalk List.nil_prefix (List.cons_ne_nil _ _).symm
    rw [Disk.placeFrom, List.foldl_nil] at hdir
    have hplace := (Disk.eq_placeFrom_of_walk hwalk).1
    rw [Disk.placeFrom, List.foldl_cons, if_pos hback, List.foldl_nil] at hplace
    rw [hplace, Disk.contentAt?, hd.directory_dropLast hdir] at hcontent
    cases hcontent
  · exact ⟨_, rfl⟩

/-- **A file below the directory whose path ends in a plain extension has the extension.** -/
theorem StandsBelow.fitsExtension (hd : d.Sound) (h : StandsBelow d directory p names)
    (hplain : IsPlainExtension extension) (hstraight : ['.', '.'] ∉ names) (hsuffix : extension <:+ p.name) :
    FitsExtension extension names := by
  obtain ⟨hfound, hcontent⟩ := Disk.isFileAt_iff.1 h.file
  rcases List.eq_nil_or_concat names with rfl | ⟨front, last, hnames⟩
  · -- the directory itself is no file
    have hat := Disk.isDirectoryAt_iff.2 (Disk.isDirectory_eq_ok_true_iff.1 h.there).2
    have hfile := h.file
    rw [Disk.extend_nil, Disk.not_isFileAt_of_isDirectoryAt hat] at hfile
    cases hfile
  rw [List.concat_eq_append] at hnames
  subst hnames
  have hlast : extension <:+ last := by
    by_cases hne : p.names = []
    · rw [Path.name, hne, List.getLast?_nil] at hsuffix
      rw [List.suffix_nil.1 hsuffix]
      exact List.nil_suffix
    · -- both paths lead to the same place, and both end in the name of the file there
      have hfind := h.same.trans hfound
      have hplace : d.placeOf p = d.placeOf (Disk.extend directory (front ++ [last])) :=
        (Disk.eq_placeOf_of_find hfind).symm
      have hfile : d.isFileAt p = true := by
        rw [Disk.isFileAt_iff, hplace]
        exact ⟨hfind, hcontent⟩
      obtain ⟨more, hmore⟩ := exists_placeOf_eq hd hfile hne
      rw [hplace, Disk.placeOf_extend hstraight, ← List.append_assoc] at hmore
      obtain rfl := (List.cons.inj (List.append_inj' hmore rfl).2).1
      exact hsuffix
  refine ⟨_, Disk.PathPattern.ofText_star hplain.literal hplain.no_slash, front, [last], rfl, ?_,
    List.cons_ne_nil last [], last, [], rfl, ?_, Disk.accepts_star_iff.2 hlast, fun _ => rfl, rfl⟩
  · exact fun hmem => hstraight (List.mem_append_left _ hmem)
  · rintro rfl
    exact hstraight (List.mem_append_right _ (List.mem_singleton_self _))

/-- A file whose path ends in the extension, if that is a plain one, is listed when it stands below the
directory and not in an excluded directory. -/
theorem isListed_iff_of_suffix (hd : d.Regular) (hsuffix : IsPlainExtension extension → extension <:+ p.name) :
    IsListed d directory extension p ↔
      ∃ names, StandsBelow d directory p names ∧ isExcluded names = false ∧
        (IsPlainExtension extension ∧ ['.', '.'] ∉ names ∨ FitsExtension extension names) := by
  rw [isListed_iff hd.namesForward]
  constructor
  · rintro ⟨names, hstands, hkept, hfits⟩
    exact ⟨names, hstands, hkept, .inr hfits⟩
  · rintro ⟨names, hstands, hkept, ⟨hplain, hstraight⟩ | hfits⟩
    · exact ⟨names, hstands, hkept, hstands.fitsExtension hd.sound hplain hstraight (hsuffix hplain)⟩
    · exact ⟨names, hstands, hkept, hfits⟩

/-! ## Found files -/

theorem isFileAt_of_isFile (h : d.isFile p = .ok true) : d.isFileAt p = true := by
  rw [Disk.isFile, Disk.look] at h
  rw [Disk.isFileAt]
  split at h
  · cases h
  · split at h
    · next l hl =>
      rw [hl]
      exact Except.ok.inj h
    · cases h
    · cases h

theorem isFileAt_of_mem_sourceFiles {files : List Path} (h : sourceFiles d directory extension = .ok files)
    (hp : p ∈ files) : d.isFileAt p = true := by
  rcases sourceFiles_eq_ok_iff.1 h with ⟨-, rfl⟩ | ⟨-, pattern, -, rfl⟩
  · cases hp
  · rw [Path.sorted, List.mem_mergeSort] at hp
    exact (mem_selectedFiles.1 hp).2.1

/-- What is found by its name is a file, and its path ends in the extension, if that is a plain one. -/
theorem isFileAt_and_suffix_of_findSource (h : findSource d directory name extension = .ok (some q)) :
    d.isFileAt q = true ∧ (IsPlainExtension extension → extension <:+ q.name) := by
  rw [findSource] at h
  obtain ⟨direct, hdirect, h⟩ := bind_eq_ok_iff.1 h
  cases direct with
  | true =>
    obtain rfl := Option.some.inj (Except.ok.inj h)
    exact ⟨isFileAt_of_isFile hdirect, fun hplain => suffix_name_child hplain directory name⟩
  | false =>
    obtain ⟨files, hfiles, h⟩ := bind_eq_ok_iff.1 h
    have hq := List.mem_of_find?_eq_some (Except.ok.inj h)
    exact ⟨isFileAt_of_mem_sourceFiles hfiles hq,
      fun hplain => suffix_of_mem_sourceFiles hplain.literal hplain.no_slash hfiles hq⟩

/-- **When what is found by its name is listed.** It always is a file. It is listed exactly when it stands
below the directory, not in an excluded directory, and has the extension, as it does when the extension is a
plain one. -/
theorem findSource_isListed_iff (hd : d.Regular) (h : findSource d directory name extension = .ok (some q)) :
    d.isFileAt q = true ∧
      (IsListed d directory extension q ↔
        ∃ names, StandsBelow d directory q names ∧ isExcluded names = false ∧
          (IsPlainExtension extension ∧ ['.', '.'] ∉ names ∨ FitsExtension extension names)) := by
  obtain ⟨hfile, hsuffix⟩ := isFileAt_and_suffix_of_findSource h
  exact ⟨hfile, isListed_iff_of_suffix hd hsuffix⟩

/-- A name that leads out of the directory of sources and back into it. -/
def roundabout : Text := "../src/forms/../forms/X.ce".toList

theorem isListed_roundabout :
    ∃ q, findSource dottedSources (Path.ofText "src".toList) roundabout ".vue".toList = .ok (some q) ∧
      IsListed dottedSources (Path.ofText "src".toList) ".vue".toList q := by
  have hd : dottedSources.Regular :=
    ⟨Disk.sound_of_forall (by decide) (by decide), by decide, by decide⟩
  have hfound : findSource dottedSources (Path.ofText "src".toList) roundabout ".vue".toList
      = .ok (some ((Path.ofText "src".toList).child (roundabout ++ ".vue".toList))) := by decide +kernel
  refine ⟨_, hfound, (findSource_isListed_iff hd hfound).2.2 ⟨["forms".toList, "X.ce.vue".toList], ?_⟩⟩
  exact ⟨⟨by decide +kernel, by decide +kernel, by decide +kernel⟩, by decide,
    .inl ⟨⟨by decide, by decide, by decide⟩, by decide⟩⟩

/-- A source beside the directory of sources, and one in an excluded directory. -/
def strayedSources : Disk where
  entries := [(["src".toList], .directory), (["src".toList, "node_modules".toList], .directory),
    (["src".toList, "node_modules".toList, "X.vue".toList], .file { content := .text [], modified := 0 }),
    (["X.vue".toList], .file { content := .text [], modified := 1 })]

theorem sourceFiles_strayedSources :
    sourceFiles strayedSources (Path.ofText "src".toList) ".vue".toList = .ok [] :=
  sourceFiles_of_ascending (by decide +kernel) rfl (by decide +kernel) List.Pairwise.nil

/-- **What is found by its name need not be listed.** A name with a slash may lead into an excluded directory,
and one that starts with two dots out of the directory of sources. -/
theorem findSource_not_isListed :
    (∃ q, findSource strayedSources (Path.ofText "src".toList) "node_modules/X".toList ".vue".toList
        = .ok (some q) ∧ ¬ IsListed strayedSources (Path.ofText "src".toList) ".vue".toList q) ∧
      ∃ q, findSource strayedSources (Path.ofText "src".toList) "../X".toList ".vue".toList = .ok (some q) ∧
        ¬ IsListed strayedSources (Path.ofText "src".toList) ".vue".toList q := by
  have hnone (q : Path) : ¬ IsListed strayedSources (Path.ofText "src".toList) ".vue".toList q := by
    rintro ⟨files, p, -, hfiles, hp, -⟩
    rw [sourceFiles_strayedSources] at hfiles
    obtain rfl := Except.ok.inj hfiles
    cases hp
  exact ⟨⟨(Path.ofText "src".toList).child "node_modules/X.vue".toList, by decide +kernel, hnone _⟩,
    (Path.ofText "src".toList).child "../X.vue".toList, by decide +kernel, hnone _⟩

end ComponentBook
