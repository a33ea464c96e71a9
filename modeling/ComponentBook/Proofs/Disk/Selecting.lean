import ComponentBook.Proofs.Disk.Sound

/-! # What a pattern selects on two disks

A pattern is followed name by name (`Disk.Takes`): each of its steps leads on to directories, the last one
also to files. A file that a pattern selects on one disk is selected on every other one on which it stands
at the same place and its path can be walked (**`mem_select_of_isFileAt`**); nothing else on the two disks
needs to be alike. That the path can be walked is clear as soon as the directories are there that the path
leads out of again (`Disk.HasWay`, **`Sound.isFileAt_of_hasWay`**). -/

namespace ComponentBook

/-- A list without repetitions of its members has none. -/
theorem nodup_eraseDups {α : Type} [BEq α] [LawfulBEq α] (xs : List α) : xs.eraseDups.Nodup := by
  cases xs with
  | nil => exact List.nodup_nil
  | cons x xs =>
    rw [List.eraseDups_cons, List.nodup_cons]
    constructor
    · simp
    · exact nodup_eraseDups _
termination_by xs.length
decreasing_by exact Nat.lt_succ_of_le (List.length_filter_le _ xs)

namespace Disk

variable {d e : Disk} {p q : Path} {l m : Location} {names front : List Text} {step : PatternStep}
  {steps : PathPattern}

/-! ## Walking on two disks -/

/-- Where a walk goes on there is a directory. -/
theorem directory_of_walk (h : d.walk l names = .ok m) (hfront : front <+: names)
    (hne : front ≠ names) : d.entryAt? (placeFrom l front) = some .directory := by
  obtain ⟨rest, rfl⟩ := hfront
  rw [walk_append] at h
  obtain ⟨k, hk, hrest⟩ := bind_eq_ok_iff.1 h
  rw [← (eq_placeFrom_of_walk hk).1]
  cases rest with
  | nil => exact absurd (List.append_nil front).symm hne
  | cons name rest =>
    obtain ⟨next, hstep, -⟩ := walk_cons_eq_ok_iff.1 hrest
    exact (eq_of_step hstep).1

/-- Every directory that a path leads out of again is there. -/
def HasWay (d : Disk) (p : Path) : Prop :=
  ∀ front, front <+: d.namesOf p →
    placeFrom [] front <+: d.placeOf p ∨ d.entryAt? (placeFrom [] front) = some .directory

/-- A path without `..` leads out of no directory. -/
theorem hasWay_of_not_mem (h : ['.', '.'] ∉ d.namesOf p) : d.HasWay p := by
  intro front hfront
  left
  have hstraight : ['.', '.'] ∉ front := fun hmem => h (hfront.subset hmem)
  rw [placeOf, placeFrom_of_not_mem hstraight, placeFrom_of_not_mem h]
  exact hfront

theorem placeOf_extend (hstraight : ['.', '.'] ∉ names) :
    d.placeOf (extend p names) = d.placeOf p ++ names := by
  rw [extend, placeOf_append, placeFrom_of_not_mem hstraight]

theorem HasWay.extend (h : d.HasWay p) (hstraight : ['.', '.'] ∉ names) :
    d.HasWay (extend p names) := by
  intro front hfront
  rw [placeOf_extend hstraight]
  rw [Disk.extend, namesOf_append] at hfront
  rcases List.prefix_or_prefix_of_prefix hfront (List.prefix_append _ names) with
    hfront | ⟨more, rfl⟩
  · exact (h front hfront).imp_left fun hplace => hplace.trans (List.prefix_append _ _)
  · left
    have hmore : more <+: names := (List.prefix_append_right_inj _).1 hfront
    have hmem : ['.', '.'] ∉ more := fun hmem => hstraight (hmore.subset hmem)
    rw [placeFrom_append, ← placeOf, placeFrom_of_not_mem hmem]
    exact (List.prefix_append_right_inj _).2 hmore

theorem placeOf_congr (h : e.workingDirectory = d.workingDirectory) (p : Path) :
    e.placeOf p = d.placeOf p := by
  rw [placeOf, placeOf, namesOf, namesOf, h]

/-- A file that stands at the same place on another disk is found there by the same path. -/
theorem Sound.isFileAt_of_hasWay (h : Sound e) (hway : e.HasWay p)
    (hcwd : e.workingDirectory = d.workingDirectory) (hfile : d.isFileAt p = true) {f : File}
    (hentry : e.entryAt? (d.placeOf p) = some (.file f)) : e.isFileAt p = true := by
  have hplace := placeOf_congr hcwd p
  have hnames : e.namesOf p = d.namesOf p := by rw [namesOf, namesOf, hcwd]
  obtain ⟨hfind, hcontent⟩ := isFileAt_iff.1 hfile
  obtain ⟨hlong, hwalk⟩ := walk_of_find hfind
  have hdirs (front : List Text) (hfront : front <+: d.namesOf p) (hne : front ≠ d.namesOf p) :
      e.entryAt? (placeFrom [] front) = some .directory := by
    rcases hway front (hnames ▸ hfront) with ⟨rest, hrest⟩ | hdir
    · rw [hplace] at hrest
      rw [← hrest] at hentry
      -- the way goes on from there, so that it is not the place of the file
      have hrestne : rest ≠ [] := by
        rintro rfl
        have hd := directory_of_walk hwalk hfront hne
        rw [List.append_nil] at hrest
        rw [hrest] at hd
        rw [contentAt?, hd] at hcontent
        cases hcontent
      exact h.entryAt?_of_isSome_append hrestne (by rw [hentry]; rfl)
    · exact hdir
  have hfound := walk_of_walk hwalk hdirs (by rw [← placeOf, hentry]; rfl)
  refine isFileAt_iff.2 ⟨?_, ?_⟩
  · rw [find, hlong, if_neg Bool.false_ne_true, hnames, hplace]
    exact hfound
  · rw [hplace, contentAt?_of_file hentry]
    rfl

/-! ## One step of a pattern -/

theorem isDirectoryAt_iff :
    d.isDirectoryAt p = true ↔
      d.find p = .ok (d.placeOf p) ∧ d.entryAt? (d.placeOf p) = some .directory := by
  rw [isDirectoryAt]
  rcases hfind : d.find p with fault | l
  · exact ⟨nofun, fun h => nomatch h.1⟩
  · obtain rfl := eq_placeOf_of_find hfind
    simp

/-- What stands somewhere is not a directory and a file. -/
theorem not_isFileAt_of_isDirectoryAt (h : d.isDirectoryAt p = true) : d.isFileAt p = false := by
  rw [Bool.eq_false_iff]
  intro hfile
  have hcontent := (isFileAt_iff.1 hfile).2
  rw [contentAt?, (isDirectoryAt_iff.1 h).2] at hcontent
  cases hcontent

/-- A step of a pattern leads on from `q` along names; `last` says that it is the last one. -/
def Takes (d : Disk) (q : Path) (last : Bool) : PatternStep → List Text → Prop
  | .anyDepth, names =>
    (names = [] ∨ names ∈ d.namesBelow q) ∧ d.isDirectoryAt (extend q names) = true
  | .name pattern, names =>
    ∃ name, names = [name] ∧ [name] ∈ d.namesBelow q ∧ pattern.accepts name = true ∧
      (last = true ∨ d.isDirectoryAt (extend q names) = true)
  | .exactly name, names =>
    names = [name] ∧ (d.isDirectoryAt (extend q names) = true ∨
      last = true ∧ d.isFileAt (extend q names) = true)
  | .slash, _ => False

theorem extend_nil (q : Path) : extend q [] = q := by
  rw [extend, List.append_nil]

theorem extend_extend (q : Path) (names more : List Text) :
    extend (extend q names) more = extend q (names ++ more) := by
  rw [extend, extend, extend, List.append_assoc]

theorem mem_ite_filter {α : Type} {b : Bool} {f : α → Bool} {x : α} {xs : List α} :
    x ∈ (if b then xs else xs.filter f) ↔ x ∈ xs ∧ (b = true ∨ f x = true) := by
  split
  · next hb => simp [hb]
  · next hb => simp [hb, List.mem_filter]

/-- At any depth a pattern goes on from the start and from each directory below it. -/
theorem mem_select_anyDepth_iff :
    p ∈ d.select (.anyDepth :: steps) q ↔
      ∃ names, d.Takes q steps.isEmpty .anyDepth names ∧ p ∈ d.select steps (extend q names) := by
  rw [select, List.mem_eraseDups, List.mem_flatMap]
  constructor
  · rintro ⟨reached, hreached, hp⟩
    obtain ⟨hbelow, hdir⟩ := List.mem_filter.1 hreached
    rcases List.mem_cons.1 hbelow with rfl | hbelow
    · refine ⟨[], ⟨.inl rfl, ?_⟩, ?_⟩
      · rwa [extend_nil]
      · rwa [extend_nil]
    · obtain ⟨names, hnames, rfl⟩ := List.mem_map.1 hbelow
      exact ⟨names, ⟨.inr hnames, hdir⟩, hp⟩
  · rintro ⟨names, ⟨hnames, hdir⟩, hp⟩
    refine ⟨_, List.mem_filter.2 ⟨?_, hdir⟩, hp⟩
    rcases hnames with rfl | hnames
    · rw [extend_nil]
      exact List.mem_cons_self
    · exact List.mem_cons_of_mem _ (List.mem_map_of_mem hnames)

/-- A pattern of a name goes on from each thing of such a name. -/
theorem mem_select_name_iff (pattern : NamePattern) :
    p ∈ d.select (.name pattern :: steps) q ↔
      ∃ names, d.Takes q steps.isEmpty (.name pattern) names ∧ p ∈ d.select steps (extend q names) := by
  rw [select, List.mem_flatMap]
  simp only [mem_ite_filter, List.mem_filterMap]
  constructor
  · rintro ⟨reached, ⟨⟨names, hnames, hname⟩, hgoes⟩, hp⟩
    split at hname
    · next name =>
      split at hname
      · next haccepts =>
        obtain rfl := Option.some.inj hname
        exact ⟨[name], ⟨name, rfl, hnames, haccepts, hgoes⟩, hp⟩
      · cases hname
    · cases hname
  · rintro ⟨_, ⟨name, rfl, hname, haccepts, hgoes⟩, hp⟩
    exact ⟨extend q [name], ⟨⟨[name], hname, if_pos haccepts⟩, hgoes⟩, hp⟩

/-- A name that is given goes on from the thing of that name. -/
theorem mem_select_exactly_iff (name : Text) :
    p ∈ d.select (.exactly name :: steps) q ↔
      ∃ names, d.Takes q steps.isEmpty (.exactly name) names ∧ p ∈ d.select steps (extend q names) := by
  rw [select]
  constructor
  · intro h
    split at h
    · next hgoes =>
      rw [Bool.or_eq_true, Bool.and_eq_true] at hgoes
      exact ⟨[name], ⟨rfl, hgoes⟩, h⟩
    · cases h
  · rintro ⟨_, ⟨rfl, hgoes⟩, hp⟩
    rw [if_pos]
    · exact hp
    · rwa [Bool.or_eq_true, Bool.and_eq_true]

/-- A pattern is followed step by step. -/
theorem mem_select_cons_iff :
    p ∈ d.select (step :: steps) q ↔
      step = .slash ∧ p = q ∨
        ∃ names, d.Takes q steps.isEmpty step names ∧ p ∈ d.select steps (extend q names) := by
  cases step with
  | slash =>
    rw [select, List.mem_singleton]
    refine ⟨fun h => .inl ⟨rfl, h⟩, ?_⟩
    rintro (⟨-, h⟩ | ⟨names, htakes, -⟩)
    · exact h
    · exact htakes.elim
  | anyDepth =>
    rw [mem_select_anyDepth_iff, or_iff_right]
    rintro ⟨hslash, -⟩
    cases hslash
  | name pattern =>
    rw [mem_select_name_iff, or_iff_right]
    rintro ⟨hslash, -⟩
    cases hslash
  | exactly name =>
    rw [mem_select_exactly_iff, or_iff_right]
    rintro ⟨hslash, -⟩
    cases hslash

/-- What lies below a path is named as things on the disk are. -/
theorem forall_of_mem_namesBelow {holds : Text → Prop}
    (h : ∀ entry ∈ d.entries, ∀ name ∈ entry.1, holds name) (hnames : names ∈ d.namesBelow q) :
    ∀ name ∈ names, holds name := by
  rw [namesBelow] at hnames
  split at hnames
  · obtain ⟨entry, hentry, hdrop⟩ := List.mem_filterMap.1 hnames
    split at hdrop
    · obtain rfl := Option.some.inj hdrop
      exact fun name hname => h entry hentry name (List.mem_of_mem_drop hname)
    · cases hdrop
  · cases hnames

/-- A step of a pattern leads on along names of the disk, or along the name that the pattern gives. -/
theorem Takes.forall {holds : Text → Prop} {last : Bool} (h : d.Takes q last step names)
    (hd : ∀ entry ∈ d.entries, ∀ name ∈ entry.1, holds name)
    (hstep : ∀ name, step = .exactly name → holds name) : ∀ name ∈ names, holds name := by
  cases step with
  | slash => exact h.elim
  | anyDepth =>
    rcases h.1 with rfl | hnames
    · exact nofun
    · exact forall_of_mem_namesBelow hd hnames
  | name pattern =>
    obtain ⟨name, rfl, hname, -⟩ := h
    exact forall_of_mem_namesBelow hd hname
  | exactly name =>
    obtain ⟨rfl, -⟩ := h
    exact List.forall_mem_singleton.2 (hstep name rfl)

/-- What a pattern selects lies at or below where it starts, along names of the disk or of the pattern. -/
theorem exists_extend_of_forall {holds : Text → Prop}
    (hd : ∀ entry ∈ d.entries, ∀ name ∈ entry.1, holds name)
    (hsteps : ∀ name, .exactly name ∈ steps → holds name) (h : p ∈ d.select steps q) :
    ∃ names, p = extend q names ∧ ∀ name ∈ names, holds name := by
  induction steps generalizing q with
  | nil =>
    rw [select, List.mem_singleton] at h
    exact ⟨[], by rw [h, extend_nil], List.forall_mem_nil _⟩
  | cons step steps ih =>
    rcases mem_select_cons_iff.1 h with ⟨-, rfl⟩ | ⟨names, htakes, hp⟩
    · exact ⟨[], (extend_nil p).symm, List.forall_mem_nil _⟩
    · obtain ⟨more, rfl, hmore⟩ := ih (fun name hname => hsteps name (List.mem_cons_of_mem _ hname)) hp
      refine ⟨names ++ more, extend_extend q names more, List.forall_mem_append.2 ⟨?_, hmore⟩⟩
      exact htakes.forall hd fun name hname => hsteps name (hname ▸ List.mem_cons_self)

/-- No name of the disk leads back. -/
def NamesForward (d : Disk) : Prop := ∀ entry ∈ d.entries, ['.', '.'] ∉ entry.1

theorem NamesForward.forall_ne (h : d.NamesForward) :
    ∀ entry ∈ d.entries, ∀ name ∈ entry.1, name ≠ ['.', '.'] :=
  fun entry hentry _ hname hback => h entry hentry (hback ▸ hname)

/-- A step of a pattern leads back only when the pattern says so. -/
theorem Takes.not_mem {last : Bool} (h : d.Takes q last step names) (hd : d.NamesForward)
    (hstep : step ≠ .exactly ['.', '.']) : ['.', '.'] ∉ names := by
  have hne (name : Text) (hname : step = .exactly name) : name ≠ ['.', '.'] := by
    rintro rfl
    exact hstep hname
  have hforward : ∀ name ∈ names, name ≠ ['.', '.'] := h.forall hd.forall_ne hne
  exact fun hmem => hforward _ hmem rfl

/-- What a pattern selects lies at or below where it starts. -/
theorem exists_extend_of_mem_select (hd : d.NamesForward)
    (hsteps : .exactly ['.', '.'] ∉ steps) (h : p ∈ d.select steps q) :
    ∃ names, p = extend q names ∧ ['.', '.'] ∉ names := by
  have hnames (name : Text) (hname : .exactly name ∈ steps) : name ≠ ['.', '.'] := by
    rintro rfl
    exact hsteps hname
  obtain ⟨names, hp, hforward⟩ := exists_extend_of_forall hd.forall_ne hnames h
  exact ⟨names, hp, fun hmem => hforward _ hmem rfl⟩

/-- A directory on the way to a file is there on every disk on which the file is found. -/
theorem isDirectoryAt_of_isFileAt {more : List Text} (hdir : d.isDirectoryAt p = true)
    (hfile : d.isFileAt (extend p more) = true) (hefile : e.isFileAt (extend p more) = true) :
    e.isDirectoryAt p = true := by
  cases more with
  | nil =>
    rw [extend_nil, not_isFileAt_of_isDirectoryAt hdir] at hfile
    cases hfile
  | cons name more => exact isDirectoryAt_iff.2 (find_of_find_extend (isFileAt_iff.1 hefile).1)

/-- What stands on the way to a file is listed. -/
theorem mem_namesBelow_of_isFileAt {more : List Text} (hne : names ≠ [])
    (hstraight : ['.', '.'] ∉ names) (h : d.isFileAt (extend (extend q names) more) = true) :
    names ∈ d.namesBelow q := by
  obtain ⟨hfound, hcontent⟩ := isFileAt_iff.1 h
  have hstands : (d.entryAt? (d.placeOf q ++ names)).isSome := by
    rw [← placeOf_extend hstraight]
    cases more with
    | nil =>
      rw [extend_nil] at hcontent
      obtain ⟨content, hcontent⟩ := Option.isSome_iff_exists.1 hcontent
      obtain ⟨f, hentry, -⟩ := contentAt?_eq_some_iff.1 hcontent
      rw [hentry]
      rfl
    | cons name more =>
      rw [(find_of_find_extend hfound).2]
      rfl
  obtain ⟨name, rest, rfl⟩ := List.exists_cons_of_ne_nil hne
  rw [extend_extend, List.cons_append] at hfound
  exact mem_namesBelow_of_entryAt? hne (find_of_find_extend hfound).1 hstands

/-- A step that leads on towards a file does so on every disk on which the file is found. -/
theorem Takes.of_isFileAt {last : Bool} {more : List Text} (h : d.Takes q last step names)
    (hstraight : ['.', '.'] ∉ names) (hfile : d.isFileAt (extend (extend q names) more) = true)
    (hefile : e.isFileAt (extend (extend q names) more) = true)
    (hlast : last = true → e.isFileAt (extend q names) = true) : e.Takes q last step names := by
  have hdir (hdir : d.isDirectoryAt (extend q names) = true) :=
    isDirectoryAt_of_isFileAt hdir hfile hefile
  have hbelow (hne : names ≠ []) := mem_namesBelow_of_isFileAt hne hstraight hefile
  cases step with
  | slash => exact h
  | anyDepth =>
    obtain ⟨-, hat⟩ := h
    refine ⟨?_, hdir hat⟩
    by_cases hne : names = []
    · exact .inl hne
    · exact .inr (hbelow hne)
  | name pattern =>
    obtain ⟨name, rfl, -, haccepts, hgoes⟩ := h
    exact ⟨name, rfl, hbelow (List.cons_ne_nil name []), haccepts, hgoes.imp_right hdir⟩
  | exactly name =>
    obtain ⟨rfl, hgoes⟩ := h
    exact ⟨rfl, hgoes.imp hdir fun hends => ⟨hends.1, hlast hends.1⟩⟩

/-- **A file that a pattern selects on one disk is selected on every disk on which it is found.** -/
theorem mem_select_of_isFileAt (hd : d.NamesForward) (hsteps : .exactly ['.', '.'] ∉ steps)
    (h : p ∈ d.select steps q) (hfile : d.isFileAt p = true) (hefile : e.isFileAt p = true) :
    p ∈ e.select steps q := by
  -- along the steps of the pattern: the way to the file is the same on both disks
  induction steps generalizing q with
  | nil =>
    rw [select] at h ⊢
    exact h
  | cons step steps ih =>
    rw [List.mem_cons, not_or] at hsteps
    refine mem_select_cons_iff.2 ?_
    rcases mem_select_cons_iff.1 h with hslash | ⟨names, htakes, hp⟩
    · exact .inl hslash
    · have hlast (hlast : steps.isEmpty = true) : e.isFileAt (extend q names) = true := by
        rw [List.isEmpty_iff.1 hlast, select, List.mem_singleton] at hp
        rwa [← hp]
      have hstraight := htakes.not_mem hd (Ne.symm hsteps.1)
      have hrest := ih hsteps.2 hp
      obtain ⟨more, rfl, -⟩ := exists_extend_of_mem_select hd hsteps.2 hp
      exact .inr ⟨names, htakes.of_isFileAt hstraight hfile hefile hlast, hrest⟩

end Disk

end ComponentBook
