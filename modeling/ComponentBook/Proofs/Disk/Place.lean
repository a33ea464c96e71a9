import ComponentBook.Disk.Basic

/-! # Places of paths

Where a path leads can be told from its names alone (**`Disk.placeOf`**); a walk that succeeds ends
there (`eq_placeOf_of_find`, `eq_placeOf_of_place`). A disk **`Grows`** when its directories stay
directories and its files stay files, whatever they hold: then every path that led somewhere leads
there still. -/

namespace ComponentBook

/-- A plan after a plan succeeds when both do. -/
theorem bind_eq_ok_iff {ε α β : Type} {x : Except ε α} {f : α → Except ε β} {b : β} :
    (x >>= f) = .ok b ↔ ∃ a, x = .ok a ∧ f a = .ok b := by
  constructor
  · intro h
    rcases x with e | a
    · cases h
    · exact ⟨a, rfl, h⟩
  · rintro ⟨a, rfl, h⟩
    exact h

/-- What becomes of a value succeeds when the value is there. -/
theorem map_eq_ok_iff {ε α β : Type} {x : Except ε α} {f : α → β} {b : β} :
    x.map f = .ok b ↔ ∃ a, x = .ok a ∧ f a = b := by
  constructor
  · intro h
    rcases x with e | a
    · cases h
    · exact ⟨a, rfl, Except.ok.inj h⟩
  · rintro ⟨a, rfl, rfl⟩
    rfl

theorem map_eq_error_iff {ε α β : Type} {x : Except ε α} {f : α → β} {e : ε} :
    x.map f = .error e ↔ x = .error e := by
  rcases x with d | a
  · exact ⟨fun h => congrArg Except.error (Except.error.inj h),
      fun h => congrArg Except.error (Except.error.inj h)⟩
  · exact ⟨nofun, nofun⟩

namespace Disk

variable {d e : Disk} {p : Path} {l k : Location} {names : List Text}

/-- The place to which names lead from `l`, whatever stands on the way. -/
def placeFrom (l : Location) (names : List Text) : Location :=
  names.foldl (fun k name => if name = ['.', '.'] then k.dropLast else k ++ [name]) l

/-- The place to which a path leads, whatever stands on the way. -/
def placeOf (d : Disk) (p : Path) : Location := placeFrom [] (d.namesOf p)

theorem placeFrom_append (l : Location) (names more : List Text) :
    placeFrom l (names ++ more) = placeFrom (placeFrom l names) more := List.foldl_append

theorem namesOf_append (d : Disk) (p : Path) (names : List Text) :
    d.namesOf { p with names := p.names ++ names } = d.namesOf p ++ names := by
  rw [namesOf, namesOf, Path.isAbsolute, Path.isAbsolute]
  split
  · rfl
  · rw [List.append_assoc]

/-- A path with further names leads on from the place of the path. -/
theorem placeOf_append (d : Disk) (p : Path) (names : List Text) :
    d.placeOf { p with names := p.names ++ names } = placeFrom (d.placeOf p) names := by
  rw [placeOf, placeOf, namesOf_append, placeFrom_append]

theorem eq_of_step {name : Text} (h : d.step l name = .ok k) :
    d.entryAt? l = some .directory ∧ k = placeFrom l [name] := by
  rw [step] at h
  split at h
  · next hl =>
    refine ⟨hl, ?_⟩
    rw [placeFrom, List.foldl_cons, List.foldl_nil]
    split at h
    · next hname => rw [if_pos hname, Except.ok.inj h]
    · next hname =>
      rw [if_neg hname]
      split at h
      · cases h
      · exact (Except.ok.inj h).symm
  · cases h

theorem walk_nil_eq_ok_iff : d.walk l [] = .ok k ↔ (d.entryAt? l).isSome = true ∧ k = l := by
  rw [walk]
  split
  · next hl => exact ⟨fun h => ⟨hl, (Except.ok.inj h).symm⟩, fun h => congrArg _ h.2.symm⟩
  · next hl => exact ⟨nofun, fun h => absurd h.1 hl⟩

/-- A walk that succeeds is a step and the walk from there. -/
theorem walk_cons_eq_ok_iff {name : Text} :
    d.walk l (name :: names) = .ok k ↔ ∃ next, d.step l name = .ok next ∧ d.walk next names = .ok k := by
  rw [walk]
  constructor
  · intro h
    split at h
    · split at h
      · next next hstep => exact ⟨next, hstep, h⟩
      · cases h
    · cases h
  · rintro ⟨next, hstep, h⟩
    rw [(eq_of_step hstep).1, Option.isSome_some, if_pos rfl, hstep]
    exact h

/-- A walk along further names goes on from the place to which the first ones lead. -/
theorem walk_append (d : Disk) (l : Location) (front more : List Text) :
    d.walk l (front ++ more) = d.walk l front >>= fun m => d.walk m more := by
  induction front generalizing l with
  | nil =>
    rw [List.nil_append, walk.eq_1 d l]
    split
    · rfl
    · next hl =>
      -- where nothing stands, there is no way on either
      cases more <;> rw [walk, if_neg hl] <;> rfl
  | cons name front ih =>
    rw [List.cons_append, walk, walk]
    split
    · split
      · exact ih _
      · rfl
    · rfl

/-- What stands on the way decides only whether a walk goes on. -/
theorem eq_placeFrom_of_walk (h : d.walk l names = .ok k) :
    k = placeFrom l names ∧ (d.entryAt? k).isSome := by
  induction names generalizing l with
  | nil =>
    obtain ⟨hsome, rfl⟩ := walk_nil_eq_ok_iff.1 h
    exact ⟨rfl, hsome⟩
  | cons name names ih =>
    obtain ⟨next, hstep, hrest⟩ := walk_cons_eq_ok_iff.1 h
    obtain ⟨hk, hsome⟩ := ih hrest
    refine ⟨?_, hsome⟩
    rw [hk, (eq_of_step hstep).2, ← placeFrom_append, List.singleton_append]

/-- A path that leads somewhere is walked along its names. -/
theorem walk_of_find (h : d.find p = .ok l) :
    tooLong p = false ∧ d.walk [] (d.namesOf p) = .ok l := by
  rw [find] at h
  split at h
  · cases h
  · next hlong => exact ⟨Bool.eq_false_iff.2 hlong, h⟩

/-- A path that leads somewhere leads to its place. -/
theorem eq_placeOf_of_find (h : d.find p = .ok l) : l = d.placeOf p :=
  (eq_placeFrom_of_walk (walk_of_find h).2).1

/-- Something can be written where a path leads when the walk comes to the last name of the path and
one step leads on from there. -/
theorem place_eq_ok_iff :
    d.place p = .ok l ↔
      tooLong p = false ∧ (d.namesOf p = [] ∧ l = [] ∨
        ∃ front last m, d.namesOf p = front ++ [last] ∧ d.walk [] front = .ok m ∧
          d.step m last = .ok l) := by
  rw [place]
  cases hlong : tooLong p with
  | true => exact ⟨nofun, fun h => nomatch h.1⟩
  | false =>
    rw [if_neg Bool.false_ne_true]
    rcases List.eq_nil_or_concat (d.namesOf p) with hnil | ⟨front, last, hfront⟩
    · rw [hnil]
      refine ⟨fun h => ⟨rfl, .inl ⟨rfl, (Except.ok.inj h).symm⟩⟩, ?_⟩
      rintro ⟨-, ⟨-, rfl⟩ | ⟨front, last, m, hnames, -⟩⟩
      · rfl
      · exact absurd hnames.symm (List.append_ne_nil_of_right_ne_nil _ (List.cons_ne_nil last []))
    · rw [List.concat_eq_append] at hfront
      rw [hfront, List.getLast?_concat]
      dsimp only
      rw [List.dropLast_concat, bind_eq_ok_iff]
      constructor
      · rintro ⟨m, hwalk, hstep⟩
        exact ⟨rfl, .inr ⟨front, last, m, rfl, hwalk, hstep⟩⟩
      · -- names that are there have a last one, and have it in one way only
        rintro ⟨-, ⟨hnil, -⟩ | ⟨front, last, m, hnames, hwalk, hstep⟩⟩
        · exact absurd hnil (List.append_ne_nil_of_right_ne_nil _ (List.cons_ne_nil last []))
        · obtain ⟨rfl, hlast⟩ := List.append_inj' hnames rfl
          obtain rfl := (List.cons.inj hlast).1
          exact ⟨m, hwalk, hstep⟩

/-- A path to which something can be written leads to its place. -/
theorem eq_placeOf_of_place (h : d.place p = .ok l) : l = d.placeOf p := by
  rw [placeOf]
  obtain ⟨-, ⟨hnames, rfl⟩ | ⟨front, last, m, hnames, hwalk, hstep⟩⟩ := place_eq_ok_iff.1 h
  · rw [hnames]
    rfl
  · rw [hnames, placeFrom_append, ← (eq_placeFrom_of_walk hwalk).1, (eq_of_step hstep).2]

/-- A walk along one more name is one step further. -/
theorem walk_concat {front : List Text} {name : Text} {m : Location} (h : d.walk l front = .ok k)
    (hstep : d.step k name = .ok m) :
    d.walk l (front ++ [name]) = if (d.entryAt? m).isSome then .ok m else .error .missing := by
  rw [walk_append, h]
  show d.walk k [name] = _
  rw [walk, (eq_of_step hstep).1, hstep]
  rfl

/-- A path to which something can be written leads somewhere when something stands there. -/
theorem find_of_place (h : d.place p = .ok l) :
    d.find p = if (d.entryAt? l).isSome then .ok l else .error .missing := by
  obtain ⟨hlong, hcases⟩ := place_eq_ok_iff.1 h
  rw [find, hlong, if_neg Bool.false_ne_true]
  rcases hcases with ⟨hnames, rfl⟩ | ⟨front, last, m, hnames, hwalk, hstep⟩
  · rw [hnames, walk]
  · rw [hnames]
    exact walk_concat hwalk hstep

/-! ## What files hold -/

/-- What the file at a place holds, if there is one. -/
def contentAt? (d : Disk) (l : Location) : Option Content :=
  match d.entryAt? l with
  | some (.file f) => some f.content
  | _ => none

theorem contentAt?_of_file {f : File} (h : d.entryAt? l = some (.file f)) :
    d.contentAt? l = some f.content := by
  rw [contentAt?, h]

theorem contentAt?_eq_some_iff {c : Content} :
    d.contentAt? l = some c ↔ ∃ f, d.entryAt? l = some (.file f) ∧ f.content = c := by
  constructor
  · intro h
    rw [contentAt?] at h
    split at h
    · next f hf => exact ⟨f, hf, Option.some.inj h⟩
    · cases h
  · rintro ⟨f, hf, rfl⟩
    exact contentAt?_of_file hf

theorem contentAt?_congr (h : e.entryAt? l = d.entryAt? l) : e.contentAt? l = d.contentAt? l := by
  rw [contentAt?, contentAt?, h]

/-- The file to which a path leads. -/
theorem file_eq_ok_iff {f : File} :
    d.file p = .ok f ↔
      hasNul p = false ∧ d.find p = .ok (d.placeOf p) ∧
        d.entryAt? (d.placeOf p) = some (.file f) := by
  rw [file]
  by_cases hnul : hasNul p = true
  · rw [if_pos hnul, hnul]
    exact ⟨fun h => (nomatch h), fun h => (nomatch h.1)⟩
  · rw [if_neg hnul, Bool.eq_false_iff.2 hnul]
    rcases hfind : d.find p with fault | l
    · exact ⟨fun h => (nomatch h), fun h => (nomatch h.2.1)⟩
    · obtain rfl := eq_placeOf_of_find hfind
      dsimp only
      rcases d.entryAt? (d.placeOf p) with _ | _ | g <;> simp

/-- What is read where a path leads. -/
theorem read_eq_ok_iff {t : Text} :
    d.read p = .ok t ↔
      hasNul p = false ∧ d.find p = .ok (d.placeOf p) ∧
        ∃ c, d.contentAt? (d.placeOf p) = some c ∧ readContent c = .ok t := by
  rw [read, bind_eq_ok_iff]
  constructor
  · rintro ⟨f, hf, ht⟩
    obtain ⟨hnul, hfind, hentry⟩ := file_eq_ok_iff.1 hf
    exact ⟨hnul, hfind, f.content, contentAt?_of_file hentry, ht⟩
  · rintro ⟨hnul, hfind, c, hc, ht⟩
    obtain ⟨f, hf, rfl⟩ := contentAt?_eq_some_iff.1 hc
    exact ⟨f, file_eq_ok_iff.2 ⟨hnul, hfind, hf⟩, ht⟩

theorem exists?_of_read {t : Text} (h : d.read p = .ok t) : d.exists? p = .ok true := by
  obtain ⟨f, hf, -⟩ := bind_eq_ok_iff.1 h
  obtain ⟨hnul, hfind, hentry⟩ := file_eq_ok_iff.1 hf
  rw [exists?, look, hnul, if_neg Bool.false_ne_true, hfind]
  dsimp only
  rw [hentry]
  rfl

/-! ## Growth -/

/-- Directories stay directories, and files stay files. -/
structure Grows (d e : Disk) : Prop where
  workingDirectory : e.workingDirectory = d.workingDirectory
  directory : ∀ l, d.entryAt? l = some .directory → e.entryAt? l = some .directory
  file : ∀ l, (d.contentAt? l).isSome → (e.contentAt? l).isSome

namespace Grows

theorem refl (d : Disk) : Grows d d := ⟨rfl, fun _ h => h, fun _ h => h⟩

theorem trans {c : Disk} (h : Grows c d) (g : Grows d e) : Grows c e :=
  ⟨g.workingDirectory.trans h.workingDirectory, fun l hl => g.directory l (h.directory l hl),
    fun l hl => g.file l (h.file l hl)⟩

theorem isSome_entryAt? (h : Grows d e) (hl : (d.entryAt? l).isSome) : (e.entryAt? l).isSome := by
  -- a file may hold something else later on, but it stays a file
  rcases hd : d.entryAt? l with _ | _ | f
  · rw [hd] at hl; cases hl
  · rw [h.directory l hd]; rfl
  · obtain ⟨c, hc⟩ := Option.isSome_iff_exists.1
      (h.file l (by rw [contentAt?_of_file hd]; rfl))
    obtain ⟨g, hg, -⟩ := contentAt?_eq_some_iff.1 hc
    rw [hg]
    rfl

theorem namesOf (h : Grows d e) (p : Path) : e.namesOf p = d.namesOf p := by
  rw [Disk.namesOf, Disk.namesOf, h.workingDirectory]

theorem placeOf (h : Grows d e) (p : Path) : e.placeOf p = d.placeOf p := by
  rw [Disk.placeOf, Disk.placeOf, h.namesOf]

theorem step {name : Text} (h : Grows d e) (hl : d.step l name = .ok k) :
    e.step l name = .ok k := by
  have hdir := (eq_of_step hl).1
  rw [Disk.step, if_pos hdir] at hl
  rw [Disk.step, if_pos (h.directory l hdir)]
  exact hl

theorem walk (h : Grows d e) (hl : d.walk l names = .ok k) : e.walk l names = .ok k := by
  induction names generalizing l with
  | nil =>
    rw [Disk.walk] at hl ⊢
    split at hl
    · next hsome => rw [if_pos (h.isSome_entryAt? hsome)]; exact hl
    · cases hl
  | cons name names ih =>
    rw [Disk.walk] at hl ⊢
    split at hl
    · next hsome =>
      rw [if_pos (h.isSome_entryAt? hsome)]
      split at hl
      · next next hstep => rw [h.step hstep]; exact ih hl
      · cases hl
    · cases hl

/-- A path leads where it led. -/
theorem find (h : Grows d e) (hl : d.find p = .ok l) : e.find p = .ok l := by
  rw [Disk.find] at hl ⊢
  split at hl
  · cases hl
  · next hlong => rw [if_neg hlong, h.namesOf]; exact h.walk hl

/-- What can be written to can still be written to. -/
theorem place (h : Grows d e) (hl : d.place p = .ok l) : e.place p = .ok l := by
  obtain ⟨hlong, hcases⟩ := place_eq_ok_iff.1 hl
  refine place_eq_ok_iff.2 ⟨hlong, ?_⟩
  rw [h.namesOf]
  rcases hcases with hroot | ⟨front, last, m, hnames, hwalk, hstep⟩
  · exact .inl hroot
  · exact .inr ⟨front, last, m, hnames, h.walk hwalk, h.step hstep⟩

/-- What a file holds is read as long as it is not changed. -/
theorem read {t : Text} (h : Grows d e)
    (hsame : e.contentAt? (d.placeOf p) = d.contentAt? (d.placeOf p)) (ht : d.read p = .ok t) :
    e.read p = .ok t := by
  obtain ⟨hnul, hfind, c, hc, hread⟩ := read_eq_ok_iff.1 ht
  refine read_eq_ok_iff.2 ⟨hnul, ?_, c, ?_, hread⟩
  · rw [h.placeOf]
    exact h.find hfind
  · rw [h.placeOf, hsame, hc]

end Grows

end Disk

end ComponentBook
