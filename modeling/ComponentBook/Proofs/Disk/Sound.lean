import ComponentBook.Proofs.Disk.Directory

/-! # Sound disks

A disk is **`Sound`** when nothing stands twice on it and everything stands in a directory. Whatever is
written, it stays so (`Sound.append`, `Sound.writeWithDirectories`). On a sound disk a directory in which
something stands is found by every path without `..` that leads to its place
(**`Sound.isDirectory_of_isSome`**), and a directory lists nothing twice
(**`Sound.nodup_namesBelow`**). -/

namespace ComponentBook.Disk

variable {d e : Disk} {p : Path} {l m : Location} {f : Text} {names : List Text}

/-- Nothing stands twice on the disk, and everything stands in a directory. -/
structure Sound (d : Disk) : Prop where
  nodup : (d.entries.map Prod.fst).Nodup
  inside : ∀ l name, (d.entryAt? (l ++ [name])).isSome → d.entryAt? l = some .directory

/-- A disk is sound when every entry stands in a directory, and none at the place of another. -/
theorem sound_of_forall (hnodup : (d.entries.map Prod.fst).Nodup)
    (h : ∀ k ∈ d.entries.map Prod.fst, d.entryAt? k.dropLast = some .directory) : Sound d := by
  refine ⟨hnodup, fun l name hsome => ?_⟩
  obtain ⟨entry, hentry⟩ := Option.isSome_iff_exists.1 hsome
  rw [entryAt?, if_neg (List.append_ne_nil_of_right_ne_nil _ (List.cons_ne_nil name []))] at hentry
  obtain ⟨front, rest, hentries, -⟩ := List.lookup_eq_some_iff.1 hentry
  have hmem : l ++ [name] ∈ d.entries.map Prod.fst := by
    rw [hentries]
    simp
  have hparent := h _ hmem
  rwa [List.dropLast_concat] at hparent

namespace Sound

/-! ## What is written -/

/-- A disk stays sound when something is put in a directory, not in the place of a directory. -/
theorem put (h : Sound d) (hparent : d.entryAt? m = some .directory)
    (hfree : d.entryAt? (m ++ [f]) ≠ some .directory) (entry : Entry) :
    Sound (d.put (m ++ [f]) entry) := by
  constructor
  · rw [Disk.put, List.map_cons, List.nodup_cons]
    constructor
    · intro hmem
      obtain ⟨other, hother, hplace⟩ := List.mem_map.1 hmem
      have hne : other.1 ≠ m ++ [f] := by simpa using (List.mem_filter.1 hother).2
      exact hne hplace
    · exact (List.filter_sublist.map Prod.fst).nodup h.nodup
  · intro l name hname
    -- what stands there is what has been put, or it stood there before
    by_cases hput : l ++ [name] = m ++ [f]
    · obtain ⟨rfl, -⟩ := List.append_inj' hput rfl
      have hne : l ≠ l ++ [f] := by simp
      rw [entryAt?_put_of_ne d hne, hparent]
    · rw [entryAt?_put_of_ne d hput] at hname
      have hl := h.inside l name hname
      -- what is put does not take the place of a directory
      have hne : l ≠ m ++ [f] := by
        rintro rfl
        exact hfree hl
      rw [entryAt?_put_of_ne d hne, hl]

/-- A place to which something can be written is in a directory. -/
theorem exists_parent (h : Sound d) (hplace : d.place p = .ok l)
    (hfree : d.entryAt? l ≠ some .directory) :
    ∃ m name, l = m ++ [name] ∧ d.entryAt? m = some .directory := by
  have hroot : d.entryAt? [] = some .directory := by rw [entryAt?, if_pos rfl]
  obtain ⟨-, ⟨-, rfl⟩ | ⟨front, last, m, -, -, hstep⟩⟩ := place_eq_ok_iff.1 hplace
  · exact absurd hroot hfree
  · obtain ⟨hm, hl⟩ := eq_of_step hstep
    rw [placeFrom, List.foldl_cons, List.foldl_nil] at hl
    split at hl
    · -- one step back leads to a directory
      exfalso
      rw [hl] at hfree
      rcases List.eq_nil_or_concat m with rfl | ⟨k, name, hk⟩
      · exact hfree hroot
      · rw [List.concat_eq_append] at hk
        rw [hk, List.dropLast_concat] at hfree
        rw [hk] at hm
        exact hfree (h.inside k name (by rw [hm]; rfl))
    · exact ⟨m, last, hl, hm⟩

theorem setClock (h : Sound d) (clock : Int) : Sound { d with clock } := ⟨h.nodup, h.inside⟩

theorem store {file : File} (h : Sound d) (hstore : d.store p file = .ok e) : Sound e := by
  obtain ⟨-, hplace, hfree, rfl⟩ := eq_put_of_store hstore
  obtain ⟨m, name, hl, hm⟩ := h.exists_parent hplace hfree
  rw [hl] at hfree ⊢
  exact h.put hm hfree _

theorem write {t : Text} (h : Sound d) (hwrite : d.write p t = .ok e) : Sound e := by
  obtain ⟨e, hstore, rfl⟩ := map_eq_ok_iff.1 hwrite
  exact (h.store hstore).setClock _

theorem append {t : Text} (h : Sound d) (happend : d.append p t = .ok e) : Sound e := by
  obtain ⟨e, hstore, rfl⟩ := map_eq_ok_iff.1 happend
  exact (h.store hstore).setClock _

theorem makeDirectory (h : Sound d) (hmake : d.makeDirectory p = .ok e) : Sound e := by
  rw [Disk.makeDirectory] at hmake
  split at hmake
  · cases hmake
  · next l hplace =>
    split at hmake
    · cases hmake
    · next hnone =>
      obtain rfl := Except.ok.inj hmake
      have hfree : d.entryAt? l ≠ some .directory := by
        rw [Option.not_isSome_iff_eq_none.1 hnone]
        exact (Option.some_ne_none _).symm
      obtain ⟨m, name, rfl, hm⟩ := h.exists_parent hplace hfree
      exact h.put hm hfree _

theorem makeDirectories (h : Sound d) (p : Path) : Sound (d.makeDirectories p).2 :=
  makeDirectories_induct (fun _ _ _ _ h hmake => h.makeDirectory hmake) d p h

/-- A text that is written leaves a disk sound, and so does one that cannot be written. -/
theorem writeWithDirectories (h : Sound d) (p : Path) (t : Text) :
    Sound (d.writeWithDirectories p t).2 := by
  have hmade := h.makeDirectories p.parent
  rw [Disk.writeWithDirectories]
  rcases hrun : d.makeDirectories p.parent with ⟨_ | _, c⟩
  · rw [hrun] at hmade
    exact hmade
  · rw [hrun] at hmade
    dsimp only at hmade ⊢
    split
    · next after hwrite => exact hmade.write hwrite
    · exact hmade

/-! ## What is found -/

/-- Everything on the way to what stands somewhere is a directory. -/
theorem entryAt?_of_isSome_append (h : Sound d) {names : List Text} (hne : names ≠ [])
    (hsome : (d.entryAt? (l ++ names)).isSome) : d.entryAt? l = some .directory := by
  -- from the last name back
  induction names using List.reverseRecOn with
  | nil => exact absurd rfl hne
  | append_singleton names name ih =>
    rw [← List.append_assoc] at hsome
    have hparent := h.inside _ _ hsome
    cases names with
    | nil => rwa [List.append_nil] at hparent
    | cons n names => exact ih (List.cons_ne_nil n names) (by rw [hparent]; rfl)

end Sound

theorem placeFrom_of_not_mem (h : ['.', '.'] ∉ names) : placeFrom l names = l ++ names := by
  induction names generalizing l with
  | nil => rw [List.append_nil]; rfl
  | cons name names ih =>
    rw [List.mem_cons, not_or] at h
    rw [placeFrom, List.foldl_cons, if_neg (Ne.symm h.1), ← placeFrom, ih h.2, List.append_assoc]
    rfl

/-- A step from a directory is the same whatever else there is. -/
theorem step_congr (hd : d.entryAt? l = some .directory) (he : e.entryAt? l = some .directory) :
    d.step l f = e.step l f := by
  rw [step, step, hd, he]

/-- A walk that succeeds on one disk succeeds on another one that has directories on the way and something
at its end. -/
theorem walk_of_walk (h : d.walk l names = .ok m)
    (hway : ∀ front, front <+: names → front ≠ names →
      e.entryAt? (placeFrom l front) = some .directory)
    (hend : (e.entryAt? (placeFrom l names)).isSome) : e.walk l names = .ok m := by
  induction names generalizing l with
  | nil =>
    obtain ⟨-, rfl⟩ := walk_nil_eq_ok_iff.1 h
    exact walk_nil_eq_ok_iff.2 ⟨hend, rfl⟩
  | cons name names ih =>
    have hl : e.entryAt? l = some .directory :=
      hway [] List.nil_prefix (List.cons_ne_nil name names).symm
    obtain ⟨next, hstep, hrest⟩ := walk_cons_eq_ok_iff.1 h
    obtain ⟨hdir, rfl⟩ := eq_of_step hstep
    refine walk_cons_eq_ok_iff.2 ⟨_, (step_congr hl hdir).trans hstep, ?_⟩
    -- the rest of the way starts one name further on
    refine ih hrest (fun front hfront hne => ?_) ?_
    · have hplace := hway (name :: front) ((List.prefix_cons_inj name).2 hfront) (by simpa using hne)
      rwa [← placeFrom_append]
    · rwa [← placeFrom_append]

/-- A walk without `..` that succeeds on a disk succeeds on another one, if there is a directory at its
end and the disk is sound. -/
theorem Sound.walk (h : Sound d) (hstraight : ['.', '.'] ∉ names) (hwalk : e.walk l names = .ok m)
    (hdir : d.entryAt? (l ++ names) = some .directory) : d.walk l names = .ok (l ++ names) := by
  rw [← placeFrom_of_not_mem hstraight, ← (eq_placeFrom_of_walk hwalk).1]
  refine walk_of_walk hwalk (fun front hfront hne => ?_) ?_
  · obtain ⟨rest, rfl⟩ := hfront
    rw [List.mem_append, not_or] at hstraight
    rw [placeFrom_of_not_mem hstraight.1]
    have hrest : rest ≠ [] := by
      rintro rfl
      exact hne (List.append_nil front).symm
    rw [← List.append_assoc] at hdir
    exact h.entryAt?_of_isSome_append hrest (by rw [hdir]; rfl)
  · rw [placeFrom_of_not_mem hstraight, hdir]
    rfl

/-- A directory in which something stands is found by a path without `..`, if the path leads to it once
the disk has grown. -/
theorem Sound.isDirectory_of_isSome (h : Sound d) (hgrows : Grows d e)
    (hstraight : ['.', '.'] ∉ d.namesOf p) (he : e.isDirectory p = .ok true)
    (hsome : (d.entryAt? (d.placeOf p ++ [f])).isSome) : d.isDirectory p = .ok true := by
  have hdir := h.inside _ _ hsome
  have hplace : d.placeOf p = d.namesOf p := by
    rw [placeOf, placeFrom_of_not_mem hstraight, List.nil_append]
  obtain ⟨hnul, hfind, -⟩ := isDirectory_eq_ok_true_iff.1 he
  refine isDirectory_eq_ok_true_iff.2 ⟨hnul, ?_, hdir⟩
  obtain ⟨hlong, hwalk⟩ := walk_of_find hfind
  rw [hgrows.namesOf] at hwalk
  rw [hplace] at hdir ⊢
  rw [find, hlong, if_neg Bool.false_ne_true]
  exact h.walk hstraight hwalk hdir

/-- A file in a directory is found where it is found once the disk has grown. -/
theorem Grows.find_extend (hgrows : Grows d e) (hdir : d.isDirectory p = .ok true)
    (hfind : e.find (extend p [f]) = .ok l) (hsome : (d.entryAt? l).isSome) :
    d.find (extend p [f]) = .ok l := by
  obtain ⟨-, hdirfind, hentry⟩ := isDirectory_eq_ok_true_iff.1 hdir
  have hplace : d.place (extend p [f]) = .ok l := by
    obtain ⟨hlong, ⟨hnil, -⟩ | ⟨front, last, m, hnames, hwalk, hstep⟩⟩ :=
      place_eq_ok_iff.1 (place_of_find hfind)
    · rw [extend, namesOf_append] at hnil
      exact absurd hnil (List.append_ne_nil_of_right_ne_nil _ (List.cons_ne_nil f []))
    · rw [extend, namesOf_append] at hnames
      obtain ⟨hfront, hlast⟩ := List.append_inj' hnames rfl
      obtain rfl := (List.cons.inj hlast).1
      have hdirwalk := (walk_of_find hdirfind).2
      have hm : m = d.placeOf p := by
        rw [← hfront, hgrows.namesOf, hgrows.walk hdirwalk] at hwalk
        exact (Except.ok.inj hwalk).symm
      rw [hm] at hstep
      refine place_eq_ok_iff.2 ⟨hlong, .inr ⟨_, f, _, namesOf_append d p [f], hdirwalk, ?_⟩⟩
      rw [step_congr hentry (hgrows.directory _ hentry), hstep]
  rw [find_of_place hplace, if_pos hsome]

/-- On a sound disk nothing is listed twice. -/
theorem Sound.nodup_namesBelow (h : Sound d) (p : Path) : (d.namesBelow p).Nodup := by
  rw [namesBelow]
  split
  · next l hfind =>
    have hplaces : (d.entries.filterMap fun entry =>
        if l.isPrefixOf entry.1 ∧ entry.1 ≠ l then some (entry.1.drop l.length) else none) =
        (d.entries.map Prod.fst).filterMap fun k =>
          if l.isPrefixOf k ∧ k ≠ l then some (k.drop l.length) else none := by
      rw [List.filterMap_map]
      rfl
    rw [hplaces]
    refine List.Nodup.filterMap (fun k k' names hk hk' => ?_) h.nodup
    rw [Option.mem_ite_none_right, Option.mem_some] at hk hk'
    obtain ⟨rest, rfl⟩ := List.isPrefixOf_iff_prefix.1 hk.1.1
    obtain ⟨rest', rfl⟩ := List.isPrefixOf_iff_prefix.1 hk'.1.1
    have hrest := hk.2.trans hk'.2.symm
    rw [List.drop_left, List.drop_left] at hrest
    rw [hrest]
  · exact List.nodup_nil

end ComponentBook.Disk
