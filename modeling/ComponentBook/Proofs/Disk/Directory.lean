import Mathlib.Data.List.Nodup
import ComponentBook.Proofs.Disk.Listing
import ComponentBook.Proofs.Disk.Writing

/-! # The files of one directory

A directory that can be made is there once it has been made (**`isDirectory_of_makeDirectories`**), and
making it once more changes nothing (`makeDirectories_of_isDirectory`). A file with a fitting name
(**`FitsIn`**) is found in it exactly when something stands there (`find_extend`), it is read as what it
holds (**`read_extend_of_content`**), and writing it puts it there (**`write_extend`**). -/

namespace ComponentBook.Disk

variable {d e : Disk} {p : Path} {l k : Location} {f g : Text} {names more : List Text}

/-! ## Making a directory -/

/-- What stops a walk stops it also on the way to further names. -/
theorem walk_append_of_error {fault : Fault} (h : d.walk l names = .error fault) :
    d.walk l (names ++ more) = .error fault := by
  rw [walk_append, h]
  rfl

/-- A path that leads somewhere leads there also for a write. -/
theorem place_of_find (h : d.find p = .ok l) : d.place p = .ok l := by
  obtain ⟨hlong, hwhole⟩ := walk_of_find h
  refine place_eq_ok_iff.2 ⟨hlong, ?_⟩
  rcases List.eq_nil_or_concat (d.namesOf p) with hnil | ⟨front, last, hfront⟩
  · rw [hnil] at hwhole
    exact .inl ⟨hnil, (eq_placeFrom_of_walk hwhole).1⟩
  · rw [List.concat_eq_append] at hfront
    rw [hfront] at hwhole
    rw [walk_append] at hwhole
    obtain ⟨m, hwalk, hlast⟩ := bind_eq_ok_iff.1 hwhole
    obtain ⟨next, hstep, hend⟩ := walk_cons_eq_ok_iff.1 hlast
    obtain ⟨-, rfl⟩ := walk_nil_eq_ok_iff.1 hend
    exact .inr ⟨front, last, m, hfront, hwalk, hstep⟩

/-- Making a directory that is there changes nothing. -/
theorem makeDirectories_of_isDirectory (h : d.isDirectory p = .ok true) :
    d.makeDirectories p = (.ok (), d) := by
  obtain ⟨hnul, hfind, hentry⟩ := isDirectory_eq_ok_true_iff.1 h
  have htaken : d.makeDirectory p = .error .taken := by
    rw [makeDirectory, place_of_find hfind]
    dsimp only
    rw [hentry]
    rfl
  rw [makeDirectories, hnul, if_neg Bool.false_ne_true, htaken]
  dsimp only
  rw [settle, h]

theorem isDirectory_of_makeDirectory (hnul : hasNul p = false) (h : d.makeDirectory p = .ok e) :
    e.isDirectory p = .ok true := by
  obtain ⟨hplace, hnone, rfl⟩ := makeDirectory_eq_ok_iff.1 h
  have hne : d.placeOf p ≠ [] := ne_nil_of_entryAt? (d := d) (by rw [hnone]; exact (Option.some_ne_none _).symm)
  have hput : Rewrites none [] d (d.put (d.placeOf p) .directory) := rewrites_put_directory hnone
  have hgrows := hput.grows
  refine isDirectory_eq_ok_true_iff.2 ⟨hnul, ?_, ?_⟩
  · rw [hgrows.placeOf, find_put hplace hne hgrows]
  · rw [hgrows.placeOf, entryAt?_put d hne]

theorem isDirectory_of_settle {fault : Fault} (h : d.settle p fault = .ok ()) :
    d.isDirectory p = .ok true := by
  rw [settle] at h
  split at h
  · next hdir => exact hdir
  · cases h
  · cases h

/-- A directory that could be made is there. -/
theorem isDirectory_of_makeDirectories (h : d.makeDirectories p = (.ok (), e)) :
    e.isDirectory p = .ok true := by
  rw [makeDirectories] at h
  split at h
  · cases h
  · next hnul =>
    have hnul : hasNul p = false := Bool.eq_false_iff.2 hnul
    split at h
    · next made hmade =>
      obtain rfl := (Prod.mk.inj h).2
      exact isDirectory_of_makeDirectory hnul hmade
    · split at h
      · cases h
      · split at h
        · cases h
        · -- the directory could not be made at once, and its parent has been made first
          next after _ =>
          split at h
          · next made hmade =>
            obtain rfl := (Prod.mk.inj h).2
            exact isDirectory_of_makeDirectory hnul hmade
          · cases h
          · obtain ⟨hsettle, rfl⟩ := Prod.mk.inj h
            exact isDirectory_of_settle hsettle
    · obtain ⟨hsettle, rfl⟩ := Prod.mk.inj h
      exact isDirectory_of_settle hsettle

theorem find_eq_missing_of_place (h : d.place p = .error .missing) :
    d.find p = .error .missing := by
  rw [place] at h
  rw [find]
  split at h
  · cases h
  · next hlong =>
    rw [if_neg hlong]
    split at h
    · cases h
    · next last hlast =>
      obtain ⟨front, hfront⟩ := List.getLast?_eq_some_iff.1 hlast
      rw [hfront, List.dropLast_concat] at h
      rw [hfront]
      rcases hwalk : d.walk [] front with fault | m
      · rw [hwalk] at h
        obtain rfl := Except.error.inj h
        exact walk_append_of_error hwalk
      · -- one step on the way never says that something is missing
        rw [hwalk] at h
        have hstep : d.step m last = .error .missing := h
        rw [step] at hstep
        split at hstep
        · split at hstep
          · cases hstep
          · split at hstep <;> cases hstep
        · cases hstep

/-- A directory that can be made is there already, or nothing is. -/
theorem find_eq_missing_or_of_makeDirectories (h : d.makeDirectories p = (.ok (), e)) :
    d.find p = .error .missing ∨ d.isDirectory p = .ok true := by
  rw [makeDirectories] at h
  split at h
  · cases h
  · split at h
    · next made hmade =>
      obtain ⟨hplace, hnone, -⟩ := makeDirectory_eq_ok_iff.1 hmade
      left
      rw [find_of_place hplace, hnone, if_neg (by simp)]
    · next hmissing =>
      left
      rw [makeDirectory] at hmissing
      split at hmissing
      · next fault hplace =>
        obtain rfl := Except.error.inj hmissing
        exact find_eq_missing_of_place hplace
      · split at hmissing <;> cases hmissing
    · right
      exact isDirectory_of_settle (Prod.mk.inj h).1

/-! ## Files with fitting names -/

/-- A name that a file in a directory can have. -/
structure FitsIn (p : Path) (f : Text) : Prop where
  ne_parent : f ≠ ['.', '.']
  no_nul : '\x00' ∉ f
  short : f.utf8Length ≤ nameLimit
  path : tooLong (extend p [f]) = false

theorem hasNul_extend (hnul : hasNul p = false) (hf : FitsIn p f) :
    hasNul (extend p [f]) = false := by
  have hf : f.any (· = '\x00') = false := by
    rw [List.any_eq_false]
    intro c hc heq
    exact hf.no_nul (of_decide_eq_true heq ▸ hc)
  rw [hasNul] at hnul ⊢
  rw [extend, List.any_append, hnul, List.any_cons, hf]
  rfl

/-- What is not there cannot be read. -/
theorem read_of_missing (hnul : hasNul p = false) (hfind : d.find p = .error .missing) :
    d.read p = .error (.fault .missing p.text) := by
  rw [read, Disk.file, hnul, if_neg Bool.false_ne_true, hfind]
  rfl

/-- In a directory that is not there no file is found. -/
theorem find_extend_of_missing (hf : FitsIn p f) (hfind : d.find p = .error .missing) :
    d.find (extend p [f]) = .error .missing := by
  rw [find] at hfind ⊢
  rw [hf.path, if_neg Bool.false_ne_true]
  rw [tooLong_of_extend hf.path, if_neg Bool.false_ne_true] at hfind
  rw [extend, namesOf_append]
  exact walk_append_of_error hfind

section

variable (hdir : d.isDirectory p = .ok true) (hf : FitsIn p f)

include hdir hf

/-- A file with a fitting name can be written in a directory. -/
theorem place_extend : d.place (extend p [f]) = .ok (d.placeOf p ++ [f]) := by
  obtain ⟨-, hfind, hentry⟩ := isDirectory_eq_ok_true_iff.1 hdir
  have hwalk := (walk_of_find hfind).2
  have hstep : d.step (d.placeOf p) f = .ok (d.placeOf p ++ [f]) := by
    rw [step, if_pos hentry, if_neg hf.ne_parent, if_neg (Nat.not_lt.2 hf.short)]
  exact place_eq_ok_iff.2 ⟨hf.path, .inr ⟨_, f, _, namesOf_append d p [f], hwalk, hstep⟩⟩

/-- A file with a fitting name is found in a directory when something stands there. -/
theorem find_extend : d.find (extend p [f]) =
    if (d.entryAt? (d.placeOf p ++ [f])).isSome then .ok (d.placeOf p ++ [f])
    else .error .missing :=
  find_of_place (place_extend hdir hf)

/-- A file is read as what it holds. -/
theorem read_extend_of_content {c : Content}
    (hc : d.contentAt? (d.placeOf p ++ [f]) = some c) :
    d.read (extend p [f]) = readContent c := by
  obtain ⟨file, hentry, rfl⟩ := contentAt?_eq_some_iff.1 hc
  obtain ⟨hnul, -, -⟩ := isDirectory_eq_ok_true_iff.1 hdir
  rw [read, Disk.file, hasNul_extend hnul hf, if_neg Bool.false_ne_true, find_extend hdir hf, hentry,
    Option.isSome_some, if_pos rfl]
  dsimp only
  rw [hentry]
  rfl

/-- A file that is not there is missing. -/
theorem read_extend_of_none (hnone : d.entryAt? (d.placeOf p ++ [f]) = none) :
    d.read (extend p [f]) = .error (.fault .missing (extend p [f]).text) := by
  obtain ⟨hnul, -, -⟩ := isDirectory_eq_ok_true_iff.1 hdir
  refine read_of_missing (hasNul_extend hnul hf) ?_
  rw [find_extend hdir hf, hnone]
  rfl

/-- A text that is written to a file of a directory is put there. -/
theorem write_extend (hfree : d.entryAt? (d.placeOf p ++ [f]) ≠ some .directory) (t : Text) :
    d.write (extend p [f]) t = .ok { d.put (d.placeOf p ++ [f])
      (.file { content := .text t, modified := d.clock }) with clock := d.clock + 1 } := by
  obtain ⟨hnul, -, -⟩ := isDirectory_eq_ok_true_iff.1 hdir
  rw [write, store, hasNul_extend hnul hf, if_neg Bool.false_ne_true, place_extend hdir hf]
  dsimp only
  rw [if_neg hfree]
  rfl

end

/-! ## Directories of files -/

/-- What the file with a name holds that stands in a directory, if there is one. -/
def heldIn? (d : Disk) (p : Path) (f : Text) : Option Content := d.contentAt? (d.placeOf p ++ [f])

/-- A directory in which there are files only, and nothing stands in it twice. -/
structure HoldsFiles (d : Disk) (p : Path) : Prop where
  isDirectory : d.isDirectory p = .ok true
  files : ∀ f, d.entryAt? (d.placeOf p ++ [f]) ≠ some .directory
  nodup : (d.namesBelow p).Nodup

theorem entryAt?_eq_none_of_contentAt? (hfile : d.entryAt? l ≠ some .directory)
    (h : d.contentAt? l = none) : d.entryAt? l = none := by
  rcases hentry : d.entryAt? l with _ | _ | file
  · rfl
  · exact absurd hentry hfile
  · rw [contentAt?_of_file hentry] at h
    cases h

/-- An empty directory holds no files. -/
theorem holdsFiles_of_namesBelow (hdir : d.isDirectory p = .ok true)
    (h : d.namesBelow p = []) : HoldsFiles d p ∧ ∀ f, d.heldIn? p f = none := by
  obtain ⟨-, hfind, -⟩ := isDirectory_eq_ok_true_iff.1 hdir
  have hnone (f : Text) : d.entryAt? (d.placeOf p ++ [f]) = none := by
    by_contra hsome
    have hmem := mem_namesBelow_of_entryAt? (List.cons_ne_nil f []) hfind
      (Option.isSome_iff_ne_none.2 hsome)
    rw [h] at hmem
    cases hmem
  refine ⟨⟨hdir, fun f => ?_, ?_⟩, fun f => ?_⟩
  · rw [hnone f]
    exact nofun
  · rw [h]
    exact List.nodup_nil
  · rw [heldIn?, contentAt?, hnone f]

/-- A disk with what another one has after a file has been put in a directory. -/
structure PutsFile (p : Path) (f : Text) (content : Content) (d e : Disk) : Prop where
  grows : Grows d e
  free : d.entryAt? (d.placeOf p ++ [f]) ≠ some .directory
  entries : ∃ modified, e.entries =
    (d.put (d.placeOf p ++ [f]) (.file { content, modified })).entries

namespace PutsFile

variable {content : Content}

theorem of_write {t : Text} (hf : f ≠ ['.', '.']) (h : d.write (extend p [f]) t = .ok e) :
    PutsFile p f (.text t) d e := by
  obtain ⟨made, hstore, rfl⟩ := map_eq_ok_iff.1 h
  obtain ⟨-, -, hfree, rfl⟩ := eq_put_of_store hstore
  have hgrows := (grows_put_file hfree { content := .text t, modified := d.clock }).trans
    (grows_setClock _ (d.clock + 1))
  rw [placeOf_extend_singleton d p hf] at hfree hgrows ⊢
  exact ⟨hgrows, hfree, d.clock, rfl⟩

theorem entryAt? (h : PutsFile p f content d e) (g : Text) :
    ∃ modified, e.entryAt? (d.placeOf p ++ [g]) =
      if g = f then some (.file { content, modified }) else d.entryAt? (d.placeOf p ++ [g]) := by
  obtain ⟨modified, hentries⟩ := h.entries
  refine ⟨modified, ?_⟩
  have hsame : e.entryAt? (d.placeOf p ++ [g]) =
      (d.put (d.placeOf p ++ [f]) (.file { content, modified })).entryAt? (d.placeOf p ++ [g]) := by
    rw [Disk.entryAt?, hentries]
    rfl
  rw [hsame]
  by_cases hg : g = f
  · rw [if_pos hg, hg, entryAt?_put d (ne_nil_of_entryAt? h.free)]
  · have hother : d.placeOf p ++ [g] ≠ d.placeOf p ++ [f] := by simpa using hg
    rw [if_neg hg, entryAt?_put_of_ne d hother]

/-- The file holds what has been put there, and every other file holds what it held. -/
theorem heldIn? (h : PutsFile p f content d e) (g : Text) :
    e.heldIn? p g = if g = f then some content else d.heldIn? p g := by
  obtain ⟨modified, hentry⟩ := h.entryAt? g
  rw [Disk.heldIn?, Disk.heldIn?, h.grows.placeOf]
  by_cases hg : g = f
  · rw [if_pos hg] at hentry ⊢
    exact contentAt?_of_file hentry
  · rw [if_neg hg] at hentry ⊢
    exact contentAt?_congr hentry

/-- What stands below the directory is listed once when it was listed once before. -/
theorem nodup_namesBelow (h : PutsFile p f content d e) (hfind : d.find p = .ok (d.placeOf p))
    (hnodup : (d.namesBelow p).Nodup) : (e.namesBelow p).Nodup := by
  obtain ⟨modified, hentries⟩ := h.entries
  rw [namesBelow, hfind] at hnodup
  rw [namesBelow, h.grows.find hfind, hentries]
  dsimp only [put] at hnodup ⊢
  generalize d.placeOf p = l at *
  have hself : l.isPrefixOf (l ++ [f]) = true ∧ l ++ [f] ≠ l :=
    ⟨List.isPrefixOf_iff_prefix.2 (List.prefix_append _ _), by simp⟩
  rw [List.filterMap_cons, if_pos hself]
  refine List.nodup_cons.2 ⟨fun hmem => ?_, ?_⟩
  · -- whatever else is listed stands at another place
    obtain ⟨other, hother, hname⟩ := List.mem_filterMap.1 hmem
    have hne : other.1 ≠ l ++ [f] := by simpa using (List.mem_filter.1 hother).2
    split at hname
    · next hbelow =>
      obtain ⟨rest, hrest⟩ := List.isPrefixOf_iff_prefix.1 hbelow.1
      rw [← hrest, List.drop_left, List.drop_left] at hname
      exact hne (by rw [← hrest, Option.some.inj hname])
    · cases hname
  · have hsublist : (d.entries.filter (·.1 != l ++ [f])).Sublist d.entries := List.filter_sublist
    exact (hsublist.filterMap _).nodup hnodup

end PutsFile

namespace HoldsFiles

/-- A directory of files is still one after a file has been put in it. -/
theorem put {content : Content} (h : HoldsFiles d p) (hput : PutsFile p f content d e) :
    HoldsFiles e p := by
  obtain ⟨-, hfind, -⟩ := isDirectory_eq_ok_true_iff.1 h.isDirectory
  refine ⟨hput.grows.isDirectory h.isDirectory, fun g => ?_, hput.nodup_namesBelow hfind h.nodup⟩
  obtain ⟨modified, hg⟩ := hput.entryAt? g
  rw [hput.grows.placeOf, hg]
  split
  · exact nofun
  · exact h.files g

/-- A file with a fitting name can be written in a directory of files. -/
theorem exists_write (h : HoldsFiles d p) (hf : FitsIn p f) (t : Text) :
    ∃ e, d.write (extend p [f]) t = .ok e := ⟨_, write_extend h.isDirectory hf (h.files f) t⟩

/-- A file is there when it holds something. -/
theorem isFileAt_iff (h : HoldsFiles d p) (hf : FitsIn p f) :
    d.isFileAt (extend p [f]) = true ↔ (d.heldIn? p f).isSome := by
  rw [Disk.isFileAt_iff, placeOf_extend_singleton d p hf.ne_parent, heldIn?,
    find_extend h.isDirectory hf]
  constructor
  · exact fun hfile => hfile.2
  · intro hsome
    obtain ⟨c, hc⟩ := Option.isSome_iff_exists.1 hsome
    obtain ⟨file, hentry, -⟩ := contentAt?_eq_some_iff.1 hc
    rw [hentry]
    exact ⟨rfl, hsome⟩

end HoldsFiles

/-! ## Listing a directory of files -/

theorem extend_singleton_inj {f g : Text} (h : extend p [f] = extend p [g]) : f = g :=
  (List.cons.inj (List.append_cancel_left (congrArg Path.names h))).1

/-- A pattern for names stands for no path twice. -/
theorem nodup_select_name {pattern : NamePattern} (h : (d.namesBelow p).Nodup) :
    (d.select [.name pattern] p).Nodup := by
  have hselect (reached : List Path) : reached.flatMap (d.select []) = reached :=
    List.flatMap_singleton' reached
  rw [select, List.isEmpty_nil, if_pos rfl, hselect]
  refine List.Nodup.filterMap (fun names names' q hq hq' => ?_) h
  split at hq
  · next name =>
    split at hq'
    · next name' =>
      rw [Option.mem_ite_none_right, Option.mem_some] at hq hq'
      rw [extend_singleton_inj (hq.2.trans hq'.2.symm)]
    · cases hq'
  · cases hq

end ComponentBook.Disk
