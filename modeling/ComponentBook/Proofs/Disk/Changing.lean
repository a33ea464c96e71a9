import ComponentBook.Disk.Change
import ComponentBook.Proofs.Disk.Selecting

/-! # Disks that others change

A disk is **`Regular`** when it is sound and its names can stand in a path; whatever is done to it, it stays
so (`Regular.changes`). A file that is there after some changes was written by one of them, and has the time
of one of them, or nothing was written at its place and it was there before (**`file_of_changes`**). Changes
are **`Fresh`** when no two of them, and no file that is there already, share a time. -/

namespace ComponentBook.Disk

variable {d e : Disk} {p : Path} {l k : Location} {f : File} {names : List Text} {c : Change}
  {cs more : List Change}

/-! ## What stands where -/

theorem mem_entries_of_entryAt? {entry : Entry} (hl : l ≠ []) (h : d.entryAt? l = some entry) :
    (l, entry) ∈ d.entries := by
  rw [entryAt?, if_neg hl] at h
  obtain ⟨before, after, hentries, -⟩ := List.lookup_eq_some_iff.1 h
  rw [hentries]
  exact List.mem_append_right _ List.mem_cons_self

/-- A list searched for what a condition leaves in it. -/
theorem lookup_filter_key (holds : Location → Bool) (es : List (Location × Entry)) :
    (es.filter fun entry => holds entry.1).lookup k = if holds k then es.lookup k else none := by
  induction es with
  | nil => rw [List.filter_nil, List.lookup_nil, ite_self]
  | cons entry es ih =>
    rw [List.filter_cons]
    by_cases hkey : k = entry.1
    · subst hkey
      split
      · rw [List.lookup_cons_self, List.lookup_cons_self]
      · next hk => rw [ih, if_neg hk]
    · have hne : (k == entry.1) = false := by simpa using hkey
      have hskip : (entry :: es).lookup k = es.lookup k := by rw [List.lookup_cons, hne]
      rw [hskip, ← ih]
      split
      · rw [List.lookup_cons, hne]
      · rfl

/-- What stands somewhere once the place `l` has been taken away with everything below it. -/
theorem entryAt?_remove (hfind : d.find p = .ok l) (hk : k ≠ []) :
    (d.remove p).entryAt? k = if l <+: k then none else d.entryAt? k := by
  rw [remove, hfind, entryAt?, entryAt?, if_neg hk, if_neg hk]
  dsimp only
  rw [lookup_filter_key fun m => !l.isPrefixOf m]
  by_cases hbelow : l <+: k
  · rw [if_pos hbelow, List.isPrefixOf_iff_prefix.2 hbelow]
    rfl
  · rw [if_neg hbelow, Bool.eq_false_iff.2 (mt List.isPrefixOf_iff_prefix.1 hbelow)]
    rfl

theorem Sound.remove (h : Sound d) (p : Path) : Sound (d.remove p) := by
  rcases hfind : d.find p with fault | l
  · rwa [Disk.remove, hfind]
  · constructor
    · rw [Disk.remove, hfind]
      exact (List.filter_sublist.map Prod.fst).nodup h.nodup
    · intro m name hname
      have hne : m ++ [name] ≠ [] := List.append_ne_nil_of_right_ne_nil _ (List.cons_ne_nil name [])
      rw [entryAt?_remove hfind hne] at hname
      split at hname
      · cases hname
      · next hkept =>
        have hm := h.inside m name hname
        by_cases hroot : m = []
        · rw [entryAt?, if_pos hroot]
        · -- what is above something that is left is left as well
          have hparent : ¬ l <+: m := fun hbelow => hkept (hbelow.trans (List.prefix_append m [name]))
          rw [entryAt?_remove hfind hroot, if_neg hparent, hm]

/-! ## Regular disks -/

/-- A name that a file can have. -/
def IsFileName (name : Text) : Prop := name ≠ ['.', '.'] ∧ '\x00' ∉ name

instance (name : Text) : Decidable (IsFileName name) := inferInstanceAs (Decidable (_ ∧ _))

/-- Everything on the disk stands in a directory, once, and has names that files can have. -/
structure Regular (d : Disk) : Prop where
  sound : Sound d
  names : ∀ entry ∈ d.entries, ∀ name ∈ entry.1, IsFileName name
  workingDirectory : ∀ name ∈ d.workingDirectory, IsFileName name

theorem mem_placeFrom {name : Text} (h : name ∈ placeFrom l names) :
    name ∈ l ∨ name ∈ names ∧ name ≠ ['.', '.'] := by
  induction names generalizing l with
  | nil => exact .inl h
  | cons n names ih =>
    rw [placeFrom, List.foldl_cons, ← placeFrom] at h
    rcases ih h with hmem | ⟨hmem, hne⟩
    · split at hmem
      · exact .inl (List.dropLast_subset l hmem)
      · next hn =>
        rcases List.mem_append.1 hmem with hmem | hmem
        · exact .inl hmem
        · obtain rfl := List.mem_singleton.1 hmem
          exact .inr ⟨List.mem_cons_self, hn⟩
    · exact .inr ⟨List.mem_cons_of_mem n hmem, hne⟩

theorem nul_not_mem_of_hasNul {name : Text} (h : hasNul p = false) (hname : name ∈ p.names) :
    '\x00' ∉ name := by
  intro hnul
  have hany : hasNul p = true :=
    List.any_eq_true.2 ⟨name, hname, List.any_eq_true.2 ⟨_, hnul, decide_eq_true rfl⟩⟩
  rw [h] at hany
  cases hany

namespace Regular

theorem namesForward (h : Regular d) : d.NamesForward :=
  fun entry hentry hmem => (h.names entry hentry _ hmem).1 rfl

/-- A path leads to names that files can have. -/
theorem isFileName_of_mem_placeOf (h : Regular d) (hnul : hasNul p = false) :
    ∀ name ∈ d.placeOf p, IsFileName name := by
  intro name hname
  rcases mem_placeFrom hname with hmem | ⟨hmem, hne⟩
  · cases hmem
  · rw [namesOf] at hmem
    split at hmem
    · exact ⟨hne, nul_not_mem_of_hasNul hnul hmem⟩
    · rcases List.mem_append.1 hmem with hmem | hmem
      · exact h.workingDirectory name hmem
      · exact ⟨hne, nul_not_mem_of_hasNul hnul hmem⟩

theorem put {entry : Entry} (h : Regular d) (hnul : hasNul p = false)
    (hsound : Sound (d.put (d.placeOf p) entry)) : Regular (d.put (d.placeOf p) entry) := by
  refine ⟨hsound, fun other hother => ?_, h.workingDirectory⟩
  rcases List.mem_cons.1 hother with rfl | hother
  · exact h.isFileName_of_mem_placeOf hnul
  · exact h.names other (List.mem_filter.1 hother).1

theorem store (h : Regular d) (hstore : d.store p f = .ok e) : Regular e := by
  obtain ⟨hnul, -, -, rfl⟩ := eq_put_of_store hstore
  exact h.put hnul (h.sound.store hstore)

theorem makeDirectories (h : Regular d) (p : Path) : Regular (d.makeDirectories p).2 := by
  refine makeDirectories_induct (fun d e p hnul h hmake => ?_) d p h
  have hsound := h.sound.makeDirectory hmake
  obtain ⟨-, rfl⟩ := (makeDirectory_eq_ok_iff.1 hmake).2
  exact h.put hnul hsound

theorem remove (h : Regular d) (p : Path) : Regular (d.remove p) := by
  have hsound := h.sound.remove p
  rw [Disk.remove] at hsound ⊢
  split
  · next hfind =>
    rw [hfind] at hsound
    exact ⟨hsound, fun entry hentry => h.names entry (List.mem_filter.1 hentry).1,
      h.workingDirectory⟩
  · exact h

/-- Whatever is done to a regular disk, it stays regular. -/
theorem change (h : Regular d) (c : Change) : Regular (d.change c) := by
  cases c with
  | write path content modified =>
    have hmade := h.makeDirectories path.parent
    rw [Disk.change]
    split
    · next hstore => exact hmade.store hstore
    · exact hmade
  | makeDirectory path => exact h.makeDirectories path
  | remove path => exact h.remove path

theorem changes (h : Regular d) (cs : List Change) : Regular (d.changes cs) := by
  induction cs generalizing d with
  | nil => exact h
  | cons c cs ih => exact ih (h.change c)

/-- A file below a path has a name that can be asked for. -/
theorem hasNul_extend (h : Regular d) (hnul : hasNul p = false) (hstraight : ['.', '.'] ∉ names)
    (hfile : d.isFileAt (extend p names) = true) : hasNul (extend p names) = false := by
  obtain ⟨content, hcontent⟩ := Option.isSome_iff_exists.1 (isFileAt_iff.1 hfile).2
  obtain ⟨f, hentry, -⟩ := contentAt?_eq_some_iff.1 hcontent
  rw [placeOf_extend hstraight] at hentry
  rw [hasNul, extend, List.any_append, Bool.or_eq_false_iff]
  refine ⟨hnul, ?_⟩
  rw [List.any_eq_false]
  intro name hname
  have hne : d.placeOf p ++ names ≠ [] :=
    List.append_ne_nil_of_right_ne_nil _ (List.ne_nil_of_mem hname)
  have hfree := (h.names _ (mem_entries_of_entryAt? hne hentry) name
    (List.mem_append_right _ hname)).2
  rw [List.any_eq_true]
  rintro ⟨c, hc, hceq⟩
  exact hfree (of_decide_eq_true hceq ▸ hc)

end Regular

/-! ## What changes leave -/

theorem workingDirectory_makeDirectories (d : Disk) (p : Path) :
    (d.makeDirectories p).2.workingDirectory = d.workingDirectory :=
  (rewrites_makeDirectories none d p).grows.workingDirectory

theorem workingDirectory_change (d : Disk) (c : Change) :
    (d.change c).workingDirectory = d.workingDirectory := by
  cases c with
  | write path content modified =>
    rw [change]
    split
    · next hstore =>
      obtain ⟨-, -, -, rfl⟩ := eq_put_of_store hstore
      exact workingDirectory_makeDirectories d path.parent
    · exact workingDirectory_makeDirectories d path.parent
  | makeDirectory path => exact workingDirectory_makeDirectories d path
  | remove path =>
    rw [change, remove]
    split <;> rfl

theorem workingDirectory_changes (d : Disk) (cs : List Change) :
    (d.changes cs).workingDirectory = d.workingDirectory := by
  induction cs generalizing d with
  | nil => rfl
  | cons c cs ih => exact (ih (d.change c)).trans (workingDirectory_change d c)

theorem changes_append (d : Disk) (cs more : List Change) :
    d.changes (cs ++ more) = (d.changes cs).changes more := List.foldl_append

/-- The time that a change gives to a file. -/
def Change.time? : Change → Option Int
  | .write _ _ modified => some modified
  | _ => none

/-- The times that changes give to files. -/
def times (cs : List Change) : List Int := cs.filterMap Change.time?

/-- The place at which a change writes a file, if it can. -/
def writtenPlace? (d : Disk) : Change → Option Location
  | .write path content modified =>
    let d := (d.makeDirectories path.parent).2
    match d.store path { content, modified } with
    | .ok _ => some (d.placeOf path)
    | .error _ => none
  | _ => none

/-- The places at which changes write files, one change after another. -/
def writtenPlaces (d : Disk) : List Change → List Location
  | [] => []
  | c :: cs => (d.writtenPlace? c).toList ++ (d.change c).writtenPlaces cs

theorem file_of_makeDirectories (h : (d.makeDirectories p).2.entryAt? l = some (.file f)) :
    d.entryAt? l = some (.file f) := by
  refine makeDirectories_induct (P := fun e => e.entryAt? l = some (.file f) →
    d.entryAt? l = some (.file f)) (fun e after q _ ih hmake hfile => ?_) d p id h
  obtain ⟨hnone, rfl⟩ := (makeDirectory_eq_ok_iff.1 hmake).2
  by_cases hl : l = e.placeOf q
  · rw [hl, entryAt?_put e (ne_nil_of_entryAt? (by rw [hnone]; exact nofun))] at hfile
    cases hfile
  · rw [entryAt?_put_of_ne e hl] at hfile
    exact ih hfile

/-- A file that is there after a change was written by it, or it was there before. -/
theorem file_of_change (h : (d.change c).entryAt? l = some (.file f)) :
    d.writtenPlace? c = some l ∧ c.time? = some f.modified ∨
      d.writtenPlace? c ≠ some l ∧ d.entryAt? l = some (.file f) := by
  cases c with
  | write path content modified =>
    rw [change] at h
    rw [writtenPlace?]
    rcases hstore : (d.makeDirectories path.parent).2.store path { content, modified } with
      failure | after
    · rw [hstore] at h
      -- a write that fails may have made directories, and no file
      exact .inr ⟨nofun, file_of_makeDirectories h⟩
    · rw [hstore] at h
      obtain ⟨-, -, hfree, rfl⟩ := eq_put_of_store hstore
      by_cases hl : l = (d.makeDirectories path.parent).2.placeOf path
      · left
        rw [hl, entryAt?_put _ (ne_nil_of_entryAt? hfree)] at h
        obtain rfl := Entry.file.inj (Option.some.inj h)
        exact ⟨congrArg some hl.symm, rfl⟩
      · right
        rw [entryAt?_put_of_ne _ hl] at h
        exact ⟨fun hplace => hl (Option.some.inj hplace).symm, file_of_makeDirectories h⟩
  | makeDirectory path => exact .inr ⟨nofun, file_of_makeDirectories h⟩
  | remove path =>
    refine .inr ⟨nofun, ?_⟩
    rw [change] at h
    -- the root is no file
    have hl : l ≠ [] := by
      rintro rfl
      rw [entryAt?, if_pos rfl] at h
      cases h
    rcases hfind : d.find path with fault | place
    · rwa [remove, hfind] at h
    · rw [entryAt?_remove hfind hl] at h
      split at h
      · cases h
      · exact h

/-- **A file that is there after some changes was written by one of them, or nothing was written at its
place and it was there before.** -/
theorem file_of_changes (h : (d.changes cs).entryAt? l = some (.file f)) :
    l ∈ d.writtenPlaces cs ∧ f.modified ∈ times cs ∨
      l ∉ d.writtenPlaces cs ∧ d.entryAt? l = some (.file f) := by
  induction cs generalizing d with
  | nil => exact .inr ⟨List.not_mem_nil, h⟩
  | cons c cs ih =>
    rw [writtenPlaces, List.mem_append, Option.mem_toList]
    rcases ih h with ⟨hplace, htime⟩ | ⟨hplace, hfile⟩
    · left
      refine ⟨.inr hplace, ?_⟩
      rw [times, ← List.singleton_append, List.filterMap_append]
      exact List.mem_append_right _ htime
    · rcases file_of_change hfile with ⟨hwritten, htime⟩ | ⟨hwritten, hbefore⟩
      · exact .inl ⟨.inl hwritten, List.mem_filterMap.2 ⟨c, List.mem_cons_self, htime⟩⟩
      · exact .inr ⟨not_or.2 ⟨hwritten, hplace⟩, hbefore⟩

/-- Each write gives its file a time that nothing has had before. -/
structure Fresh (d : Disk) (cs : List Change) : Prop where
  nodup : (times cs).Nodup
  unused : ∀ l f, d.entryAt? l = some (.file f) → f.modified ∉ times cs

/-- The time at which what stands somewhere was written, if it is a file. -/
def modified? : Entry → Option Int
  | .file f => some f.modified
  | .directory => none

theorem fresh_of_forall (hnodup : (times cs).Nodup)
    (h : ∀ entry ∈ d.entries, ∀ time ∈ times cs, modified? entry.2 ≠ some time) : Fresh d cs := by
  refine ⟨hnodup, fun l f hfile htime => ?_⟩
  have hl : l ≠ [] := ne_nil_of_entryAt? (by rw [hfile]; exact nofun)
  exact h _ (mem_entries_of_entryAt? hl hfile) _ htime rfl

theorem times_append (cs more : List Change) : times (cs ++ more) = times cs ++ times more :=
  List.filterMap_append

namespace Fresh

theorem front (h : Fresh d (cs ++ more)) : Fresh d cs := by
  have hsub : times cs ⊆ times (cs ++ more) := by
    rw [times_append]
    exact List.subset_append_left _ _
  refine ⟨?_, fun l f hfile htime => h.unused l f hfile (hsub htime)⟩
  have hnodup := h.nodup
  rw [times_append] at hnodup
  exact hnodup.of_append_left

/-- What is left of fresh changes is fresh after the first ones have been made. -/
theorem changes (h : Fresh d (cs ++ more)) : Fresh (d.changes cs) more := by
  have hnodup := h.nodup
  rw [times_append, List.nodup_append] at hnodup
  refine ⟨hnodup.2.1, fun l f hfile htime => ?_⟩
  rcases file_of_changes hfile with ⟨-, hwritten⟩ | ⟨-, hbefore⟩
  · exact hnodup.2.2 _ hwritten _ htime rfl
  · refine h.unused l f hbefore ?_
    rw [times_append]
    exact List.mem_append_right _ htime

end Fresh

end ComponentBook.Disk
