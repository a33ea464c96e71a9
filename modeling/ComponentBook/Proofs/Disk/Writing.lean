import ComponentBook.Proofs.Disk.Place

/-! # What writing changes

Every change that a run makes to a disk writes texts at places and makes directories where there was
nothing. **`Disk.Rewrites`** says so: the disk grows, and each file holds what was written to it last,
or else what it held before. One file is left aside, that of the log. The rewriting by
`writeWithDirectories` is **`rewrites_of_writeWithDirectories`**; runs of writes are put together by
`Rewrites.trans`. -/

namespace ComponentBook.Disk

variable {c d e : Disk} {p : Path} {l k : Location} {log : Option Location}

/-- What a place holds after texts have been written, the last one at the end of the list. -/
def overlay (l : Location) (writes : List (Location × Text)) (before : Option Content) :
    Option Content :=
  writes.foldl (fun held w => if w.1 = l then some (.text w.2) else held) before

theorem overlay_append (l : Location) (writes more : List (Location × Text))
    (before : Option Content) :
    overlay l (writes ++ more) before = overlay l more (overlay l writes before) :=
  List.foldl_append

/-- A place to which nothing is written holds what it held. -/
theorem overlay_of_not_mem {writes : List (Location × Text)} (h : ∀ w ∈ writes, w.1 ≠ l)
    (before : Option Content) : overlay l writes before = before := by
  induction writes generalizing before with
  | nil => rfl
  | cons w writes ih =>
    rw [overlay, List.foldl_cons, if_neg (h w List.mem_cons_self)]
    exact ih (fun v hv => h v (List.mem_cons_of_mem w hv)) before

/-- A place to which something is written holds one of the texts that are written there. -/
theorem exists_overlay_eq {writes : List (Location × Text)} (h : ∃ w ∈ writes, w.1 = l)
    (before : Option Content) :
    ∃ w ∈ writes, w.1 = l ∧ overlay l writes before = some (.text w.2) := by
  induction writes generalizing before with
  | nil => obtain ⟨w, hw, -⟩ := h; cases hw
  | cons w writes ih =>
    by_cases hlater : ∃ v ∈ writes, v.1 = l
    · obtain ⟨v, hv, hplace, hheld⟩ := ih hlater _
      exact ⟨v, List.mem_cons_of_mem w hv, hplace, hheld⟩
    · -- nothing is written there later on, so this write is the last one
      have hlast : w.1 = l := by
        obtain ⟨v, hv, hplace⟩ := h
        rcases List.mem_cons.1 hv with rfl | hv
        · exact hplace
        · exact absurd ⟨v, hv, hplace⟩ hlater
      refine ⟨w, List.mem_cons_self, hlast, ?_⟩
      rw [overlay, List.foldl_cons, if_pos hlast]
      exact overlay_of_not_mem (fun v hv hplace => hlater ⟨v, hv, hplace⟩) _

/-- A disk arises from another one by writing texts at places; only the file of the log may hold
something else. -/
structure Rewrites (log : Option Location) (writes : List (Location × Text)) (d e : Disk) :
    Prop where
  grows : Grows d e
  contentAt? : ∀ l, log ≠ some l → e.contentAt? l = overlay l writes (d.contentAt? l)

namespace Rewrites

theorem refl (log : Option Location) (d : Disk) : Rewrites log [] d d :=
  ⟨Grows.refl d, fun _ _ => rfl⟩

theorem trans {writes more : List (Location × Text)} (h : Rewrites log writes c d)
    (g : Rewrites log more d e) : Rewrites log (writes ++ more) c e := by
  refine ⟨h.grows.trans g.grows, fun l hl => ?_⟩
  rw [g.contentAt? l hl, h.contentAt? l hl, overlay_append]

/-- A file that is not written, and is not the file of the log, is read as before. -/
theorem read {t : Text} (h : Rewrites log [] d e) (hlog : log ≠ some (d.placeOf p))
    (ht : d.read p = .ok t) : e.read p = .ok t :=
  h.grows.read (h.contentAt? _ hlog) ht

end Rewrites

/-! ## Putting an entry -/

@[simp] theorem contentAt?_put_file (d : Disk) (hl : l ≠ []) (f : File) :
    (d.put l (.file f)).contentAt? l = some f.content :=
  contentAt?_of_file (entryAt?_put d hl _)

theorem ne_nil_of_entryAt? (h : d.entryAt? l ≠ some .directory) : l ≠ [] := by
  rintro rfl
  exact h (by rw [entryAt?, if_pos rfl])

theorem grows_put_file (h : d.entryAt? l ≠ some .directory) (f : File) :
    Grows d (d.put l (.file f)) := by
  refine ⟨rfl, fun k hk => ?_, fun k hk => ?_⟩
  · have hne : k ≠ l := by
      rintro rfl
      exact h hk
    rw [entryAt?_put_of_ne d hne, hk]
  · -- the file that is put may be one that was there
    by_cases hne : k = l
    · rw [hne, contentAt?_put_file d (ne_nil_of_entryAt? h)]
      rfl
    · rwa [contentAt?_congr (entryAt?_put_of_ne d hne _)]

theorem rewrites_put_text (h : d.entryAt? l ≠ some .directory) (t : Text) (modified : Int) :
    Rewrites log [(l, t)] d (d.put l (.file { content := .text t, modified })) := by
  refine ⟨grows_put_file h _, fun k _ => ?_⟩
  rw [overlay, List.foldl_cons, List.foldl_nil]
  split
  · next hk =>
    obtain rfl : l = k := hk
    exact contentAt?_put_file d (ne_nil_of_entryAt? h) _
  · next hk => exact contentAt?_congr (entryAt?_put_of_ne d (Ne.symm hk) _)

theorem rewrites_put_directory (h : d.entryAt? l = none) :
    Rewrites log [] d (d.put l .directory) := by
  have hl : l ≠ [] := ne_nil_of_entryAt? (d := d) (by rw [h]; exact nofun)
  have hput := entryAt?_put d hl .directory
  refine ⟨⟨rfl, fun k hk => ?_, fun k hk => ?_⟩, fun k _ => ?_⟩
  · by_cases hne : k = l
    · rw [hne, hput]
    · rw [entryAt?_put_of_ne d hne, hk]
  · by_cases hne : k = l
    · rw [hne, contentAt?, h] at hk
      cases hk
    · rwa [contentAt?_congr (entryAt?_put_of_ne d hne _)]
  · by_cases hne : k = l
    · rw [hne, contentAt?, contentAt?, h, hput]
      rfl
    · exact contentAt?_congr (entryAt?_put_of_ne d hne _)

/-- The time of the next write says nothing about what stands where. -/
theorem grows_setClock (d : Disk) (clock : Int) : Grows d { d with clock } :=
  ⟨rfl, fun _ h => h, fun _ h => h⟩

theorem Rewrites.setClock {writes : List (Location × Text)} (h : Rewrites log writes d e)
    (clock : Int) : Rewrites log writes d { e with clock } :=
  ⟨h.grows.trans (grows_setClock e clock), h.contentAt?⟩

/-! ## Writing a file -/

/-- Where an entry has been put, a path leads. -/
theorem find_put {entry : Entry} (h : d.place p = .ok l) (hl : l ≠ [])
    (hgrows : Grows d (d.put l entry)) : (d.put l entry).find p = .ok l := by
  rw [find_of_place (hgrows.place h), entryAt?_put d hl]
  rfl

/-- Where a file has been put, a path leads. -/
theorem find_put_file (h : d.place p = .ok l) (hl : d.entryAt? l ≠ some .directory) (f : File) :
    (d.put l (.file f)).find p = .ok l :=
  find_put h (ne_nil_of_entryAt? hl) (grows_put_file hl f)

/-- What a file that is stored does to a disk. -/
theorem eq_put_of_store {f : File} (h : d.store p f = .ok e) :
    hasNul p = false ∧ d.place p = .ok (d.placeOf p) ∧
      d.entryAt? (d.placeOf p) ≠ some .directory ∧ e = d.put (d.placeOf p) (.file f) := by
  rw [store] at h
  split at h
  · cases h
  · next hnul =>
    rcases hplace : d.place p with fault | l
    · rw [hplace] at h; cases h
    · obtain rfl := eq_placeOf_of_place hplace
      rw [hplace] at h
      dsimp only at h
      split at h
      · cases h
      · next hdir => exact ⟨Bool.eq_false_iff.2 hnul, rfl, hdir, (Except.ok.inj h).symm⟩

/-- A text that is written is there, and nothing else changes. -/
theorem rewrites_of_write (log : Option Location) {t : Text} (h : d.write p t = .ok e) :
    Rewrites log [(d.placeOf p, t)] d e ∧ hasNul p = false ∧ e.find p = .ok (d.placeOf p) := by
  obtain ⟨e, hstore, rfl⟩ := map_eq_ok_iff.1 h
  obtain ⟨hnul, hplace, hdir, rfl⟩ := eq_put_of_store hstore
  exact ⟨(rewrites_put_text hdir t _).setClock _, hnul,
    (grows_setClock _ _).find (find_put_file hplace hdir _)⟩

/-- A text that is written at the end of a file changes no other file. -/
theorem rewrites_of_append {t : Text} (h : d.append p t = .ok e) :
    Rewrites (some (d.placeOf p)) [] d e := by
  obtain ⟨e, hstore, rfl⟩ := map_eq_ok_iff.1 h
  obtain ⟨-, -, hdir, rfl⟩ := eq_put_of_store hstore
  refine Rewrites.setClock ⟨grows_put_file hdir _, fun l hl => ?_⟩ _
  exact contentAt?_congr (entryAt?_put_of_ne d (fun h => hl (congrArg some h.symm)) _)

/-! ## Making directories -/

/-- Making a directory puts one where a path leads, if nothing stands there. -/
theorem makeDirectory_eq_ok_iff :
    d.makeDirectory p = .ok e ↔
      d.place p = .ok (d.placeOf p) ∧ d.entryAt? (d.placeOf p) = none ∧ e = d.put (d.placeOf p) .directory := by
  rw [makeDirectory]
  constructor
  · intro h
    split at h
    · cases h
    · next l hplace =>
      obtain rfl := eq_placeOf_of_place hplace
      split at h
      · cases h
      · next hnone => exact ⟨hplace, Option.not_isSome_iff_eq_none.1 hnone, (Except.ok.inj h).symm⟩
  · rintro ⟨hplace, hnone, rfl⟩
    rw [hplace]
    dsimp only
    rw [hnone]
    rfl

theorem rewrites_of_makeDirectory (h : d.makeDirectory p = .ok e) : Rewrites log [] d e := by
  obtain ⟨-, hnone, rfl⟩ := makeDirectory_eq_ok_iff.1 h
  exact rewrites_put_directory hnone

/-- Making directories keeps what making a directory keeps, even when it fails. The directories are those
of a path and of its parents. -/
theorem makeDirectories_induct_path {P : Disk → Prop} {Q : Path → Prop}
    (hparent : ∀ p, Q p → Q p.parent)
    (hmake : ∀ d e p, hasNul p = false → Q p → P d → d.makeDirectory p = .ok e → P e) (d : Disk)
    (p : Path) (hp : Q p) (h : P d) : P (d.makeDirectories p).2 := by
  -- along the recursion: the directories above are made first, and they stay when a later one fails
  fun_induction makeDirectories d p with
  | case1 => exact h
  | case2 p hnul made hmade => exact hmake _ _ _ (Bool.eq_false_iff.2 hnul) hp h hmade
  | case3 => exact h
  | case4 p _ _ _ _ after hrun ih =>
    have hafter := ih (hparent _ hp)
    rwa [hrun] at hafter
  | case5 p hnul _ _ after hrun made hmade ih =>
    have hafter := ih (hparent _ hp)
    rw [hrun] at hafter
    exact hmake _ _ _ (Bool.eq_false_iff.2 hnul) hp hafter hmade
  | case6 p _ _ _ after hrun _ ih =>
    have hafter := ih (hparent _ hp)
    rwa [hrun] at hafter
  | case7 p _ _ _ after hrun _ _ _ ih =>
    have hafter := ih (hparent _ hp)
    rwa [hrun] at hafter
  | case8 => exact h

/-- Making directories keeps what making any directory keeps. -/
theorem makeDirectories_induct {P : Disk → Prop}
    (hmake : ∀ d e p, hasNul p = false → P d → d.makeDirectory p = .ok e → P e) (d : Disk)
    (p : Path) (h : P d) : P (d.makeDirectories p).2 :=
  makeDirectories_induct_path (Q := fun _ => True) (fun _ _ => trivial)
    (fun d e p hnul _ => hmake d e p hnul) d p trivial h

/-- Making directories changes no file, even when it fails. -/
theorem rewrites_makeDirectories (log : Option Location) (d : Disk) (p : Path) :
    Rewrites log [] d (d.makeDirectories p).2 :=
  makeDirectories_induct (P := Rewrites log [] d)
    (fun _ _ _ _ h hmake => h.trans (rewrites_of_makeDirectory hmake)) d p (Rewrites.refl log d)

/-- A text that is written in a directory that is there by then is read back. -/
theorem rewrites_of_writeWithDirectories (log : Option Location) {t : Text}
    (h : d.writeWithDirectories p t = (.ok (), e)) :
    Rewrites log [(d.placeOf p, t)] d e ∧ hasNul p = false ∧ e.find p = .ok (d.placeOf p) := by
  have hmade := rewrites_makeDirectories log d p.parent
  rw [writeWithDirectories] at h
  rcases hp : d.makeDirectories p.parent with ⟨_ | _, c⟩
  · rw [hp] at h; cases h
  · rw [hp] at h hmade
    dsimp only at h hmade
    split at h
    · next after hwrite =>
      obtain rfl := (Prod.mk.inj h).2
      obtain ⟨hrewrites, hnul, hfind⟩ := rewrites_of_write log hwrite
      rw [hmade.grows.placeOf] at hrewrites hfind
      exact ⟨hmade.trans hrewrites, hnul, hfind⟩
    · cases h

/-- A text that cannot be written changes no file. -/
theorem rewrites_of_not_written {t : Text} {failure : Failure}
    (h : d.writeWithDirectories p t = (.error failure, e)) : Rewrites log [] d e := by
  have hmade := rewrites_makeDirectories log d p.parent
  rw [writeWithDirectories] at h
  rcases hp : d.makeDirectories p.parent with ⟨_ | _, c⟩
  · rw [hp] at h hmade
    obtain rfl := (Prod.mk.inj h).2
    exact hmade
  · rw [hp] at h hmade
    dsimp only at h hmade
    split at h
    · cases h
    · obtain rfl := (Prod.mk.inj h).2
      exact hmade

end ComponentBook.Disk
