import ComponentBook.Proofs.Batch.InMemory
import ComponentBook.Proofs.Store.Agreement
import ComponentBook.Proofs.Text.Order

/-! # The order of sources

Sources of different components do not get in each other's way: documented in another order they leave the same
pages and the same index (**`run_perm`**). What counts as the same is **`PageMemory.SamePages`**: the order in which
pages have been put into memory shows nowhere, since names are listed in ascending order. -/

namespace ComponentBook

namespace PageMemory

variable {k m n : PageMemory} {name other : Text}

/-- Memories with the same page under every name, and the same index. -/
structure SamePages (m n : PageMemory) : Prop where
  names : (m.pages.map Prod.fst).Perm (n.pages.map Prod.fst)
  page? : ∀ name, m.page? name = n.page? name
  index : m.index = n.index

namespace SamePages

theorem refl (m : PageMemory) : SamePages m m := ⟨.refl _, fun _ => rfl, rfl⟩

theorem trans (h : SamePages k m) (g : SamePages m n) : SamePages k n :=
  ⟨h.names.trans g.names, fun name => (h.page? name).trans (g.page? name), h.index.trans g.index⟩

theorem saveIndex (h : SamePages m n) (index : Text) :
    SamePages (m.saveIndex index) (n.saveIndex index) :=
  ⟨h.names, h.page?, rfl⟩

end SamePages

/-- The page that is read under a name once a page has been saved. -/
theorem page?_save_eq (m : PageMemory) (name page k : Text) :
    (m.save name page).page? k = if k = name then some page else m.page? k :=
  lookup_putPage name page k m.pages

theorem SamePages.save (h : SamePages m n) (name page : Text) :
    SamePages (m.save name page) (n.save name page) := by
  refine ⟨?_, fun k => ?_, h.index⟩
  · rw [PageMemory.save, PageMemory.save, map_fst_putPage, map_fst_putPage]
    by_cases hmem : name ∈ m.pages.map Prod.fst
    · rw [if_pos hmem, if_pos (h.names.mem_iff.1 hmem)]
      exact h.names
    · rw [if_neg hmem, if_neg fun hn => hmem (h.names.mem_iff.2 hn)]
      exact h.names.append_right [name]
  · rw [page?_save_eq, page?_save_eq, h.page?]

/-- Pages of different names can be saved in either order. -/
theorem samePages_save_comm (hne : name ≠ other) (m : PageMemory) (page more : Text) :
    SamePages ((m.save name page).save other more) ((m.save other more).save name page) := by
  refine ⟨?_, fun k => ?_, rfl⟩
  · have hother : other ∈ m.pages.map Prod.fst ++ [name] ↔ other ∈ m.pages.map Prod.fst := by
      simp [Ne.symm hne]
    have hname : name ∈ m.pages.map Prod.fst ++ [other] ↔ name ∈ m.pages.map Prod.fst := by
      simp [hne]
    simp only [PageMemory.save, map_fst_putPage]
    by_cases hn : name ∈ m.pages.map Prod.fst
    · by_cases ho : other ∈ m.pages.map Prod.fst
      · simp only [if_pos hn, if_pos ho]
        exact .refl _
      · simp only [if_pos hn, if_neg ho, if_pos (hname.2 hn)]
        exact .refl _
    · by_cases ho : other ∈ m.pages.map Prod.fst
      · simp only [if_neg hn, if_pos ho, if_pos (hother.2 ho)]
        exact .refl _
      · -- both names are new, and they stand in the order in which they came
        simp only [if_neg hn, if_neg ho, if_neg (hother.not.2 ho), if_neg (hname.not.2 hn),
          List.append_assoc, List.singleton_append]
        exact (List.Perm.swap other name []).append_left _
  · rw [page?_save_eq, page?_save_eq, page?_save_eq, page?_save_eq]
    by_cases hk : k = name
    · subst hk
      rw [if_neg hne, if_pos rfl, if_pos rfl]
    · rw [if_neg hk, if_neg hk]

end PageMemory

namespace Batch

open PageMemory (SamePages)

variable {s : Settings} {u w : World} {m n : PageMemory} {paths others : List Path} {p q : Path}

/-- The name of the component of a source, if the source can be read. -/
def componentName? (s : Settings) (u : World) (path : Path) : Option Text :=
  (u.disk.read path).toOption.map fun source => (describe s source path.stem).name

theorem componentName?_of_read {source : Text} (h : u.disk.read p = .ok source) :
    componentName? s u p = some (describe s source p.stem).name := by
  rw [componentName?, h]
  rfl

theorem samePages_documented (h : SamePages m n) (s : Settings) (path : Path)
    (outcome : Except Disk.Failure Text) :
    SamePages (documented s path outcome m) (documented s path outcome n) := by
  cases outcome with
  | error e => exact h
  | ok source =>
    dsimp only [Batch.documented]
    rw [h.page?]
    exact h.save _ _

/-- Two sources of different components can be documented in either order. -/
theorem samePages_documented_comm
    (hnames : ∀ name, componentName? s u p = some name → componentName? s u q ≠ some name)
    (m : PageMemory) :
    SamePages (documented s q (u.disk.read q) (documented s p (u.disk.read p) m))
      (documented s p (u.disk.read p) (documented s q (u.disk.read q) m)) := by
  cases hp : u.disk.read p with
  | error e => exact .refl _
  | ok source =>
    cases hq : u.disk.read q with
    | error e => exact .refl _
    | ok other =>
      have hne : (describe s source p.stem).name ≠ (describe s other q.stem).name := by
        intro heq
        refine hnames _ (componentName?_of_read hp) ?_
        rw [componentName?_of_read hq, heq]
      dsimp only [Batch.documented]
      -- each page is made from the one of its own name, which the other source leaves alone
      rw [PageMemory.page?_save_of_ne m hne.symm, PageMemory.page?_save_of_ne m hne]
      exact PageMemory.samePages_save_comm hne m _ _

theorem samePages_documentedAll (h : SamePages m n) (s : Settings) (u : World) (paths : List Path) :
    SamePages (documentedAll s u paths m) (documentedAll s u paths n) := by
  induction paths generalizing m n with
  | nil => exact h
  | cons path paths ih => exact ih (samePages_documented h s path _)

/-- Sources of different components leave the same pages in any order. -/
theorem samePages_documentedAll_perm (hperm : paths.Perm others)
    (hnames : (paths.filterMap (componentName? s u)).Nodup) (m : PageMemory) :
    SamePages (documentedAll s u paths m) (documentedAll s u others m) := by
  induction hperm generalizing m with
  | nil => exact .refl m
  | cons path hrest ih =>
    refine ih (List.Sublist.nodup (List.Sublist.filterMap _ ?_) hnames) _
    exact List.sublist_cons_self path _
  | swap p q rest =>
    refine samePages_documentedAll (samePages_documented_comm (fun name hq hp => ?_) m) s u rest
    rw [List.filterMap_cons_some hq, List.filterMap_cons_some hp, List.nodup_cons] at hnames
    exact hnames.1 List.mem_cons_self
  | trans hfirst hsecond ihfirst ihsecond =>
    have hmiddle := (hfirst.filterMap (componentName? s u)).nodup_iff.1 hnames
    exact (ihfirst hnames m).trans (ihsecond hmiddle m)

/-- The index does not show in which order pages were put into memory. -/
theorem indexOf?_of_samePages (h : SamePages m n) : indexOf? s u m = indexOf? s u n := by
  have hnames : m.names = n.names := Text.sorted_eq_sorted h.names
  have hlisted : listedPages m = listedPages n := by
    rw [listedPages, listedPages, hnames]
    exact List.map_congr_left fun name _ => by rw [h.page?]
  rw [indexOf?, indexOf?, hlisted]

theorem samePages_reindexed (h : SamePages m n) (s : Settings) (u : World) :
    SamePages (reindexed s u m) (reindexed s u n) := by
  rw [Batch.reindexed, Batch.reindexed, indexOf?_of_samePages h]
  cases indexOf? s u n with
  | none => exact h
  | some index => exact h.saveIndex index

/-- **The order of sources does not matter.** Whatever pages are in memory, a run over sources of different
components leaves the same pages and the same index in any order of the sources. Sources that cannot be read may
be among them. -/
theorem run_perm (hshelf : w.shelf = .memory m) (hfixed : w.HasFixedInput paths)
    (hperm : paths.Perm others) (hnames : (paths.filterMap (componentName? s w)).Nodup)
    (staging : Option Bool) :
    ∃ one two : PageMemory,
      (w.attempt (run s paths staging)).2.shelf = .memory one ∧
        (w.attempt (run s others staging)).2.shelf = .memory two ∧
        (∀ name, one.page? name = two.page? name) ∧ one.names = two.names ∧
        one.index = two.index := by
  have hfirst := HasPages.first hshelf
  obtain ⟨-, hone⟩ := hfirst.run hfixed s staging
  obtain ⟨-, htwo⟩ := hfirst.run (hfixed.of_subset hperm.symm.subset) s staging
  have hsame := samePages_reindexed (samePages_documentedAll_perm hperm hnames m) s w
  exact ⟨_, _, hone.shelf, htwo.shelf, hsame.page?, Text.sorted_eq_sorted hsame.names, hsame.index⟩

/-- Two components, documented in both orders. -/
theorem run_perm_pair :
    ∃ one two : PageMemory,
      ((pairWorld bareSource).attempt (run sampleSettings pairPaths none)).2.shelf = .memory one ∧
        ((pairWorld bareSource).attempt (run sampleSettings pairPaths.reverse none)).2.shelf
          = .memory two ∧
        (∀ name, one.page? name = two.page? name) ∧ one.names = two.names ∧
        one.index = two.index :=
  run_perm (w := pairWorld bareSource) (m := {}) rfl (World.hasFixedInput_of_logFile rfl _)
    (List.reverse_perm pairPaths).symm (by decide +kernel) none

end Batch

end ComponentBook
