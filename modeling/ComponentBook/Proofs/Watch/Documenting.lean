import ComponentBook.Proofs.Batch.InMemory
import ComponentBook.Proofs.World.Pages
import ComponentBook.Watch.Run

/-! # Changed sources and runs

Watching documents each changed source in a run of its own (`documentChanges`), so that the index is rebuilt
between any two sources. With pages in memory this leaves the same pages as one run over all of them, and the
same index as soon as that run can write one (**`documentChanges_agrees_run`**). Where it cannot, the index
that an earlier source left stays behind (**`not_agrees_of_failing_template`**). -/

namespace ComponentBook

open Batch

variable {s : Settings} {u w : World} {m n : PageMemory} {paths : List Path}

/-- The pages in memory after some sources have been documented and the index has been rebuilt after each. -/
def documentedEach (s : Settings) (u : World) (paths : List Path) (m : PageMemory) : PageMemory :=
  paths.foldl (fun m path => reindexed s u (documented s path (u.disk.read path) m)) m

namespace Batch

/-- Documenting a source looks at the pages alone. -/
theorem pages_documented_congr (h : m.pages = n.pages) (path : Path)
    (outcome : Except Disk.Failure Text) :
    (documented s path outcome m).pages = (documented s path outcome n).pages := by
  cases outcome with
  | error e => exact h
  | ok source =>
    dsimp only [documented, PageMemory.save]
    rw [PageMemory.page?, PageMemory.page?, h]

/-- The index is made of the pages alone. -/
theorem indexOf?_congr (h : m.pages = n.pages) : indexOf? s u m = indexOf? s u n := by
  have hlisted : listedPages m = listedPages n := by
    simp only [listedPages, PageMemory.names, PageMemory.page?, h]
  rw [indexOf?, indexOf?, hlisted]

end Batch

/-- To rebuild the index in between makes no difference to the pages. -/
theorem pages_documentedEach (s : Settings) (u : World) (paths : List Path) (h : m.pages = n.pages) :
    (documentedEach s u paths m).pages = (documentedAll s u paths n).pages := by
  induction paths generalizing m n with
  | nil => exact h
  | cons path paths ih =>
    rw [documentedEach, documentedAll, List.foldl_cons, List.foldl_cons]
    refine ih ?_
    rw [pages_reindexed]
    exact pages_documented_congr h path _

/-- The index that is there in the end is the one of the last source. -/
theorem index_documentedEach (hne : paths ≠ []) {index : Text}
    (h : indexOf? s u (documentedEach s u paths m) = some index) :
    (documentedEach s u paths m).index = some index := by
  obtain ⟨front, last, rfl⟩ := List.eq_nil_or_concat paths |>.resolve_left hne
  rw [List.concat_eq_append] at h ⊢
  rw [documentedEach, List.foldl_append, List.foldl_cons, List.foldl_nil] at h ⊢
  rw [indexOf?_congr (pages_reindexed s u _)] at h
  exact index_reindexed h

/-- Each changed source has its run, whatever becomes of it. -/
theorem attempt_documentChanges_cons (s : Settings) (path : Path) (w : World) :
    w.attempt (documentChanges s (path :: paths)) =
      let told := w.tell (.of .info "watch" ("File changed: ".toList ++ path.text))
      (told.attempt (Batch.run s [path] (some false))).2.attempt (documentChanges s paths) := by
  rw [documentChanges, World.attempt_bind, World.attempt_liftM, World.proceed_ok,
    World.attempt_bind, World.run_tell]
  obtain ⟨report, v, hrun⟩ := Batch.exists_attempt_run_eq_ok (s := s)
    (w.tell (.of .info "watch" ("File changed: ".toList ++ path.text))) [path] (some false) rfl
  dsimp only
  rw [hrun, World.proceed_ok]

/-- What is left in memory when changed sources are documented. -/
theorem Batch.HasPages.documentChanges (h : HasPages u m w) (hfixed : u.HasFixedInput paths)
    (s : Settings) :
    (w.attempt (documentChanges s paths)).1 = .ok () ∧
      HasPages u (documentedEach s u paths m) (w.attempt (documentChanges s paths)).2 := by
  induction paths generalizing w m with
  | nil => exact ⟨rfl, h⟩
  | cons path paths ih =>
    have htold := h.tell (.of .info "watch" ("File changed: ".toList ++ path.text))
    have hfirst : u.HasFixedInput [path] := hfixed.of_subset (by simp)
    have hrest := hfixed.of_subset (List.subset_cons_self path paths)
    obtain ⟨-, hrun⟩ := htold.run hfirst s (some false)
    rw [attempt_documentChanges_cons]
    exact ih hrun hrest

/-- **Watching agrees with a run over all changed sources.** Whatever pages are in memory, sources that are
documented one by one leave the same pages as a run over all of them. If that run can write the index, they
leave the same index too. -/
theorem documentChanges_agrees_run (hshelf : w.shelf = .memory m) (hne : paths ≠ [])
    (hfixed : w.HasFixedInput paths) (s : Settings) (staging : Option Bool) :
    ∃ one all : PageMemory,
      (w.attempt (documentChanges s paths)).1 = .ok () ∧
        (w.attempt (documentChanges s paths)).2.shelf = .memory one ∧
        (w.attempt (Batch.run s paths staging)).2.shelf = .memory all ∧
        one.pages = all.pages ∧
        ((∀ report, (w.attempt (Batch.run s paths staging)).1 = .ok report →
          report.indexError = none) → one.index = all.index) := by
  have hfirst := HasPages.first hshelf
  obtain ⟨hdone, heach⟩ := hfirst.documentChanges hfixed s
  obtain ⟨herror, hall⟩ := hfirst.run hfixed s staging
  have hpages : (documentedEach s w paths m).pages = (documentedAll s w paths m).pages :=
    pages_documentedEach s w paths rfl
  refine ⟨_, _, hdone, heach.shelf, hall.shelf, hpages.trans (pages_reindexed s w _).symm, fun hnone => ?_⟩
  -- the last of the single runs makes the index of the same pages
  obtain ⟨index, hindex⟩ := Option.isSome_iff_exists.1 (herror.1 hnone)
  have hlast : indexOf? s w (documentedEach s w paths m) = some index := by
    rw [indexOf?_congr hpages, hindex]
  rw [index_documentedEach hne hlast, index_reindexed hindex]

/-- A source that describes the component of another source. -/
def rivalSource : Text :=
  "<script>\n/**\n * Text\n */\nexport default \x7b name: 'X' \x7d\n</script>".toList

/-- Two sources of one component, documented one by one and together. -/
theorem documentChanges_agrees_run_rivalSource :
    ∃ one all : PageMemory,
      ((pairWorld rivalSource).attempt (documentChanges sampleSettings pairPaths)).2.shelf
          = .memory one ∧
        ((pairWorld rivalSource).attempt (Batch.run sampleSettings pairPaths none)).2.shelf
          = .memory all ∧
        one.pages = all.pages ∧ one.index = all.index := by
  have hindexed : ((pairWorld rivalSource).attempt
      (Batch.run sampleSettings pairPaths none)).1.toOption.all (·.indexError.isNone) = true := by
    decide +kernel
  have hne : pairPaths ≠ [] := List.cons_ne_nil _ _
  obtain ⟨one, all, -, hone, hall, hpages, hindex⟩ :=
    documentChanges_agrees_run (w := pairWorld rivalSource) (m := {}) rfl hne
      (World.hasFixedInput_of_logFile rfl pairPaths) sampleSettings none
  refine ⟨one, all, hone, hall, hpages, hindex fun report hreport => ?_⟩
  rw [hreport] at hindexed
  exact Option.isNone_iff_eq_none.1 hindexed

/-! ## An index that cannot be written any more -/

/-- An index template that fails as soon as a component is described. -/
def failingTemplate : Text :=
  "\x7b% for group in groups %\x7d\x7b% for entry in group.entries %\x7d".toList ++
  "\x7b% if entry.description %\x7d\x7b\x7b x.y \x7d\x7d\x7b% endif %\x7d".toList ++
  "\x7b% endfor %\x7d\x7b% endfor %\x7d\n".toList

/-- The project with two sources of one component and an index template of its own. -/
def failingWorld : World :=
  { pairWorld rivalSource with
    disk := { (pairWorld rivalSource).disk with
      entries := (pairWorld rivalSource).disk.entries ++ [(["t".toList], .directory),
        (["t".toList, templateName], .file { content := .text failingTemplate, modified := 2 })] }
    templatesDirectory := some { slashes := 1, names := ["t".toList] } }

/-- The run over both sources leaves no index. When they are documented one by one, the index that the first
one leaves stays. -/
theorem not_agrees_of_failing_template :
    failingWorld.shelf = .memory {} ∧ failingWorld.HasFixedInput pairPaths ∧
      (failingWorld.attempt (documentChanges sampleSettings pairPaths)).2.index? ≠
        (failingWorld.attempt (Batch.run sampleSettings pairPaths none)).2.index? :=
  ⟨rfl, World.hasFixedInput_of_logFile rfl _, by decide +kernel⟩

end ComponentBook
