import ComponentBook.Proofs.Batch.Confinement
import ComponentBook.Proofs.Service.Conversation
import ComponentBook.Proofs.Service.Serving

/-! # Index and pages when requests are served together

Nothing keeps requests apart that are served at the same time: between listing the pages and saving the
index of one of them, another one may save a page. When all are finished, the index is the one that the
pages make (**`mirrors_of_serves`**), if the pages stay as they are from the time at which the request that
saves the index last lists them. -/

namespace ComponentBook

open Plan (Attempts)

/-- The index that a template makes of the pages as they are kept, if they can be read and the template
makes one. -/
def Batch.builtIndex (s : Settings) (template : Text) (w : World) : Option Text := do
  let names ← w.pageNames.toOption
  let pages ← (w.attempt (Batch.readPages names)).1.toOption
  (indexPage s.locale categoryRules template pages).toOption

namespace Service

variable {ι : Type} [DecidableEq ι] {s : Settings} {call : ι → Call} {σ ρ τ : State ι} {i : ι}
  {front zs : List (ι × Exchange)} {index : Text} {pages : PageDirectory} {allowed : Permission}

/-- Every request is finished: its exchanges are a conversation of what it calls for. -/
def Finished (s : Settings) (call : ι → Call) (zs : List (ι × Exchange)) : Prop :=
  ∀ i, ∃ outcome, Attempts ((call i).plan s) (turnsOf i zs) outcome

/-- A request lists the pages, and then it saves the index, which nobody saves any more. -/
def SavesLast (i : ι) (index : Text) (zs : List (ι × Exchange)) : Prop :=
  ∃ listing mid file rest,
    zs = (i, ⟨.pageNames, listing⟩) :: (mid ++ (i, ⟨.saveIndex index, .ok file⟩) :: rest) ∧
      ∀ z ∈ rest, z.2.savesIndex = false

/-- Nobody is given time to change files while requests are served. -/
theorem Finished.concern (h : Finished s call zs) : ∀ z ∈ zs, z.2.concern ≠ .pause := by
  rintro ⟨i, x⟩ hz
  obtain ⟨outcome, hi⟩ := h i
  exact concern_of_attempts hi x (mem_turnsOf.2 hz)

/-- Pages and index stay in order while requests are served. -/
theorem Serves.orderly {w : World} (h : Serves allowed σ zs τ)
    (hpause : ∀ z ∈ zs, z.2.concern ≠ .pause) (horder : World.Orderly σ.world w) :
    World.Orderly τ.world w :=
  h.inv (P := fun u => World.Orderly u w)
    (fun z hz _ _ template hu _ hanswers => (hu.withTemplate template).of_answers hanswers (hpause z hz))
    horder

/-- The index stays while nobody saves it and the pages stay. -/
theorem Serves.index?_eq (h : Serves World.KeepsPages σ zs τ)
    (hpause : ∀ z ∈ zs, z.2.concern ≠ .pause) (hsaves : ∀ z ∈ zs, z.2.savesIndex = false)
    (hlog : σ.world.LogsApartFromIndex) : τ.world.index? = σ.world.index? := by
  refine (h.inv (P := fun u => u.LogsApartFromIndex ∧ u.index? = σ.world.index?)
    (fun z hz u v template hu hkeeps hanswers => ?_) ⟨hlog, rfl⟩).2
  have hkeeps : (u.withTemplate template).KeepsPages z.2 := hkeeps
  have hlog : (u.withTemplate template).LogsApartFromIndex := hu.1
  have hsteady := World.steady_of_answers hanswers hkeeps (hpause z hz)
  have hindex := World.index?_of_answers hanswers hkeeps (hpause z hz) (hsaves z hz) hlog
  exact ⟨hsteady.logsApartFromIndex hlog, hindex.trans hu.2⟩

/-- What is saved as the index, and is saved by nobody later on, is the index in the end. -/
theorem Serves.index?_of_saveIndex {file : Option Path} {rest : List (ι × Exchange)}
    (h : Serves World.KeepsPages σ (front ++ (i, ⟨.saveIndex index, .ok file⟩) :: rest) τ)
    (hpause : ∀ z ∈ front ++ (i, ⟨.saveIndex index, .ok file⟩) :: rest, z.2.concern ≠ .pause)
    (hsaves : ∀ z ∈ rest, z.2.savesIndex = false) (horder : World.Orderly σ.world τ.world) :
    τ.world.index? = some (.text index) := by
  obtain ⟨hpauseFront, hpause⟩ := List.forall_mem_append.1 hpause
  obtain ⟨hpauseSaving, hpauseRest⟩ := List.forall_mem_cons.1 hpause
  obtain ⟨ρ, hfront, hsaving⟩ := append_iff.1 h
  cases hsaving with
  | cons _ hanswers hrest =>
    have hthen := (hfront.orderly hpauseFront horder).withTemplate (ρ.templates i)
    have hlog := (hthen.of_answers hanswers hpauseSaving).logsApartFromIndex
    rw [hrest.index?_eq hpauseRest hsaves hlog]
    exact World.index?_of_saveIndex (World.eq_of_answers_saveIndex hanswers)
      hthen.logsApartFromIndex

section

variable (hzs : Serves World.KeepsPages ρ zs τ) (hpause : ∀ z ∈ zs, z.2.concern ≠ .pause)
  (horder : World.Orderly ρ.world τ.world)

include hzs hpause horder

/-- A page that was listed and has been read since is read so in the end. -/
theorem Serves.readPage {names : List Text} {name : Text} {page : Option Text}
    (hnames : ρ.world.pageNames = .ok names) (hname : name ∈ names)
    (hmem : (i, ⟨.readPage name, .ok page⟩) ∈ zs) : τ.world.readPage name = .ok page := by
  obtain ⟨before, after, α, u, rfl, hbefore, -, hanswers, hafter⟩ := hzs.exists_of_mem hmem
  obtain ⟨hpage, rfl⟩ := World.eq_of_answers_readPage hanswers
  obtain ⟨hpauseBefore, hpauseAfter⟩ := List.forall_mem_append.1 hpause
  have hlater := hbefore.orderly hpauseBefore horder
  -- from the time at which it is read the page stays
  have hsteady : World.Steady α.world τ.world :=
    (hafter.steady fun z hz => hpauseAfter z (List.mem_cons_of_mem _ hz)).of_withTemplate
  refine hsteady.readPage hlater (fun pages hshelf => ?_) hpage
  -- it was listed before, and it is listed still
  have hsteady := hbefore.steady hpauseBefore
  have hshelf := hsteady.shelf_eq_of_directory hshelf
  exact (World.lists_of_pageNames hshelf hnames hname).grow (hsteady.grows hshelf)

/-- The pages are listed in the end as they were listed, if the index has been saved since. -/
theorem Serves.pageNames {names : List Text} {file : Option Path}
    (hnames : ρ.world.pageNames = .ok names)
    (hmem : (i, ⟨.saveIndex index, .ok file⟩) ∈ zs) : τ.world.pageNames = .ok names := by
  have hsteady := hzs.steady hpause
  refine hsteady.pageNames horder (hzs.orderly hpause horder) (fun pages hshelf => ?_) hnames
  -- the directory has been there since the index was saved
  have hplain := (horder pages (hsteady.shelf_eq_of_directory hshelf)).plain
  obtain ⟨before, after, α, u, rfl, -, hkeeps, hanswers, hafter⟩ := hzs.exists_of_mem hmem
  have hpause := (List.forall_mem_append.1 hpause).2
  have hafter := hafter.steady fun z hz => hpause z (List.mem_cons_of_mem _ hz)
  have hthen : u.shelf = .directory pages := hafter.shelf_eq_of_directory hshelf
  have hsaving : World.Steady (α.worldOf i) u :=
    World.steady_of_answers hanswers hkeeps (hpause _ List.mem_cons_self)
  have hsave := World.eq_of_answers_saveIndex hanswers
  exact (hafter.grows hthen).isDirectory
    (World.isDirectory_of_saveIndex (hsaving.shelf_eq_of_directory hthen) hplain hsave)

end

/-- **The index mirrors the pages.** Some requests are served together until all are finished. If from the
time at which one of them lists the pages these stay as they are, and this request saves the index after
all others, then the index that is kept in the end is the one that the pages make which are kept in the
end, with the template that this request has loaded. -/
theorem mirrors_of_serves (hfinished : Finished s call (front ++ zs))
    (hfront : Serves anything σ front ρ) (hzs : Serves World.KeepsPages ρ zs τ)
    (hlast : SavesLast i index zs) (horder : World.Orderly σ.world τ.world) :
    τ.world.index? = some (.text index) ∧
      ∃ template, (i, ⟨.indexTemplate, .ok template⟩) ∈ zs ∧
        Batch.builtIndex s template τ.world = some index := by
  obtain ⟨hpauseFront, hpause⟩ := List.forall_mem_append.1 hfinished.concern
  have horder := hfront.orderly hpauseFront horder
  obtain ⟨listing, mid, file, rest, rfl, hrest⟩ := hlast
  -- what the request has saved is made of what it has listed and read
  obtain ⟨outcome, hturns⟩ := hfinished i
  rw [turnsOf_append, turnsOf_cons_self, turnsOf_append, turnsOf_cons_self] at hturns
  obtain ⟨names, reads, pages, template, rfl, hmid, hreads, hindex⟩ := exists_of_saves hturns
  have hturn {x : Exchange} (hx : x ∈ reads ++ [⟨.indexTemplate, .ok template⟩]) :
      (i, x) ∈ (i, ⟨.pageNames, .ok names⟩) :: (mid ++ (i, ⟨.saveIndex index, .ok file⟩) :: rest) :=
    List.mem_cons_of_mem _ (List.mem_append_left _ (mem_turnsOf.1 (hmid ▸ hx)))
  have hlisted : ρ.world.pageNames = .ok names := by
    cases hzs with
    | cons _ answers _ => exact (World.eq_of_answers_pageNames answers).1
  constructor
  · -- the index stays from the time at which it is saved
    have hsplit := hzs
    rw [← List.cons_append] at hpause hsplit
    exact hsplit.index?_of_saveIndex hpause hrest horder
  · -- the same pages are listed and read in the end
    have hnames : τ.world.pageNames = .ok names := hzs.pageNames hpause horder hlisted
      (List.mem_cons_of_mem _ (List.mem_append_right _ List.mem_cons_self))
    have hpages : (τ.world.attempt (Batch.readPages names)).1 = .ok pages := by
      rw [World.attempt, World.run_eq_of_admits hreads fun x hx => ?_]
      obtain ⟨name, hname, page, rfl⟩ := Batch.mem_of_attempts_readPages_ok hreads hx
      have hpage := hzs.readPage hpause horder hlisted hname (hturn (List.mem_append_left _ hx))
      exact Prod.ext hpage rfl
    refine ⟨template, hturn (List.mem_append_right _ (List.mem_singleton_self _)), ?_⟩
    rw [Batch.builtIndex, hnames]
    show Option.bind (τ.world.attempt (Batch.readPages names)).1.toOption _ = _
    rw [hpages]
    show (indexPage s.locale categoryRules template pages).toOption = _
    rw [hindex]
    rfl

/-! ## Two requests -/

/-- The plan of each request. -/
def plansOf (s : Settings) (call : ι → Call) (i : ι) : Plan (Except Failure BatchReport) :=
  ((call i).plan s).run

/-- Requests of whose plans nothing is left are finished. -/
theorem finished_takeTurns {is : List ι}
    (h : ∀ i, isDone ((takeTurns is (plansOf s call) σ).2.1 i) = true) :
    Finished s call (takeTurns is (plansOf s call) σ).1 := by
  intro i
  obtain ⟨outcome, hdone⟩ := exists_eq_done (h i)
  exact ⟨outcome, admits_takeTurns hdone⟩

theorem exists_of_listsPages {x : Exchange} (h : x.listsPages = true) :
    ∃ listing, x = ⟨.pageNames, listing⟩ := by
  obtain ⟨r, answer⟩ := x
  cases r with
  | pageNames => exact ⟨answer, rfl⟩
  | _ => cases h

theorem exists_of_savesIndex {x : Exchange} (h : x.savesIndex = true) :
    ∃ index file, x = ⟨.saveIndex index, .ok file⟩ := by
  obtain ⟨r, answer⟩ := x
  cases r with
  | saveIndex index =>
    rcases answer with e | file
    · cases h
    · exact ⟨index, file, rfl⟩
  | _ => cases h

/-- A request that lists the pages first, and saves the index after all others. -/
theorem exists_savesLast {k : Nat}
    (hlists : (zs.head?.any fun z => decide (z.1 = i) && z.2.listsPages) = true)
    (hsaves : (zs.tail[k]?.any fun z => decide (z.1 = i) && z.2.savesIndex) = true)
    (hrest : ((zs.tail.drop (k + 1)).all fun z => !z.2.savesIndex) = true) :
    ∃ index, SavesLast i index zs := by
  cases zs with
  | nil => cases hlists
  | cons z zs =>
    rw [List.head?_cons, Option.any_some, Bool.and_eq_true, decide_eq_true_eq] at hlists
    rw [List.tail_cons] at hsaves hrest
    rw [Option.any_eq_true] at hsaves
    obtain ⟨y, hy, hsaves⟩ := hsaves
    rw [Bool.and_eq_true, decide_eq_true_eq] at hsaves
    obtain ⟨hk, rfl⟩ := List.getElem?_eq_some_iff.1 hy
    obtain ⟨hi, hlists⟩ := hlists
    obtain ⟨listing, hlisting⟩ := exists_of_listsPages hlists
    obtain ⟨index, file, hsaving⟩ := exists_of_savesIndex hsaves.2
    have hz : z = (i, ⟨.pageNames, listing⟩) := Prod.ext hi hlisting
    have hsaved : zs[k] = (i, ⟨.saveIndex index, .ok file⟩) := Prod.ext hsaves.1 hsaving
    refine ⟨index, listing, zs.take k, file, zs.drop (k + 1), ?_, fun z hz => ?_⟩
    · rw [hz, ← hsaved, List.getElem_cons_drop, List.take_append_drop]
    · simpa using List.all_eq_true.1 hrest z hz

/-- An index template that names the categories of the components. -/
def categoryTemplate : Text :=
  "\x7b% for group in groups %\x7d\n".toList ++ "- \x7b\x7b group.title \x7d\x7d\n".toList ++
  "\x7b% endfor %\x7d\n".toList

/-- A project with one source and an index template, whose pages are kept in a directory that is not there
yet. -/
def oneSource : World where
  disk := { entries := [
    (["src".toList], .directory), (["src".toList, "components".toList], .directory),
    (["src".toList, "components".toList, "X.vue".toList],
      .file { content := .text Batch.bareSource, modified := 0 }),
    ([templateName], .file { content := .text categoryTemplate, modified := 0 })] }
  shelf := .directory Batch.docsDirectory
  templatesDirectory := some Batch.sampleSettings.root

/-- One request for the page of the source, and one for the pages of staged sources. -/
def pageOrIndex (i : Bool) : Call := if i then .staged false else .component "X".toList none

/-- Nobody has loaded an index template. -/
def State.ofWorld (w : World) : State ι := ⟨w, fun _ => none⟩

/-- The page is saved and the other request is about to list the pages. -/
def pageFirst : List (Bool × Exchange) × (Bool → Plan (Except Failure BatchReport)) × State Bool :=
  takeTurns (List.replicate 6 false ++ List.replicate 3 true)
    (plansOf Batch.sampleSettings pageOrIndex) (State.ofWorld oneSource)

/-- Both list the pages, and the request for the page saves the index last. -/
def indexAfter : List (Bool × Exchange) × (Bool → Plan (Except Failure BatchReport)) × State Bool :=
  takeTurns [false, true, false, true, true, true, false, true, false, false]
    pageFirst.2.1 pageFirst.2.2

/-- The index mirrors the pages when the page has been saved first. -/
theorem mirrors_indexAfter :
    ∃ index, indexAfter.2.2.world.index? = some (.text index) ∧
      ∃ template, (false, ⟨.indexTemplate, .ok template⟩) ∈ indexAfter.1 ∧
        Batch.builtIndex Batch.sampleSettings template indexAfter.2.2.world = some index := by
  have hrun : (∀ i, isDone (indexAfter.2.1 i) = true) ∧
      (∀ z ∈ indexAfter.1, z.2.savesPage = false) ∧
      (indexAfter.1.head?.any fun z => decide (z.1 = false) && z.2.listsPages) = true ∧
      (indexAfter.1.tail[7]?.any fun z => decide (z.1 = false) && z.2.savesIndex) = true ∧
      ((indexAfter.1.tail.drop 8).all fun z => !z.2.savesIndex) = true ∧
      indexAfter.2.2.world.disk.isDirectory Batch.docsDirectory.directory = .ok true ∧
      ∀ q ∈ Batch.docsDirectory.pageFiles indexAfter.2.2.world.disk,
        (q.name ≠ pageSuffix ∧ '/' ∉ q.name) ∧
          indexAfter.2.2.world.logPlace? ≠ some (indexAfter.2.2.world.disk.placeOf q) := by
    decide +kernel
  obtain ⟨hdone, hsaves, hlists, hsaved, hrest, hdir, hclear⟩ := hrun
  have hkeeps : Serves World.KeepsPages pageFirst.2.2 indexAfter.1 indexAfter.2.2 :=
    (serves_takeTurns _ _ _).keepsPages hsaves
  have hfinished : Finished Batch.sampleSettings pageOrIndex (pageFirst.1 ++ indexAfter.1) := by
    have hwhole := takeTurns_append (List.replicate 6 false ++ List.replicate 3 true)
      [false, true, false, true, true, true, false, true, false, false]
      (plansOf Batch.sampleSettings pageOrIndex) (State.ofWorld oneSource)
    have hturns : pageFirst.1 ++ indexAfter.1 = _ := (congrArg Prod.fst hwhole).symm
    rw [hturns]
    refine finished_takeTurns ?_
    rw [hwhole]
    exact hdone
  have horder : World.Orderly oneSource indexAfter.2.2.world := by
    intro pages hshelf
    obtain rfl : Batch.docsDirectory = pages := Shelf.directory.inj hshelf
    exact ⟨⟨by decide, by decide, by decide, by decide⟩,
      Disk.sound_of_forall (by decide) (by decide), .inr (by decide), nofun,
      PageDirectory.clear_of_forall hdir hclear⟩
  obtain ⟨index, hlast⟩ := exists_savesLast hlists hsaved hrest
  exact ⟨index, mirrors_of_serves hfinished (serves_takeTurns _ _ _) hkeeps hlast horder⟩

/-- The pages are listed before the page is saved, and the index is saved after it. -/
def indexFirst : List (Bool × Exchange) × (Bool → Plan (Except Failure BatchReport)) × State Bool :=
  takeTurns (List.replicate 5 true ++ List.replicate 11 false ++ [true, true])
    (plansOf Batch.sampleSettings pageOrIndex) (State.ofWorld oneSource)

/-- The project with a page and without an index. -/
def onePage : World :=
  { oneSource with disk := { oneSource.disk with entries := oneSource.disk.entries ++
    [(["docs".toList], .directory),
      (["docs".toList, "X.md".toList], .file { content := .text "# X\n".toList, modified := 0 })] } }

/-- Both ask for the page of a component that has no source. -/
def refused : List (Bool × Exchange) × (Bool → Plan (Except Failure BatchReport)) × State Bool :=
  takeTurns [true, true, false, false]
    (plansOf Batch.sampleSettings fun _ => .component "Y".toList none) (State.ofWorld onePage)

/-- The index does not always mirror the pages. One that is made of the pages listed before another request
has saved its page may be saved after that; and requests that are refused save no index at all. -/
theorem not_mirrors :
    (∃ zs τ, Serves anything (State.ofWorld oneSource) zs τ ∧
      Finished Batch.sampleSettings pageOrIndex zs ∧
      (Batch.builtIndex Batch.sampleSettings categoryTemplate τ.world).isSome = true ∧
      τ.world.index? ≠
        (Batch.builtIndex Batch.sampleSettings categoryTemplate τ.world).map .text) ∧
    ∃ zs τ, Serves anything (State.ofWorld onePage) zs τ ∧
      Finished Batch.sampleSettings (fun _ : Bool => .component "Y".toList none) zs ∧
      (Batch.builtIndex Batch.sampleSettings categoryTemplate τ.world).isSome = true ∧
      τ.world.index? ≠
        (Batch.builtIndex Batch.sampleSettings categoryTemplate τ.world).map .text := by
  have hfirst : (∀ i, isDone (indexFirst.2.1 i) = true) ∧
      (Batch.builtIndex Batch.sampleSettings categoryTemplate indexFirst.2.2.world).isSome = true ∧
      indexFirst.2.2.world.index? ≠
        (Batch.builtIndex Batch.sampleSettings categoryTemplate indexFirst.2.2.world).map .text := by
    decide +kernel
  have hrefused : (∀ i, isDone (refused.2.1 i) = true) ∧
      (Batch.builtIndex Batch.sampleSettings categoryTemplate refused.2.2.world).isSome = true ∧
      refused.2.2.world.index? ≠
        (Batch.builtIndex Batch.sampleSettings categoryTemplate refused.2.2.world).map .text := by
    decide +kernel
  exact ⟨⟨_, _, serves_takeTurns _ _ _, finished_takeTurns hfirst.1, hfirst.2⟩,
    _, _, serves_takeTurns _ _ _, finished_takeTurns hrefused.1, hrefused.2⟩

end Service

end ComponentBook
