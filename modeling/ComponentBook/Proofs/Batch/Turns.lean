import ComponentBook.Proofs.Batch.Confinement
import ComponentBook.Proofs.Batch.Conversation
import ComponentBook.Proofs.World.Conversation

/-! # The turns of the sources

A run gives each of its sources a turn (**`Turn`**), one after another (**`Turns`**,
`turns_of_admits`). Every source is read once and reported once (`Turns.source?`, `Turns.map_path`); one
that cannot be documented changes no file but that of the log, and stops none of those behind it. -/

namespace ComponentBook.Batch

open World (Rewrites)

variable {s : Settings} {u v w : World} {path : Path} {paths : List Path} {x : Exchange}
  {xs : List Exchange}

/-! ## The turn of a source -/

/-- A source has its turn: it is read, and its page is saved if the report tells of success. Apart from
its page and the log nothing is concerned, and nothing at all is changed when it cannot be
documented. -/
structure Turn (s : Settings) (path : Path) (w : World) (report : FileReport) (xs : List Exchange)
    (v : World) : Prop where
  admits : (documentFile s path).Admits xs report
  converses : w.Converses xs v
  reported : report.path = path.text
  read : xs.filterMap Exchange.source? = [path]
  saved : report.success = true ↔ ∃ x ∈ xs, x.savesPage = true
  file : ∀ p, report.pagePath = some p →
    ∃ name page, (⟨.savePage name page, .ok (some p)⟩ : Exchange) ∈ xs
  concern : ∀ x ∈ xs, x.concern ∈ [.record, .source, .page, .newPage]
  kept : report.success = false → v.shelf = w.shelf ∧ ∀ l, ¬ Changed w v l

/-- The turns of some sources, one after another. -/
inductive Turns (s : Settings) :
    World → List Path → List FileReport → List Exchange → World → Prop
  | nil (w : World) : Turns s w [] [] [] w
  | cons {w u v : World} {path : Path} {paths : List Path} {report : FileReport}
      {reports : List FileReport} {xs ys : List Exchange} (first : Turn s path w report xs u)
      (rest : Turns s u paths reports ys v) :
      Turns s w (path :: paths) (report :: reports) (xs ++ ys) v

/-- What saves nothing changes no file but that of the log. -/
theorem kept_of_rewrites (h : Rewrites [] w v) : v.shelf = w.shelf ∧ ∀ l, ¬ Changed w v l :=
  ⟨h.shelf, fun l hl => hl.2 (h.disk.contentAt? l hl.1)⟩

theorem savesPage_of_mem_told {records : List Log.Record} (hx : x ∈ told records) :
    x.savesPage = false := by
  refine Exchange.savesPage_eq_false ?_
  rw [concern_of_mem_told hx]
  decide

namespace PageTalk

variable {outcome : Except Failure (Text × Option Path)}

theorem source? (h : PageTalk s path xs outcome) : xs.filterMap Exchange.source? = [path] := by
  cases h with
  | unread e => rfl
  | unopened source e => rfl
  | saved source old kept outcome =>
    rw [List.filterMap_append, List.filterMap_cons, List.filterMap_cons, source?_told]
    rfl

/-- A page is saved when something comes of it. -/
theorem exists_savesPage_iff (h : PageTalk s path xs outcome) :
    (∃ x ∈ xs, x.savesPage = true) ↔ ∃ result, outcome = .ok result := by
  cases h with
  | unread e => simp [Exchange.savesPage]
  | unopened source e => simp [Exchange.savesPage]
  | saved source old kept outcome =>
    constructor
    · rintro ⟨x, hx, hsaves⟩
      simp only [List.mem_append, List.mem_cons, List.not_mem_nil, or_false] at hx
      rcases hx with (rfl | rfl | hx) | rfl
      · cases hsaves
      · cases hsaves
      · rw [savesPage_of_mem_told hx] at hsaves
        cases hsaves
      · rcases outcome with e | file
        · cases hsaves
        · exact ⟨_, rfl⟩
    · rintro ⟨result, hresult⟩
      rcases outcome with e | file
      · cases hresult
      · exact ⟨_, List.mem_append_right _ (List.mem_singleton_self _), rfl⟩

theorem mem_of_file {name : Text} {file : Option Path} (h : PageTalk s path xs (.ok (name, file))) :
    ∃ page, (⟨.savePage name page, .ok file⟩ : Exchange) ∈ xs := by
  generalize houtcome : (.ok (name, file) : Except Failure (Text × Option Path)) = outcome at h
  cases h with
  | unread e => cases houtcome
  | unopened source e => cases houtcome
  | saved source old kept outcome =>
    rcases outcome with e | saved
    · cases houtcome
    · obtain ⟨rfl, rfl⟩ := Prod.mk.inj (Except.ok.inj houtcome)
      exact ⟨_, List.mem_append_right _ (List.mem_singleton_self _)⟩

end PageTalk

theorem turn_of_admits {report : FileReport} (h : (documentFile s path).Admits xs report)
    (hw : w.Converses xs v) : Turn s path w report xs v := by
  have hconcern := concern_of_admits_documentFile h
  obtain ⟨before, ys, outcome, after, htalk, rfl, rfl⟩ := exists_of_admits_documentFile h
  -- the records in front and behind save no page
  have hsaves : (∃ x ∈ told [before] ++ ys ++ told [after], x.savesPage = true) ↔
      ∃ result, outcome = .ok result := by
    rw [← htalk.exists_savesPage_iff]
    constructor
    · rintro ⟨x, hx, hsaves⟩
      rcases List.mem_append.1 hx with hx | hx
      · rcases List.mem_append.1 hx with hx | hx
        · rw [savesPage_of_mem_told hx] at hsaves
          cases hsaves
        · exact ⟨x, hx, hsaves⟩
      · rw [savesPage_of_mem_told hx] at hsaves
        cases hsaves
    · rintro ⟨x, hx, hsaves⟩
      exact ⟨x, List.mem_append_left _ (List.mem_append_right _ hx), hsaves⟩
  refine ⟨h, hw, ?_, ?_, ?_, fun p hp => ?_, hconcern, fun hfailed => ?_⟩
  · rcases outcome with e | ⟨name, file⟩ <;> rfl
  · rw [List.filterMap_append, List.filterMap_append, source?_told, source?_told, htalk.source?]
    rfl
  · rw [hsaves]
    rcases outcome with e | ⟨name, file⟩
    · exact ⟨nofun, nofun⟩
    · exact ⟨fun _ => ⟨_, rfl⟩, fun _ => rfl⟩
  · rcases outcome with e | ⟨name, file⟩
    · cases hp
    · obtain rfl : file = some p := hp
      obtain ⟨page, hpage⟩ := htalk.mem_of_file
      exact ⟨name, page, List.mem_append_left _ (List.mem_append_right _ hpage)⟩
  · refine kept_of_rewrites (World.rewrites_of_converses hw fun x hx => ⟨?_, ?_, ?_⟩)
    · refine Bool.eq_false_iff.2 fun hpage => ?_
      obtain ⟨result, rfl⟩ := hsaves.1 ⟨x, hx, hpage⟩
      cases hfailed
    · exact Exchange.savesIndex_eq_false (ne_of_mem_of_not_mem (hconcern x hx) (by decide))
    · exact ne_of_mem_of_not_mem (hconcern x hx) (by decide)

theorem turns_of_admits {reports : List FileReport}
    (h : (Plan.forEach (documentFile s) paths).Admits xs reports) (hw : w.Converses xs v) :
    Turns s w paths reports xs v := by
  -- each source has its turn in the surroundings that those in front of it leave
  induction paths generalizing w xs reports with
  | nil =>
    obtain ⟨rfl, rfl⟩ := Plan.admits_pure.1 h
    cases hw
    exact .nil _
  | cons path paths ih =>
    obtain ⟨report, rest, ys, zs, hfirst, hrest, rfl, rfl⟩ := Plan.admits_forEach_cons.1 h
    obtain ⟨u, hys, hzs⟩ := World.converses_append.1 hw
    exact .cons (turn_of_admits hfirst hys) (ih hrest hzs)

namespace Turns

variable {reports : List FileReport}

/-- There is one report for each source, in their order. -/
theorem map_path (h : Turns s w paths reports xs v) :
    reports.map (·.path) = paths.map Path.text := by
  induction h with
  | nil => rfl
  | cons first _ ih => rw [List.map_cons, List.map_cons, first.reported, ih]

/-- Every source is read once, in their order. -/
theorem source? (h : Turns s w paths reports xs v) : xs.filterMap Exchange.source? = paths := by
  induction h with
  | nil => rfl
  | cons first _ ih =>
    rw [List.filterMap_append, first.read, ih]
    rfl

/-- The file of a page is that of a page that has been saved. -/
theorem exists_savePage (h : Turns s w paths reports xs v) {p : Path}
    (hp : p ∈ reports.filterMap (·.pagePath)) :
    ∃ name page, (⟨.savePage name page, .ok (some p)⟩ : Exchange) ∈ xs := by
  induction h with
  | nil => cases hp
  | @cons w u v path paths report reports xs ys first _ ih =>
    obtain ⟨r, hr, hfile⟩ := List.mem_filterMap.1 hp
    rcases List.mem_cons.1 hr with rfl | hr
    · obtain ⟨name, page, hmem⟩ := first.file p hfile
      exact ⟨name, page, List.mem_append_left _ hmem⟩
    · obtain ⟨name, page, hmem⟩ := ih (List.mem_filterMap.2 ⟨r, hr, hfile⟩)
      exact ⟨name, page, List.mem_append_right _ hmem⟩

end Turns

end ComponentBook.Batch
