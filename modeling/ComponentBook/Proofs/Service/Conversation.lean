import Mathlib.Data.List.Basic
import ComponentBook.Proofs.Batch.Conversation
import ComponentBook.Service.Call

/-! # The conversation of a call

What a call asks for first concerns the sources and the repository; then it comes to a run, or ends without
one (**`LeadsToRun`**, **`leadsToRun_of_attempts`**). So the index is rebuilt once at most: an index that a
call saves is made of the pages that it has listed and read before (**`exists_of_saves`**). -/

namespace ComponentBook.Service

open Plan (Admits Attempts admits_bind admits_pure admits_request admits_request_bind attempts_bind
  attempts_lift attempts_pure attempts_tell)

variable {s : Settings} {call : Call} {xs ys zs : List Exchange}
  {outcome : Except Failure BatchReport}

/-- What is asked for before a run. -/
def before : List Concern := [.record, .source, .repository]

/-- A conversation that comes to a run, or ends without one. -/
def LeadsToRun (s : Settings) (xs : List Exchange) : Prop :=
  ∃ ys zs, xs = ys ++ zs ∧ (∀ x ∈ ys, x.concern ∈ before) ∧
    (zs = [] ∨ ∃ paths staging outcome, Attempts (Batch.run s paths staging) zs outcome)

/-- An exchange alone. -/
theorem concern_of_mem_singleton {x : Exchange} (c : Concern) (hx : x.concern = c)
    (hc : c ∈ before) : ∀ y ∈ [x], y.concern ∈ before := by
  refine List.forall_mem_singleton.2 ?_
  rw [hx]
  exact hc

theorem leadsToRun_of_concern (h : ∀ x ∈ xs, x.concern ∈ before) : LeadsToRun s xs :=
  ⟨xs, [], (List.append_nil xs).symm, h, .inl rfl⟩

theorem leadsToRun_of_run {paths : List Path} {staging : Option Bool}
    (h : Attempts (Batch.run s paths staging) xs outcome) : LeadsToRun s xs :=
  ⟨[], xs, rfl, List.forall_mem_nil _, .inr ⟨paths, staging, outcome, h⟩⟩

/-- What is asked for before a run may be asked for in front of what leads to one. -/
theorem leadsToRun_of_bind {α : Type} {p : ExceptT Failure Plan α}
    {f : α → ExceptT Failure Plan BatchReport} (h : Attempts (p >>= f) xs outcome)
    (hp : ∀ ys result, Attempts p ys result → ∀ y ∈ ys, y.concern ∈ before)
    (hf : ∀ a zs, Attempts (f a) zs outcome → LeadsToRun s zs) : LeadsToRun s xs := by
  rcases attempts_bind.1 h with ⟨e, hys, -⟩ | ⟨a, ys, zs, hys, hzs, rfl⟩
  · exact leadsToRun_of_concern (hp _ _ hys)
  · obtain ⟨front, run, rfl, hfront, hrun⟩ := hf a zs hzs
    refine ⟨ys ++ front, run, (List.append_assoc ..).symm, ?_, hrun⟩
    exact List.forall_mem_append.2 ⟨hp _ _ hys, hfront⟩

theorem concern_of_attempts_tell {level : Log.Level} {part : String} {message : Text}
    (ys : List Exchange) (result : Except Failure Unit)
    (h : Attempts (liftM (Plan.tell level part message)) ys result) :
    ∀ y ∈ ys, y.concern ∈ before := by
  obtain ⟨rfl, -⟩ := attempts_tell.1 h
  exact concern_of_mem_singleton .record rfl (by decide)

/-! ## The calls -/

theorem leadsToRun_of_all {staging : Option Bool} (h : Attempts (Batch.all s staging) xs outcome) :
    LeadsToRun s xs := by
  rw [Batch.all] at h
  refine leadsToRun_of_bind h (fun ys result hfiles => ?_) fun files zs hrest => ?_
  · obtain rfl := admits_request.1 hfiles
    exact concern_of_mem_singleton .source rfl (by decide)
  · exact leadsToRun_of_bind hrest concern_of_attempts_tell fun _ _ => leadsToRun_of_run

theorem leadsToRun_of_component {name : Text} {staging : Option Bool}
    (h : Attempts (Batch.component s name staging) xs outcome) : LeadsToRun s xs := by
  rw [Batch.component] at h
  refine leadsToRun_of_bind h (fun ys result hfound => ?_) fun found zs hrest => ?_
  · obtain rfl := admits_request.1 hfound
    exact concern_of_mem_singleton .source rfl (by decide)
  · cases found with
    | none =>
      obtain ⟨rfl, -⟩ := admits_pure.1 hrest
      exact leadsToRun_of_concern (List.forall_mem_nil _)
    | some path => exact leadsToRun_of_run hrest

theorem leadsToRun_of_unnameable (h : Attempts (Batch.unnameable s) xs outcome) :
    LeadsToRun s xs := by
  rw [Batch.unnameable] at h
  refine leadsToRun_of_bind h (fun ys result hfiles => ?_) fun files zs hrest => ?_
  · obtain rfl := admits_request.1 hfiles
    exact concern_of_mem_singleton .source rfl (by decide)
  · obtain ⟨rfl, -⟩ := admits_pure.1 hrest
    exact leadsToRun_of_concern (List.forall_mem_nil _)

theorem concern_of_attempts_presentFiles {paths : List Path} (ys : List Exchange)
    (result : Except Failure (List Path)) (h : Attempts (Batch.presentFiles paths) ys result) :
    ∀ y ∈ ys, y.concern ∈ before := by
  induction paths generalizing ys result with
  | nil =>
    obtain ⟨rfl, -⟩ := attempts_pure.1 h
    exact List.forall_mem_nil _
  | cons path paths ih =>
    rw [Batch.presentFiles] at h
    rcases attempts_bind.1 h with ⟨e, hasked, -⟩ | ⟨present, front, rest, hasked, hrest, rfl⟩
    · obtain rfl := admits_request.1 hasked
      exact concern_of_mem_singleton .source rfl (by decide)
    · obtain rfl := admits_request.1 hasked
      refine List.forall_mem_append.2 ⟨concern_of_mem_singleton .source rfl (by decide), ?_⟩
      rcases attempts_bind.1 hrest with ⟨e, hpaths, -⟩ | ⟨_, front, done, hpaths, hdone, rfl⟩
      · exact ih _ _ hpaths
      · obtain ⟨rfl, -⟩ := attempts_pure.1 hdone
        rw [List.append_nil]
        exact ih _ _ hpaths

theorem concern_of_admits_stagedSources {root directory : Path} {extension : Text}
    {sources : Except Git.Failure (List Path)}
    (h : (Batch.stagedSources root directory extension).Admits xs sources) :
    ∀ x ∈ xs, x.concern ∈ before := by
  obtain ⟨listed, ys, zs, hlist, hrest, rfl⟩ := admits_bind.1 h
  -- git is asked, and then where it has been asked
  have hasked : ∀ y ∈ ys, y.concern ∈ before := by
    obtain ⟨answer, rest, rfl, hdone⟩ := admits_request_bind.1 hlist
    have hnone : rest = [] := by
      rcases answer with cause | listing
      · exact (admits_pure.1 hdone).1
      · exact (admits_pure.1 hdone).1
    rw [hnone]
    exact concern_of_mem_singleton .repository rfl (by decide)
  refine List.forall_mem_append.2 ⟨hasked, ?_⟩
  rcases listed with e | listing
  · obtain ⟨rfl, -⟩ := admits_pure.1 hrest
    exact List.forall_mem_nil _
  · obtain ⟨here, rest, rfl, hdone⟩ := admits_request_bind.1 hrest
    obtain ⟨rfl, -⟩ := admits_pure.1 hdone
    exact concern_of_mem_singleton .repository rfl (by decide)

theorem leadsToRun_of_staged {staging : Option Bool}
    (h : Attempts (Batch.staged s staging) xs outcome) : LeadsToRun s xs := by
  rw [Batch.staged] at h
  refine leadsToRun_of_bind h (fun ys result hsources => ?_) fun sources zs hrest => ?_
  · obtain ⟨_, hsources, -⟩ := attempts_lift.1 hsources
    exact concern_of_admits_stagedSources hsources
  rcases sources with e | candidates
  · obtain ⟨rfl, -⟩ := admits_pure.1 hrest
    exact leadsToRun_of_concern (List.forall_mem_nil _)
  refine leadsToRun_of_bind hrest (fun ys result hpure => ?_) fun candidates zs hfiles => ?_
  · obtain ⟨rfl, -⟩ := attempts_pure.1 hpure
    exact List.forall_mem_nil _
  refine leadsToRun_of_bind hfiles concern_of_attempts_presentFiles fun files zs htold => ?_
  have hrun {zs : List Exchange} {message : Text}
      (h : Attempts (do Plan.tell .info Batch.part message; Batch.run s files staging) zs outcome) :
      LeadsToRun s zs :=
    leadsToRun_of_bind h concern_of_attempts_tell fun _ _ => leadsToRun_of_run
  -- some paths may be told to be skipped first
  dsimp only at htold
  split at htold
  · exact leadsToRun_of_bind htold concern_of_attempts_tell fun _ _ => hrun
  · exact hrun htold

/-- **A call leads to one run at most.** -/
theorem leadsToRun_of_attempts (h : Attempts (call.plan s) xs outcome) : LeadsToRun s xs := by
  cases call with
  | all staging => exact leadsToRun_of_all h
  | component name staging => exact leadsToRun_of_component h
  | unnameable name => exact leadsToRun_of_unnameable h
  | staged staging => exact leadsToRun_of_staged h

/-! ## The index of a call -/

/-- While a call is answered nobody is given time to change files. -/
theorem concern_of_attempts (h : Attempts (call.plan s) xs outcome) :
    ∀ x ∈ xs, x.concern ≠ .pause := by
  obtain ⟨front, run, rfl, hfront, hrun⟩ := leadsToRun_of_attempts h
  refine List.forall_mem_append.2 ⟨fun x hx => ?_, ?_⟩
  · exact ne_of_mem_of_not_mem (hfront x hx) (by decide)
  · rcases hrun with rfl | ⟨paths, staging, outcome, hrun⟩
    · exact List.forall_mem_nil _
    · exact Batch.concern_of_attempts_run hrun

/-- A call that has to do with the index rebuilds it, and has to do with it only then. -/
theorem exists_indexTalk_of_attempts (h : Attempts (call.plan s) xs outcome)
    {y : Exchange} (hy : y ∈ xs) (hindex : y.concern = .index) :
    ∃ front talk written rest, xs = front ++ (talk ++ rest) ∧ Batch.IndexTalk s talk written ∧
      (∀ x ∈ front, x.concern ≠ .index) ∧ ∀ x ∈ rest, x.concern ≠ .index := by
  obtain ⟨front, run, rfl, hfront, hrun⟩ := leadsToRun_of_attempts h
  -- nothing in front of a run has to do with the index
  have hfront : ∀ x ∈ front, x.concern ≠ .index :=
    fun x hx => ne_of_mem_of_not_mem (hfront x hx) (by decide)
  rcases hrun with rfl | ⟨paths, staging, outcome, hrun⟩
  · rw [List.append_nil] at hy
    exact absurd hindex (hfront y hy)
  obtain ⟨files, index, staged, after, done, htalk, rfl⟩ := Batch.exists_of_attempts_run hrun
  obtain ⟨talk, written, told, hindexTalk, rfl, -⟩ := Batch.exists_of_admits_rebuildIndex htalk.index
  refine ⟨front ++ files, talk, written, Batch.told [told] ++ (staged ++ Batch.told after),
    by simp only [List.append_assoc], hindexTalk, ?_, ?_⟩
  · refine List.forall_mem_append.2 ⟨hfront, fun x hx => ?_⟩
    exact ne_of_mem_of_not_mem (Batch.concern_of_admits_documentFiles htalk.files x hx) (by decide)
  · have htold {records : List Log.Record} : ∀ x ∈ Batch.told records, x.concern ≠ .index := by
      intro x hx
      rw [Batch.concern_of_mem_told hx]
      decide
    refine List.forall_mem_append.2 ⟨htold, List.forall_mem_append.2 ⟨fun x hx => ?_, htold⟩⟩
    exact ne_of_mem_of_not_mem (htalk.concern_staged x hx) (by decide)

/-- **What index a call saves.** It is made of the pages that the call has listed and read before. -/
theorem exists_of_saves {listing : Except Failure (List Text)} {index : Text}
    {answer : Except Failure (Option Path)}
    (h : Attempts (call.plan s)
      (xs ++ ⟨.pageNames, listing⟩ :: (ys ++ ⟨.saveIndex index, answer⟩ :: zs)) outcome) :
    ∃ names reads pages template, listing = .ok names ∧
      ys = reads ++ [⟨.indexTemplate, .ok template⟩] ∧
      Attempts (Batch.readPages names) reads (.ok pages) ∧
      indexPage s.locale categoryRules template pages = .ok index := by
  have hlisted : (⟨.pageNames, listing⟩ : Exchange) ∈
      xs ++ ⟨.pageNames, listing⟩ :: (ys ++ ⟨.saveIndex index, answer⟩ :: zs) :=
    List.mem_append_right _ List.mem_cons_self
  obtain ⟨front, talk, written, rest, hxs, htalk, hfront, hrest⟩ :=
    exists_indexTalk_of_attempts h hlisted rfl
  obtain ⟨listing', tail, rfl, -⟩ := htalk.exists_eq_cons
  -- the pages are listed once
  have hnot : (⟨.pageNames, listing⟩ : Exchange) ∉ tail ++ rest := by
    intro hmem
    rcases List.mem_append.1 hmem with hmem | hmem
    · exact htalk.pageNames_not_mem hmem
    · exact hrest _ hmem rfl
  obtain ⟨-, heq, hsame⟩ :=
    (List.append_cons_inj_of_notMem (fun hmem => hfront _ hmem rfl) hnot).1 hxs.symm
  cases heq
  -- and the index is saved once
  have hsaved : (⟨.saveIndex index, answer⟩ : Exchange) ∈ tail := by
    have hmem : (⟨.saveIndex index, answer⟩ : Exchange) ∈ tail ++ rest := by
      rw [hsame]
      exact List.mem_append_right _ List.mem_cons_self
    rcases List.mem_append.1 hmem with hmem | hmem
    · exact hmem
    · exact absurd rfl (hrest _ hmem)
  obtain ⟨names, reads, pages, template, rfl, rfl, hreads, hindex⟩ := htalk.exists_of_saveIndex hsaved
  have hnot : (⟨.saveIndex index, answer⟩ : Exchange) ∉ reads ++ [⟨.indexTemplate, .ok template⟩] := by
    intro hmem
    rcases List.mem_append.1 hmem with hmem | hmem
    · exact Batch.saveIndex_not_mem_of_attempts_readPages hreads hmem
    · cases List.mem_singleton.1 hmem
  have hsplit : (reads ++ [⟨.indexTemplate, .ok template⟩]) ++ ⟨.saveIndex index, answer⟩ :: rest =
      ys ++ ⟨.saveIndex index, answer⟩ :: zs := by
    rw [← hsame]
    simp only [List.append_assoc, List.cons_append, List.nil_append]
  obtain ⟨hfront, -, -⟩ :=
    (List.append_cons_inj_of_notMem hnot fun hmem => hrest _ hmem rfl).1 hsplit
  exact ⟨names, reads, pages, template, rfl, hfront.symm, hreads, hindex⟩

end ComponentBook.Service
