import ComponentBook.Proofs.Batch.Run
import ComponentBook.Proofs.Plan.Conversation

/-! # The conversation of a run

All that a run can ask for, and what it makes of the answers, whoever answers and however: one inversion
for each plan. A source is read once, then the page of its component, then a new page is saved
(**`PageTalk`**); the index is rebuilt by listing the pages, reading each of them, and saving what the
template makes of them (**`IndexTalk`**); files are staged by one command (**`StagingTalk`**).
**`RunTalk`** takes the conversation of a run apart into these and says how the run ends
(**`Concludes`**); what each part is about is said by `concern_of_admits_documentFile`,
`concern_of_admits_rebuildIndex` and `StagingTalk.concern`. -/

namespace ComponentBook.Batch

open Plan (Admits Attempts admits_bind admits_pure admits_request admits_tell_bind attempts_bind
  attempts_lift_bind attempts_pure attempts_request_bind attempts_tell_bind)

variable {s : Settings} {path : Path} {x : Exchange} {xs : List Exchange}

/-- Some records told in the log. -/
def told (records : List Log.Record) : List Exchange := records.map fun r => ⟨.log r, ()⟩

theorem concern_of_mem_told {records : List Log.Record} (hx : x ∈ told records) :
    x.concern = .record := by
  obtain ⟨r, -, rfl⟩ := List.mem_map.1 hx
  rfl

@[simp] theorem source?_told (records : List Log.Record) :
    (told records).filterMap Exchange.source? = [] := by
  refine List.filterMap_eq_nil_iff.2 fun x hx => Exchange.source?_eq_none ?_
  rw [concern_of_mem_told hx]
  decide

@[simp] theorem command?_told (records : List Log.Record) :
    (told records).filterMap Exchange.command? = [] := by
  refine List.filterMap_eq_nil_iff.2 fun x hx => Exchange.command?_eq_none ?_
  rw [concern_of_mem_told hx]
  decide

/-! ## Documenting a source -/

/-- What is said while the page of a source is made and saved, and what comes of it. -/
inductive PageTalk (s : Settings) (path : Path) :
    List Exchange → Except Failure (Text × Option Path) → Prop
  /-- The source cannot be read. -/
  | unread (e : Failure) : PageTalk s path [⟨.readSource path, .error e⟩] (.error e)
  /-- The page that its component has cannot be read. -/
  | unopened (source : Text) (e : Failure) :
      PageTalk s path [⟨.readSource path, .ok source⟩,
        ⟨.readPage (describe s source path.stem).name, .error e⟩] (.error e)
  /-- The new page is saved, or cannot be saved. -/
  | saved (source : Text) (old : Option Text) (kept : List Log.Record)
      (outcome : Except Failure (Option Path)) :
      PageTalk s path (⟨.readSource path, .ok source⟩ ::
        ⟨.readPage (describe s source path.stem).name, .ok old⟩ :: told kept ++
        [⟨.savePage (describe s source path.stem).name
          (newPage s old (describe s source path.stem)), outcome⟩])
        (outcome.map fun file => ((describe s source path.stem).name, file))

theorem attempts_document {source fallback : Text} {outcome : Except Failure (Component × Text)}
    (h : Attempts (document s source fallback) xs outcome) :
    (∃ e, xs = [⟨.readPage (describe s source fallback).name, .error e⟩] ∧ outcome = .error e) ∨
    ∃ old kept, xs = ⟨.readPage (describe s source fallback).name, .ok old⟩ :: told kept ∧
      outcome = .ok (describe s source fallback, newPage s old (describe s source fallback)) := by
  rw [document] at h
  rcases attempts_bind.1 h with ⟨e, hread, rfl⟩ | ⟨old, ys, zs, hread, hrest, rfl⟩
  · exact .inl ⟨e, admits_request.1 hread, rfl⟩
  · obtain rfl := admits_request.1 hread
    right
    dsimp only at hrest
    split at hrest
    · obtain ⟨ys, rfl, hdone⟩ := attempts_tell_bind.1 hrest
      obtain ⟨rfl, rfl⟩ := attempts_pure.1 hdone
      exact ⟨old, [_], rfl, rfl⟩
    · obtain ⟨rfl, rfl⟩ := attempts_pure.1 hrest
      exact ⟨old, [], rfl, rfl⟩

theorem pageTalk_of_attempts {outcome : Except Failure (Text × Option Path)}
    (h : Attempts (writePage s path) xs outcome) : PageTalk s path xs outcome := by
  rw [writePage] at h
  -- the source is read, then the page that is there, and the new one is saved; each may fail
  rcases attempts_bind.1 h with ⟨e, hread, rfl⟩ | ⟨source, ys, zs, hread, hrest, rfl⟩
  · obtain rfl := admits_request.1 hread
    exact .unread e
  obtain rfl := admits_request.1 hread
  rcases attempts_bind.1 hrest with ⟨e, hdocument, rfl⟩ | ⟨⟨c, page⟩, ys, zs, hdocument, hsave, rfl⟩
  · rcases attempts_document hdocument with ⟨e, rfl, he⟩ | ⟨old, kept, -, hok⟩
    · obtain rfl := Except.error.inj he
      exact .unopened source e
    · cases hok
  rcases attempts_document hdocument with ⟨e, -, he⟩ | ⟨old, kept, rfl, hok⟩
  · cases he
  obtain ⟨rfl, rfl⟩ := Prod.mk.inj (Except.ok.inj hok)
  dsimp only at hsave
  rcases attempts_bind.1 hsave with ⟨e, hrequest, rfl⟩ | ⟨file, ys, zs, hrequest, hdone, rfl⟩
  · obtain rfl := admits_request.1 hrequest
    exact .saved source old kept (.error e)
  · obtain rfl := admits_request.1 hrequest
    obtain ⟨rfl, rfl⟩ := attempts_pure.1 hdone
    exact .saved source old kept (.ok file)

theorem PageTalk.concern {outcome : Except Failure (Text × Option Path)}
    (h : PageTalk s path xs outcome) :
    ∀ x ∈ xs, x.concern ∈ [.record, .source, .page, .newPage] := by
  intro x hx
  cases h with
  | unread e =>
    obtain rfl := List.mem_singleton.1 hx
    simp [Exchange.concern]
  | unopened source e =>
    simp only [List.mem_cons, List.not_mem_nil, or_false] at hx
    rcases hx with rfl | rfl <;> simp [Exchange.concern]
  | saved source old kept outcome =>
    simp only [List.mem_append, List.mem_cons, List.not_mem_nil, or_false] at hx
    rcases hx with (rfl | rfl | hx) | rfl
    · simp [Exchange.concern]
    · simp [Exchange.concern]
    · simp [concern_of_mem_told hx]
    · simp [Exchange.concern]

/-- The report of a source, from what came of it. -/
def reportOf (path : Path) : Except Failure (Text × Option Path) → FileReport
  | .error e => failedReport path e
  | .ok (name, file) => writtenReport path name file

/-- A source is documented between two records. -/
theorem exists_of_admits_documentFile {report : FileReport}
    (h : (documentFile s path).Admits xs report) :
    ∃ before ys outcome after, PageTalk s path ys outcome ∧
      xs = told [before] ++ ys ++ told [after] ∧ report = reportOf path outcome := by
  obtain ⟨told, rfl, hrest⟩ := admits_tell_bind.1 h
  obtain ⟨outcome, ys, zs, hpage, hend, rfl⟩ := admits_bind.1 hrest
  have htalk := pageTalk_of_attempts hpage
  rcases outcome with e | ⟨name, file⟩
  · obtain ⟨zs, rfl, hdone⟩ := admits_tell_bind.1 hend
    obtain ⟨rfl, rfl⟩ := admits_pure.1 hdone
    exact ⟨_, ys, _, _, htalk, rfl, rfl⟩
  · obtain ⟨zs, rfl, hdone⟩ := admits_tell_bind.1 hend
    obtain ⟨rfl, rfl⟩ := admits_pure.1 hdone
    exact ⟨_, ys, _, _, htalk, rfl, rfl⟩

theorem concern_of_admits_documentFile {report : FileReport}
    (h : (documentFile s path).Admits xs report) :
    ∀ x ∈ xs, x.concern ∈ [.record, .source, .page, .newPage] := by
  obtain ⟨before, ys, outcome, after, htalk, rfl, -⟩ := exists_of_admits_documentFile h
  intro x hx
  rcases List.mem_append.1 hx with hx | hx
  · rcases List.mem_append.1 hx with hx | hx
    · simp [concern_of_mem_told hx]
    · exact htalk.concern x hx
  · simp [concern_of_mem_told hx]

theorem concern_of_admits_documentFiles {paths : List Path} {reports : List FileReport}
    (h : (Plan.forEach (documentFile s) paths).Admits xs reports) :
    ∀ x ∈ xs, x.concern ∈ [.record, .source, .page, .newPage] := by
  induction paths generalizing xs reports with
  | nil =>
    obtain ⟨rfl, -⟩ := admits_pure.1 h
    exact List.forall_mem_nil _
  | cons path paths ih =>
    obtain ⟨report, rest, ys, zs, hfirst, hrest, -, rfl⟩ := Plan.admits_forEach_cons.1 h
    intro x hx
    rcases List.mem_append.1 hx with hx | hx
    · exact concern_of_admits_documentFile hfirst x hx
    · exact ih hrest x hx

/-! ## Rebuilding the index -/

/-- Reading pages is asking for them. -/
theorem mem_of_attempts_readPages {names : List Text}
    {outcome : Except Failure (List (Text × Text))} (h : Attempts (readPages names) xs outcome)
    (hx : x ∈ xs) : ∃ name answer, x = ⟨.readPage name, answer⟩ := by
  induction names generalizing xs outcome with
  | nil =>
    obtain ⟨rfl, -⟩ := attempts_pure.1 h
    cases hx
  | cons name names ih =>
    rw [readPages] at h
    rcases attempts_bind.1 h with ⟨e, hread, -⟩ | ⟨page, ys, zs, hread, hrest, rfl⟩
    · obtain rfl := admits_request.1 hread
      exact ⟨name, .error e, List.mem_singleton.1 hx⟩
    · obtain rfl := admits_request.1 hread
      rcases List.mem_append.1 hx with hx | hx
      · exact ⟨name, .ok page, List.mem_singleton.1 hx⟩
      · rcases attempts_bind.1 hrest with ⟨e, hreads, -⟩ | ⟨pages, ys, zs, hreads, hdone, rfl⟩
        · exact ih hreads hx
        · obtain ⟨rfl, -⟩ := attempts_pure.1 hdone
          rw [List.append_nil] at hx
          exact ih hreads hx

/-- What is said while the index is written, and what comes of it. -/
inductive IndexTalk (s : Settings) : List Exchange → Except Failure (Option Path) → Prop
  /-- The pages cannot be listed. -/
  | unlisted (e : Failure) : IndexTalk s [⟨.pageNames, .error e⟩] (.error e)
  /-- A page cannot be read. -/
  | unread (names : List Text) (reads : List Exchange) (e : Failure)
      (hreads : Attempts (readPages names) reads (.error e)) :
      IndexTalk s (⟨.pageNames, .ok names⟩ :: reads) (.error e)
  /-- The template cannot be read. -/
  | untemplated (names : List Text) (reads : List Exchange) (pages : List (Text × Text))
      (e : Failure) (hreads : Attempts (readPages names) reads (.ok pages)) :
      IndexTalk s (⟨.pageNames, .ok names⟩ :: reads ++ [⟨.indexTemplate, .error e⟩]) (.error e)
  /-- The template makes no index of the pages. -/
  | unmade (names : List Text) (reads : List Exchange) (pages : List (Text × Text))
      (template : Text) (e : IndexError) (hreads : Attempts (readPages names) reads (.ok pages))
      (hindex : indexPage s.locale categoryRules template pages = .error e) :
      IndexTalk s (⟨.pageNames, .ok names⟩ :: reads ++ [⟨.indexTemplate, .ok template⟩])
        (.error (.index e))
  /-- The index is saved, or cannot be saved. -/
  | saved (names : List Text) (reads : List Exchange) (pages : List (Text × Text))
      (template index : Text) (outcome : Except Failure (Option Path))
      (hreads : Attempts (readPages names) reads (.ok pages))
      (hindex : indexPage s.locale categoryRules template pages = .ok index) :
      IndexTalk s (⟨.pageNames, .ok names⟩ :: reads ++
        [⟨.indexTemplate, .ok template⟩, ⟨.saveIndex index, outcome⟩]) outcome

theorem indexTalk_of_attempts {outcome : Except Failure (Option Path)}
    (h : Attempts (writeIndex s) xs outcome) : IndexTalk s xs outcome := by
  rw [writeIndex] at h
  rcases attempts_bind.1 h with ⟨e, hnames, rfl⟩ | ⟨names, ys, zs, hnames, hrest, rfl⟩
  · obtain rfl := admits_request.1 hnames
    exact .unlisted e
  obtain rfl := admits_request.1 hnames
  rcases attempts_bind.1 hrest with ⟨e, hreads, rfl⟩ | ⟨pages, reads, zs, hreads, hmake, rfl⟩
  · exact .unread names _ e hreads
  rcases attempts_bind.1 hmake with ⟨e, htemplate, rfl⟩ | ⟨template, ys, zs, htemplate, hend, rfl⟩
  · obtain rfl := admits_request.1 htemplate
    exact .untemplated names reads pages e hreads
  obtain rfl := admits_request.1 htemplate
  split at hend
  · next e hindex =>
    obtain ⟨rfl, rfl⟩ := admits_pure.1 hend
    exact .unmade names reads pages template e hreads hindex
  · next index hindex =>
    obtain rfl := admits_request.1 hend
    exact .saved names reads pages template index outcome hreads hindex

/-- Pages that have all been read have been asked for by their names. -/
theorem mem_of_attempts_readPages_ok {names : List Text} {pages : List (Text × Text)}
    (h : Attempts (readPages names) xs (.ok pages)) (hx : x ∈ xs) :
    ∃ name ∈ names, ∃ page, x = ⟨.readPage name, .ok page⟩ := by
  induction names generalizing xs pages with
  | nil =>
    obtain ⟨rfl, -⟩ := attempts_pure.1 h
    cases hx
  | cons name names ih =>
    rw [readPages] at h
    rcases attempts_bind.1 h with ⟨e, -, he⟩ | ⟨page, ys, zs, hread, hrest, rfl⟩
    · cases he
    obtain rfl := admits_request.1 hread
    rcases List.mem_append.1 hx with hx | hx
    · exact ⟨name, List.mem_cons_self, page, List.mem_singleton.1 hx⟩
    · rcases attempts_bind.1 hrest with ⟨e, -, he⟩ | ⟨rest, ys, zs, hreads, hdone, rfl⟩
      · cases he
      obtain ⟨rfl, -⟩ := attempts_pure.1 hdone
      rw [List.append_nil] at hx
      obtain ⟨n, hn, p, rfl⟩ := ih hreads hx
      exact ⟨n, List.mem_cons_of_mem _ hn, p, rfl⟩

/-- The pages are listed at the start, and then only pages, the template and the index are asked
for. -/
theorem IndexTalk.exists_eq_cons {outcome : Except Failure (Option Path)}
    (h : IndexTalk s xs outcome) :
    ∃ answer tail, xs = ⟨.pageNames, answer⟩ :: tail ∧ ∀ x ∈ tail,
      (∃ name answer, x = ⟨.readPage name, answer⟩) ∨ (∃ answer, x = ⟨.indexTemplate, answer⟩) ∨
        ∃ index answer, x = ⟨.saveIndex index, answer⟩ := by
  cases h with
  | unlisted e => exact ⟨_, [], rfl, List.forall_mem_nil _⟩
  | unread names reads e hreads =>
    exact ⟨_, reads, rfl, fun x hx => .inl (mem_of_attempts_readPages hreads hx)⟩
  | untemplated names reads pages e hreads =>
    refine ⟨_, reads ++ [_], rfl, fun x hx => ?_⟩
    rcases List.mem_append.1 hx with hx | hx
    · exact .inl (mem_of_attempts_readPages hreads hx)
    · exact .inr (.inl ⟨_, List.mem_singleton.1 hx⟩)
  | unmade names reads pages template e hreads =>
    refine ⟨_, reads ++ [_], rfl, fun x hx => ?_⟩
    rcases List.mem_append.1 hx with hx | hx
    · exact .inl (mem_of_attempts_readPages hreads hx)
    · exact .inr (.inl ⟨_, List.mem_singleton.1 hx⟩)
  | saved names reads pages template index outcome hreads =>
    refine ⟨_, reads ++ [_, _], rfl, fun x hx => ?_⟩
    rcases List.mem_append.1 hx with hx | hx
    · exact .inl (mem_of_attempts_readPages hreads hx)
    · rcases List.mem_cons.1 hx with rfl | hx
      · exact .inr (.inl ⟨_, rfl⟩)
      · exact .inr (.inr ⟨_, _, List.mem_singleton.1 hx⟩)

/-- The pages are not listed once more. -/
theorem IndexTalk.pageNames_not_mem {listing listing' : Except Failure (List Text)}
    {tail : List Exchange} {outcome : Except Failure (Option Path)}
    (h : IndexTalk s (⟨.pageNames, listing⟩ :: tail) outcome) :
    (⟨.pageNames, listing'⟩ : Exchange) ∉ tail := by
  obtain ⟨answer, rest, hxs, hrest⟩ := h.exists_eq_cons
  obtain rfl := (List.cons.inj hxs).2
  intro hmem
  rcases hrest _ hmem with ⟨name, page, heq⟩ | ⟨template, heq⟩ | ⟨index, file, heq⟩
  · cases heq
  · cases heq
  · cases heq

/-- No index is saved while pages are read. -/
theorem saveIndex_not_mem_of_attempts_readPages {names : List Text}
    {outcome : Except Failure (List (Text × Text))} (h : Attempts (readPages names) xs outcome)
    {index : Text} {answer : Except Failure (Option Path)} :
    (⟨.saveIndex index, answer⟩ : Exchange) ∉ xs := by
  intro hmem
  obtain ⟨name, page, heq⟩ := mem_of_attempts_readPages h hmem
  cases heq

/-- The request to save the index stands behind the reading of pages. -/
theorem saveIndex_mem_of_mem_append {names : List Text} {outcome : Except Failure (List (Text × Text))}
    {reads rest : List Exchange} {index : Text} {answer : Except Failure (Option Path)}
    (hreads : Attempts (readPages names) reads outcome)
    (h : (⟨.saveIndex index, answer⟩ : Exchange) ∈ reads ++ rest) :
    (⟨.saveIndex index, answer⟩ : Exchange) ∈ rest :=
  (List.mem_append.1 h).resolve_left (saveIndex_not_mem_of_attempts_readPages hreads)

/-- An index that is saved has been made of the pages that were listed, each of which has been read. -/
theorem IndexTalk.exists_of_saveIndex {listing : Except Failure (List Text)} {tail : List Exchange}
    {written answer : Except Failure (Option Path)} {index : Text}
    (h : IndexTalk s (⟨.pageNames, listing⟩ :: tail) written)
    (hmem : (⟨.saveIndex index, answer⟩ : Exchange) ∈ tail) :
    ∃ names reads pages template, listing = .ok names ∧
      tail = reads ++ [⟨.indexTemplate, .ok template⟩, ⟨.saveIndex index, answer⟩] ∧
      Attempts (readPages names) reads (.ok pages) ∧
      indexPage s.locale categoryRules template pages = .ok index := by
  generalize hxs : (⟨.pageNames, listing⟩ :: tail : List Exchange) = xs at h
  -- only a talk that goes to its end has the request in it
  cases h with
  | unlisted e =>
    cases hxs
    cases hmem
  | unread names reads e hreads =>
    cases hxs
    exact absurd hmem (saveIndex_not_mem_of_attempts_readPages hreads)
  | untemplated names reads pages e hreads =>
    cases hxs
    cases List.mem_singleton.1 (saveIndex_mem_of_mem_append hreads hmem)
  | unmade names reads pages template e hreads =>
    cases hxs
    cases List.mem_singleton.1 (saveIndex_mem_of_mem_append hreads hmem)
  | saved names reads pages template made outcome hreads hindex =>
    cases hxs
    rcases List.mem_cons.1 (saveIndex_mem_of_mem_append hreads hmem) with hmem | hmem
    · cases hmem
    · cases List.mem_singleton.1 hmem
      exact ⟨names, reads, pages, template, rfl, rfl, hreads, hindex⟩

/-- What an attempt to write the index is reported as. -/
def indexReportOf : Except Failure (Option Path) → Option Path × Option Text
  | .error e => (none, some e.message)
  | .ok file => (file, none)

/-- The index is written in front of one record. -/
theorem exists_of_admits_rebuildIndex {outcome : Option Path × Option Text}
    (h : (rebuildIndex s).Admits xs outcome) :
    ∃ ys written after, IndexTalk s ys written ∧ xs = ys ++ told [after] ∧
      outcome = indexReportOf written := by
  obtain ⟨written, ys, zs, hwrite, hend, rfl⟩ := admits_bind.1 h
  have htalk := indexTalk_of_attempts hwrite
  rcases written with e | file
  · obtain ⟨zs, rfl, hdone⟩ := admits_tell_bind.1 hend
    obtain ⟨rfl, rfl⟩ := admits_pure.1 hdone
    exact ⟨ys, _, _, htalk, rfl, rfl⟩
  · obtain ⟨zs, rfl, hdone⟩ := admits_tell_bind.1 hend
    obtain ⟨rfl, rfl⟩ := admits_pure.1 hdone
    exact ⟨ys, _, _, htalk, rfl, rfl⟩

theorem concern_of_admits_rebuildIndex {outcome : Option Path × Option Text}
    (h : (rebuildIndex s).Admits xs outcome) :
    ∀ x ∈ xs, x.concern ∈ [.record, .page, .index] := by
  obtain ⟨ys, written, after, htalk, rfl, -⟩ := exists_of_admits_rebuildIndex h
  obtain ⟨answer, tail, rfl, htail⟩ := htalk.exists_eq_cons
  intro x hx
  rcases List.mem_append.1 hx with hx | hx
  · rcases List.mem_cons.1 hx with rfl | hx
    · simp [Exchange.concern]
    · rcases htail x hx with ⟨name, answer, rfl⟩ | ⟨answer, rfl⟩ | ⟨index, answer, rfl⟩
      · simp [Exchange.concern]
      · simp [Exchange.concern]
      · simp [Exchange.concern]
  · simp [concern_of_mem_told hx]

/-! ## Staging -/

/-- What is said while files are staged, and what comes of it. -/
inductive StagingTalk (root : Path) (files : List Path) :
    List Exchange → Except Failure (Except Git.Failure Bool) → Prop
  /-- The repository cannot be looked for. -/
  | unsearched (e : Failure) : StagingTalk root files [⟨.isRepository root, .error e⟩] (.error e)
  /-- There is no repository. -/
  | foreign (after : List Log.Record) :
      StagingTalk root files (⟨.isRepository root, .ok false⟩ :: told after) (.ok (.ok false))
  /-- There is nothing to stage. -/
  | idle (here : Path) (hnone : files = []) :
      StagingTalk root files [⟨.isRepository root, .ok true⟩, ⟨.workingDirectory, here⟩]
        (.ok (.ok false))
  /-- Git fails. -/
  | failed (here : Path) (cause : Git.Cause) (hsome : files ≠ []) :
      StagingTalk root files [⟨.isRepository root, .ok true⟩, ⟨.workingDirectory, here⟩,
        ⟨.git root (Git.addFiles (files.map (Git.nameInRepository here root))), .error cause⟩]
        (.ok (.error { command := Git.addFiles (files.map (Git.nameInRepository here root)), cause }))
  /-- The files are staged. -/
  | staged (here : Path) (answer : Text) (after : List Log.Record) (hsome : files ≠ []) :
      StagingTalk root files (⟨.isRepository root, .ok true⟩ :: ⟨.workingDirectory, here⟩ ::
        ⟨.git root (Git.addFiles (files.map (Git.nameInRepository here root))), .ok answer⟩ ::
        told after) (.ok (.ok true))

theorem stagingTalk_of_attempts {root : Path} {files : List Path}
    {outcome : Except Failure (Except Git.Failure Bool)}
    (h : Attempts (stage root files) xs outcome) : StagingTalk root files xs outcome := by
  rw [stage] at h
  -- the talk is followed request by request, up to the answer that ends it
  rcases attempts_bind.1 h with ⟨e, hlook, rfl⟩ | ⟨found, ys, zs, hlook, hrest, rfl⟩
  · obtain rfl := admits_request.1 hlook
    exact .unsearched e
  obtain rfl := admits_request.1 hlook
  cases found with
  | false =>
    obtain ⟨ys, rfl, hdone⟩ := attempts_tell_bind.1 hrest
    obtain ⟨rfl, rfl⟩ := attempts_pure.1 hdone
    exact .foreign [_]
  | true =>
    dsimp only at hrest
    rw [Bool.not_true, if_neg Bool.false_ne_true] at hrest
    obtain ⟨here, ys, rfl, hadd⟩ := attempts_request_bind.1 hrest
    split at hadd
    · next hnone =>
      obtain ⟨rfl, rfl⟩ := attempts_pure.1 hadd
      exact .idle here (List.isEmpty_iff.1 hnone)
    · next hsome =>
      have hsome : files ≠ [] := fun hnone => hsome (List.isEmpty_iff.2 hnone)
      obtain ⟨answer, ys, rfl, hend⟩ := attempts_request_bind.1 hadd
      split at hend
      · next cause =>
        obtain ⟨rfl, rfl⟩ := attempts_pure.1 hend
        exact .failed here cause hsome
      · next answer =>
        obtain ⟨ys, rfl, hdone⟩ := attempts_tell_bind.1 hend
        obtain ⟨rfl, rfl⟩ := attempts_pure.1 hdone
        exact .staged here answer [_] hsome

theorem StagingTalk.concern {root : Path} {files : List Path}
    {outcome : Except Failure (Except Git.Failure Bool)} (h : StagingTalk root files xs outcome) :
    ∀ x ∈ xs, x.concern ∈ [.record, .repository] := by
  intro x hx
  cases h with
  | unsearched e =>
    obtain rfl := List.mem_singleton.1 hx
    simp [Exchange.concern]
  | foreign after =>
    rcases List.mem_cons.1 hx with rfl | hx
    · simp [Exchange.concern]
    · simp [concern_of_mem_told hx]
  | idle here hnone =>
    simp only [List.mem_cons, List.not_mem_nil, or_false] at hx
    rcases hx with rfl | rfl <;> simp [Exchange.concern]
  | failed here cause hsome =>
    simp only [List.mem_cons, List.not_mem_nil, or_false] at hx
    rcases hx with rfl | rfl | rfl <;> simp [Exchange.concern]
  | staged here answer after hsome =>
    simp only [List.mem_cons] at hx
    rcases hx with rfl | rfl | rfl | hx
    · simp [Exchange.concern]
    · simp [Exchange.concern]
    · simp [Exchange.concern]
    · simp [concern_of_mem_told hx]

/-! ## The whole run -/

/-- How a run ends, by what has come of staging. -/
inductive Concludes (done : Written) :
    Except Failure (Except Git.Failure Bool) → Except Failure BatchReport → Prop
  /-- There is no report when staging has failed and it was not git that failed. -/
  | failed (e : Failure) : Concludes done (.error e) (.error e)
  /-- Otherwise the report tells of success when everything has been written and git has not failed. -/
  | reported (staged : Except Git.Failure Bool) (report : BatchReport) (told : done.ToldBy report)
      (success : report.success = true ↔ done.IsComplete ∧ ∃ b, staged = .ok b) :
      Concludes done (.ok staged) (.ok report)

/-- What is said in a run: about its sources, about the index, about staging, and a last record. Files are
staged when everything has been written and staging is wanted. -/
structure RunTalk (s : Settings) (paths : List Path) (staging : Option Bool)
    (files index staged : List Exchange) (done : Written) (outcome : Except Failure BatchReport) :
    Prop where
  files : (Plan.forEach (documentFile s) paths).Admits files done.reports
  index : (rebuildIndex s).Admits index (done.indexPath, done.indexError)
  staged : ∃ result,
    ((done.IsComplete ∧ staging.getD s.stagePages = true ∧
        StagingTalk s.root done.files staged result) ∨
      (¬ (done.IsComplete ∧ staging.getD s.stagePages = true) ∧ staged = [] ∧
        result = .ok (.ok false))) ∧
    Concludes done result outcome

theorem RunTalk.concern_staged {paths : List Path} {staging : Option Bool}
    {files index staged : List Exchange} {done : Written} {outcome : Except Failure BatchReport}
    (h : RunTalk s paths staging files index staged done outcome) :
    ∀ x ∈ staged, x.concern ∈ [.record, .repository] := by
  obtain ⟨result, ⟨-, -, htalk⟩ | ⟨-, rfl, -⟩, -⟩ := h.staged
  · exact htalk.concern
  · exact List.forall_mem_nil _

theorem exists_of_attempts_conclude {success : Bool} {results : List FileReport} {message : Text}
    {indexPath : Option Path} {indexError : Option Text} {outcome : Except Failure BatchReport}
    (h : Attempts (conclude success results message indexPath indexError) xs outcome) :
    ∃ after, xs = told after ∧
      outcome = .ok { success, results, message, indexPath, indexError } := by
  rw [conclude] at h
  cases success with
  | false =>
    obtain ⟨ys, rfl, hdone⟩ := attempts_tell_bind.1 h
    obtain ⟨rfl, rfl⟩ := attempts_pure.1 hdone
    exact ⟨[_], rfl, rfl⟩
  | true =>
    obtain ⟨rfl, rfl⟩ := attempts_pure.1 h
    exact ⟨[], rfl, rfl⟩

/-- The conversation of a run taken apart. -/
theorem exists_of_attempts_run {paths : List Path} {staging : Option Bool}
    {outcome : Except Failure BatchReport} (h : Attempts (run s paths staging) xs outcome) :
    ∃ files index staged after done, RunTalk s paths staging files index staged done outcome ∧
      xs = files ++ (index ++ (staged ++ told after)) := by
  rw [run] at h
  obtain ⟨reports, files, ys, hfiles, hrest, rfl⟩ := attempts_lift_bind.1 h
  obtain ⟨⟨indexPath, indexError⟩, index, ys, hindex, hstage, rfl⟩ := attempts_lift_bind.1 hrest
  have hcomplete := @Written.isComplete_iff ⟨reports, indexPath, indexError⟩
  dsimp only at hstage
  -- files are staged only when everything has been written and staging is wanted
  split at hstage
  · next hwanted =>
    rw [Bool.and_eq_true] at hwanted
    have hall := hcomplete.1 hwanted.1
    rcases attempts_bind.1 hstage with ⟨e, hstaged, rfl⟩ | ⟨result, staged, zs, hstaged, hend, rfl⟩
    · refine ⟨files, index, ys, [], ⟨reports, indexPath, indexError⟩,
        ⟨hfiles, hindex, .error e, ?_, .failed e⟩, ?_⟩
      · exact .inl ⟨hall, hwanted.2, stagingTalk_of_attempts hstaged⟩
      · rw [told, List.map_nil, List.append_nil]
    have htalk := stagingTalk_of_attempts hstaged
    rcases result with e | did
    · -- a failure of git is told before the warning
      obtain ⟨zs, rfl, hconclude⟩ := attempts_tell_bind.1 hend
      change Attempts (conclude false reports _ indexPath indexError) zs outcome at hconclude
      obtain ⟨after, rfl, rfl⟩ := exists_of_attempts_conclude hconclude
      refine ⟨files, index, staged, _ :: after, ⟨reports, indexPath, indexError⟩,
        ⟨hfiles, hindex, .ok (.error e), .inl ⟨hall, hwanted.2, htalk⟩,
          .reported _ _ ⟨rfl, rfl, rfl⟩ ?_⟩, rfl⟩
      refine iff_of_false Bool.false_ne_true ?_
      rintro ⟨-, did, hdid⟩
      cases hdid
    · change Attempts (conclude _ reports _ indexPath indexError) zs outcome at hend
      obtain ⟨after, rfl, rfl⟩ := exists_of_attempts_conclude hend
      exact ⟨files, index, staged, after, ⟨reports, indexPath, indexError⟩,
        ⟨hfiles, hindex, .ok (.ok did), .inl ⟨hall, hwanted.2, htalk⟩,
          .reported _ _ ⟨rfl, rfl, rfl⟩ ⟨fun _ => ⟨hall, did, rfl⟩, fun _ => hwanted.1⟩⟩, rfl⟩
  · next hunwanted =>
    change Attempts (conclude _ reports _ indexPath indexError) ys outcome at hstage
    obtain ⟨after, rfl, rfl⟩ := exists_of_attempts_conclude hstage
    refine ⟨files, index, [], after, ⟨reports, indexPath, indexError⟩,
      ⟨hfiles, hindex, .ok (.ok false), .inr ⟨?_, rfl, rfl⟩, .reported _ _ ⟨rfl, rfl, rfl⟩
        ⟨fun h => ⟨hcomplete.1 h, false, rfl⟩, fun h => hcomplete.2 h.1⟩⟩, rfl⟩
    rintro ⟨hall, hwanted⟩
    exact hunwanted (by rw [hcomplete.2 hall, hwanted]; rfl)

/-- Nobody is given time to change files while a run goes on. -/
theorem concern_of_attempts_run {paths : List Path} {staging : Option Bool}
    {outcome : Except Failure BatchReport} (h : Attempts (run s paths staging) xs outcome) :
    ∀ x ∈ xs, x.concern ≠ .pause := by
  obtain ⟨files, index, staged, after, done, htalk, rfl⟩ := exists_of_attempts_run h
  intro x hx
  rcases List.mem_append.1 hx with hx | hx
  · exact ne_of_mem_of_not_mem (concern_of_admits_documentFiles htalk.files x hx) (by decide)
  rcases List.mem_append.1 hx with hx | hx
  · exact ne_of_mem_of_not_mem (concern_of_admits_rebuildIndex htalk.index x hx) (by decide)
  rcases List.mem_append.1 hx with hx | hx
  · exact ne_of_mem_of_not_mem (htalk.concern_staged x hx) (by decide)
  · rw [concern_of_mem_told hx]
    decide

end ComponentBook.Batch
