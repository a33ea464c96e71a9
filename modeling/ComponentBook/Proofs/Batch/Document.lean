import ComponentBook.Batch.Run
import ComponentBook.Proofs.World.Effects

/-! # Documenting one source

A source is documented by reading it, reading the page that its component has already, and saving a new
page. **`documentFile_cases`** says all that this can do: no page is saved and the report tells of a
failure, or the page is saved and the report tells its name and its file. -/

namespace ComponentBook.Batch

open World (Rewrites Saves)

variable {s : Settings} {w : World} {path : Path}

/-- The record that a source is being documented. -/
def processing (path : Path) : Log.Record := .of .info part ("Processing ".toList ++ path.text)

/-- The surroundings in which the record that a description is kept has been told, if there is one. -/
def tellKept (w : World) (existing : Option Text) (name : Text) : World :=
  if existing.any (!·.isEmpty) then
    w.tell (.of .debug part ("Keeping existing description for ".toList ++ name))
  else w

/-- The page of a component that has a page already, or none. -/
def newPage (s : Settings) (old : Option Text) (c : Component) : Text :=
  Markdown.page s.locale codeLanguage (old.bind Markdown.description?) c

theorem rewrites_tellKept (w : World) (existing : Option Text) (name : Text) :
    Rewrites [] w (tellKept w existing name) := by
  rw [tellKept]
  split
  · exact w.rewrites_tell _
  · exact Rewrites.refl w

/-- The page of a described component, made from the page that is there. -/
theorem attempt_document (w : World) (s : Settings) (source fallback : Text) :
    w.attempt (document s source fallback) =
      match w.readPage (describe s source fallback).name with
      | .error e => (.error e, w)
      | .ok old => (.ok (describe s source fallback, newPage s old (describe s source fallback)),
          tellKept w (old.bind Markdown.description?) (describe s source fallback).name) := by
  rw [document, World.attempt_bind]
  show World.proceed _ (w.readPage _, w) = _
  rcases w.readPage (describe s source fallback).name with e | old
  · rfl
  · rw [World.proceed_ok]
    dsimp only
    rw [tellKept]
    split <;> rfl

/-- One source, from the reading of its text to the saving of its page. -/
theorem attempt_writePage (w : World) (s : Settings) (path : Path) :
    w.attempt (writePage s path) =
      match w.disk.read path with
      | .error e => (.error (.disk e), w)
      | .ok source =>
        let c := describe s source path.stem
        match w.readPage c.name with
        | .error e => (.error e, w)
        | .ok old =>
          let saving := (tellKept w (old.bind Markdown.description?) c.name).savePage c.name
            (newPage s old c)
          (saving.1.map fun saved => (c.name, saved), saving.2) := by
  rw [writePage, World.attempt_bind]
  show World.proceed _ ((w.disk.read path).mapError .disk, w) = _
  rcases w.disk.read path with e | source
  · rfl
  · show w.attempt (document s source path.stem >>= _) = _
    rw [World.attempt_bind, attempt_document]
    dsimp only
    rcases w.readPage (describe s source path.stem).name with e | old
    · rfl
    · rw [World.proceed_ok, World.attempt_bind]
      dsimp only
      show World.proceed _ (World.savePage _ _ _) = _
      rcases World.savePage _ _ _ with ⟨_ | _, v⟩ <;> rfl

/-- The report of a source of which no page has been written. -/
def failedReport (path : Path) (e : Failure) : FileReport where
  path := path.text
  success := false
  message := "Failed to document ".toList ++ path.text
  error := some e.message

/-- The report of a source whose page has been written. -/
def writtenReport (path : Path) (name : Text) (saved : Option Path) : FileReport where
  path := path.text
  success := true
  component := some name
  pagePath := saved
  message := "Documentation generated: ".toList ++ (saved.map Path.text).getD name

/-- One source documented: the report, and the record that tells of it. -/
theorem run_documentFile (w : World) (s : Settings) (path : Path) :
    w.run (documentFile s path) =
      match (w.tell (processing path)).attempt (writePage s path) with
      | (.error e, v) => (failedReport path e,
          v.tell (.of .error part ("Failed to document ".toList ++ path.text ++ ": ".toList ++
            e.message)))
      | (.ok (name, saved), v) => (writtenReport path name saved,
          v.tell (.of .info part ("Generated documentation for ".toList ++ name ++
            " at ".toList ++ (saved.map Path.text).getD name))) := by
  rw [documentFile, World.run_bind, World.run_bind]
  show World.run _ _ = _
  rw [World.attempt]
  dsimp only [World.run_tell]
  rw [← processing]
  rcases (w.tell (processing path)).run (writePage s path).run with ⟨_ | ⟨name, saved⟩, v⟩ <;> rfl

/-- What happens when a source is documented: the source and the page that its component has already
are read, and a new page is saved. Apart from that no text is written. -/
structure Documents (s : Settings) (path : Path) (w : World) (source : Text) (old : Option Text)
    (saved : Option Path) (v : World) : Prop where
  run : w.run (documentFile s path) =
    (writtenReport path (describe s source path.stem).name saved, v)
  read : ∃ u, Rewrites [] w u ∧ u.disk.read path = .ok source ∧
    u.readPage (describe s source path.stem).name = .ok old
  save : ∃ u u', Rewrites [] w u ∧ Rewrites [] u' v ∧
    u.savePage (describe s source path.stem).name (newPage s old (describe s source path.stem))
      = (.ok saved, u')

/-- A source is documented, or no text is written and the report tells of a failure. -/
theorem documentFile_cases (w : World) (s : Settings) (path : Path) :
    (∃ e v, w.run (documentFile s path) = (failedReport path e, v) ∧ Rewrites [] w v) ∨
      ∃ source old saved v, Documents s path w source old saved v := by
  have hrun := run_documentFile w s path
  have htold := w.rewrites_tell (processing path)
  rw [attempt_writePage] at hrun
  -- a request that fails ends the plan, and only the last one writes
  rcases hread : (w.tell (processing path)).disk.read path with e | source
  · rw [hread] at hrun
    exact .inl ⟨_, _, hrun, htold.trans (World.rewrites_tell _ _)⟩
  · rw [hread] at hrun
    dsimp only at hrun
    rcases hpage : (w.tell (processing path)).readPage (describe s source path.stem).name
      with e | old
    · rw [hpage] at hrun
      exact .inl ⟨_, _, hrun, htold.trans (World.rewrites_tell _ _)⟩
    · rw [hpage] at hrun
      dsimp only at hrun
      have hkept := rewrites_tellKept (w.tell (processing path)) (old.bind Markdown.description?)
        (describe s source path.stem).name
      rcases hsave : World.savePage _ (describe s source path.stem).name
        (newPage s old (describe s source path.stem)) with ⟨e | saved, u⟩
      · rw [hsave] at hrun
        exact .inl ⟨_, _, hrun, (htold.trans hkept).trans
          ((World.rewrites_of_savePage_error hsave).trans (World.rewrites_tell _ _))⟩
      · rw [hsave] at hrun
        exact .inr ⟨source, old, saved, _, hrun, ⟨_, htold, hread, hpage⟩,
          ⟨_, u, htold.trans hkept, World.rewrites_tell _ _, hsave⟩⟩

/-- A report of success tells of a source that has been documented. -/
theorem documents_of_success (h : (w.run (documentFile s path)).1.success = true) :
    ∃ source old saved, Documents s path w source old saved (w.run (documentFile s path)).2 := by
  rcases documentFile_cases w s path with ⟨e, v, hrun, -⟩ | ⟨source, old, saved, v, hdoc⟩
  · rw [hrun] at h
    cases h
  · refine ⟨source, old, saved, ?_⟩
    rw [hdoc.run]
    exact hdoc

namespace Documents

variable {source : Text} {old : Option Text} {saved : Option Path} {v : World}

/-- The page is there under the name of the component. -/
theorem readPage (h : Documents s path w source old saved v)
    (hlog : w.LogsApartFromPage (describe s source path.stem).name)
    (hunix : '\r' ∉ newPage s old (describe s source path.stem)) :
    v.readPage (describe s source path.stem).name
      = .ok (some (newPage s old (describe s source path.stem))) := by
  obtain ⟨u, u', hu, hv, hsave⟩ := h.save
  have hlogu := (hu.logsApartFromPage_iff _).2 hlog
  exact hv.readPage (World.logsApartFromPage_of_savePage hsave hlogu)
    (World.readPage_of_savePage hsave hlogu hunix)

end Documents

/-! ## A project with one source

The theorems about runs are shown at work on a project at the root whose only source is `/X.vue`. -/

/-- The path of the source. -/
def samplePath : Path := { slashes := 1, names := ["X.vue".toList] }

/-- The settings of a project that says nothing. -/
def sampleSettings : Settings := Settings.standard { slashes := 1, names := [] }

/-- The source of a component that says nothing about itself. -/
def bareSource : Text := "<script>export default {}</script>".toList

/-- The project, with its source and the pages that it has. -/
def sampleWorld (source : Text) (shelf : Shelf) : World where
  disk := { entries := [(["X.vue".toList], .file { content := .text source, modified := 0 })] }
  shelf := shelf

theorem name_bareSource :
    (describe sampleSettings bareSource samplePath.stem).name = "X".toList := by decide +kernel

end ComponentBook.Batch
