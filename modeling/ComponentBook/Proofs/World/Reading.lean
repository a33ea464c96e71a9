import ComponentBook.Proofs.World.Effects

/-! # What is read while the log grows

A record that is told changes at most the file of the log. Disks that differ in one file only
(**`Disk.AlikeBut`**) lead every path to the same place, so that every other file reads the same on both.
**`World.ReadsAs`** says of later surroundings that no more than the log, the shelf and the index template in
use have changed. Sources and index template are read there as before as long as the log goes to none of them
(**`World.HasFixedInput`**). -/

namespace ComponentBook

namespace Disk

variable {c d e : Disk} {log : Option Location} {l : Location} {p : Path} {names : List Text}

/-- Disks that hold the same, one file aside, which need not hold the same on both. -/
structure AlikeBut (log : Option Location) (d e : Disk) : Prop where
  workingDirectory : e.workingDirectory = d.workingDirectory
  entryAt? : ∀ l, e.entryAt? l = d.entryAt? l ∨
    log = some l ∧ isFileEntry (d.entryAt? l) = true ∧ isFileEntry (e.entryAt? l) = true

theorem eq_some_file_of_isFileEntry {entry : Option Entry} (h : isFileEntry entry = true) :
    ∃ f, entry = some (.file f) := by
  rcases entry with _ | _ | f
  · cases h
  · cases h
  · exact ⟨f, rfl⟩

namespace AlikeBut

theorem refl (log : Option Location) (d : Disk) : AlikeBut log d d := ⟨rfl, fun _ => .inl rfl⟩

theorem trans (h : AlikeBut log c d) (g : AlikeBut log d e) : AlikeBut log c e := by
  refine ⟨g.workingDirectory.trans h.workingDirectory, fun l => ?_⟩
  rcases g.entryAt? l with hsame | ⟨hlog, hd, he⟩
  · rw [hsame]
    exact h.entryAt? l
  · rcases h.entryAt? l with hsame | ⟨-, hc, -⟩
    · rw [hsame] at hd
      exact .inr ⟨hlog, hd, he⟩
    · exact .inr ⟨hlog, hc, he⟩

theorem entryAt?_eq (h : AlikeBut log d e) (hl : log ≠ some l) : e.entryAt? l = d.entryAt? l :=
  (h.entryAt? l).resolve_right fun hr => hl hr.1

/-- The file that differs is a file on both disks. -/
theorem isSome_entryAt? (h : AlikeBut log d e) (l : Location) :
    (e.entryAt? l).isSome = (d.entryAt? l).isSome := by
  rcases h.entryAt? l with hsame | ⟨-, hd, he⟩
  · rw [hsame]
  · obtain ⟨f, hf⟩ := eq_some_file_of_isFileEntry hd
    obtain ⟨g, hg⟩ := eq_some_file_of_isFileEntry he
    rw [hf, hg]
    rfl

theorem isDirectory_iff (h : AlikeBut log d e) (l : Location) :
    e.entryAt? l = some .directory ↔ d.entryAt? l = some .directory := by
  rcases h.entryAt? l with hsame | ⟨-, hd, he⟩
  · rw [hsame]
  · obtain ⟨f, hf⟩ := eq_some_file_of_isFileEntry hd
    obtain ⟨g, hg⟩ := eq_some_file_of_isFileEntry he
    rw [hf, hg]
    constructor <;> nofun

theorem step (h : AlikeBut log d e) (l : Location) (name : Text) : e.step l name = d.step l name := by
  have hiff := h.isDirectory_iff l
  by_cases hdir : d.entryAt? l = some .directory
  · rw [Disk.step, Disk.step, if_pos hdir, if_pos (hiff.2 hdir)]
  · rw [Disk.step, Disk.step, if_neg hdir, if_neg fun he => hdir (hiff.1 he)]

theorem walk (h : AlikeBut log d e) (l : Location) (names : List Text) :
    e.walk l names = d.walk l names := by
  induction names generalizing l with
  | nil => rw [Disk.walk, Disk.walk, h.isSome_entryAt?]
  | cons name names ih =>
    rw [Disk.walk, Disk.walk, h.isSome_entryAt?, h.step]
    rcases d.step l name with fault | next
    · rfl
    · dsimp only
      rw [ih]

theorem namesOf (h : AlikeBut log d e) (p : Path) : e.namesOf p = d.namesOf p := by
  rw [Disk.namesOf, Disk.namesOf, h.workingDirectory]

theorem placeOf (h : AlikeBut log d e) (p : Path) : e.placeOf p = d.placeOf p := by
  rw [Disk.placeOf, Disk.placeOf, h.namesOf]

theorem find (h : AlikeBut log d e) (p : Path) : e.find p = d.find p := by
  rw [Disk.find, Disk.find, h.namesOf, h.walk]

/-- Every other file is found as it was. -/
theorem file (h : AlikeBut log d e) (hlog : log ≠ some (d.placeOf p)) : e.file p = d.file p := by
  rw [Disk.file, Disk.file, h.find]
  rcases hfind : d.find p with fault | l
  · rfl
  · obtain rfl := eq_placeOf_of_find hfind
    dsimp only
    rw [h.entryAt?_eq hlog]

/-- Every other file reads as it did, or fails as it did. -/
theorem read (h : AlikeBut log d e) (hlog : log ≠ some (d.placeOf p)) : e.read p = d.read p := by
  rw [Disk.read, Disk.read, h.file hlog]

end AlikeBut

/-- A file put in the place of a file changes no other. -/
theorem alikeBut_put_file (hfile : isFileEntry (d.entryAt? l) = true) (f : File) :
    AlikeBut (some l) d (d.put l (.file f)) := by
  have hne : l ≠ [] := by
    rintro rfl
    rw [Disk.entryAt?, if_pos rfl] at hfile
    cases hfile
  refine ⟨rfl, fun k => ?_⟩
  by_cases hk : k = l
  · subst hk
    rw [entryAt?_put d hne]
    exact .inr ⟨rfl, hfile, rfl⟩
  · exact .inl (entryAt?_put_of_ne d hk _)

/-- A text at the end of a file changes no other. -/
theorem alikeBut_of_append {t : Text} (hfile : d.isFileAt p = true) (h : d.append p t = .ok e) :
    AlikeBut (some (d.placeOf p)) d e := by
  obtain ⟨made, hstore, rfl⟩ := map_eq_ok_iff.1 h
  obtain ⟨-, -, -, rfl⟩ := eq_put_of_store hstore
  have hentry : isFileEntry (d.entryAt? (d.placeOf p)) = true := by
    rw [isFileAt] at hfile
    split at hfile
    · next l hfind => rwa [eq_placeOf_of_find hfind] at hfile
    · cases hfile
  have hput := alikeBut_put_file hentry
  exact ⟨rfl, (hput _).entryAt?⟩

end Disk

namespace World

variable {u v w : World} {paths : List Path} {p : Path}

/-- What a run over some sources reads stays as it is: the log goes neither to one of the sources nor to an
index template. -/
structure HasFixedInput (w : World) (paths : List Path) : Prop where
  sources : ∀ p ∈ paths, w.LogsApart p
  template : ∀ directory, w.templatesDirectory = some directory →
    w.LogsApart (directory.child templateName)
  loaded : ∀ t p modified, w.template = some t → t.origin = some (p, modified) → w.LogsApart p

theorem HasFixedInput.of_subset {fewer : List Path} (h : w.HasFixedInput paths) (hsub : fewer ⊆ paths) :
    w.HasFixedInput fewer :=
  ⟨fun p hp => h.sources p (hsub hp), h.template, h.loaded⟩

/-- Without a file for the log nothing that is read is changed by it. -/
theorem hasFixedInput_of_logFile (h : w.logFile = none) (paths : List Path) : w.HasFixedInput paths := by
  have hapart : ∀ p, w.LogsApart p := by
    intro p hlog
    rw [World.logPlace?, h] at hlog
    cases hlog
  exact ⟨fun p _ => hapart p, fun _ _ => hapart _, fun _ p _ _ _ => hapart p⟩

/-- Later surroundings, in which the log, the shelf and the index template in use may have changed. -/
structure ReadsAs (u v : World) : Prop where
  logFile : v.logFile = u.logFile
  templatesDirectory : v.templatesDirectory = u.templatesDirectory
  disk : Disk.AlikeBut u.logPlace? u.disk v.disk
  template : v.template = u.template ∨ v.template = u.indexTemplate.2.template

namespace ReadsAs

theorem refl (w : World) : ReadsAs w w := ⟨rfl, rfl, Disk.AlikeBut.refl _ _, .inl rfl⟩

theorem logPlace? (h : ReadsAs u v) : v.logPlace? = u.logPlace? := by
  rw [World.logPlace?, World.logPlace?, h.logFile]
  exact Option.map_congr fun file _ => h.disk.placeOf file.1

theorem read (h : ReadsAs u v) (hlog : u.LogsApart p) : v.disk.read p = u.disk.read p :=
  h.disk.read hlog

theorem withShelf (h : ReadsAs u v) (shelf : Shelf) : ReadsAs u { v with shelf } :=
  ⟨h.logFile, h.templatesDirectory, h.disk, h.template⟩

theorem tell (h : ReadsAs u v) (r : Log.Record) : ReadsAs u (v.tell r) := by
  rw [World.tell]
  split
  · exact ⟨h.logFile, h.templatesDirectory, h.disk, h.template⟩
  · next file setup hfile =>
    split
    · next hears =>
      split
      · next disk happend =>
        rw [Bool.and_eq_true] at hears
        refine ⟨h.logFile, h.templatesDirectory, h.disk.trans ?_, h.template⟩
        -- the place of the log is the same on both disks
        have hplace : u.logPlace? = some (v.disk.placeOf file) := by
          rw [← h.logPlace?, World.logPlace?, hfile]
          rfl
        rw [hplace]
        exact Disk.alikeBut_of_append hears.2 happend
      · exact ⟨h.logFile, h.templatesDirectory, h.disk, h.template⟩
    · exact ⟨h.logFile, h.templatesDirectory, h.disk, h.template⟩

theorem answerGit (h : ReadsAs u v) (directory : Path) (command : Git.Command) :
    ReadsAs u (v.answerGit directory command).2 := by
  rw [World.answerGit]
  split <;> exact ⟨h.logFile, h.templatesDirectory, h.disk, h.template⟩

/-! ## The index template -/

theorem readTemplate (h : ReadsAs u v) (hfixed : u.HasFixedInput paths) :
    v.readTemplate = u.readTemplate := by
  rw [World.readTemplate, World.readTemplate, h.templatesDirectory]
  split
  · rfl
  · next directory hdirectory =>
    dsimp only
    rw [h.disk.file (hfixed.template directory hdirectory)]

theorem isCurrent (h : ReadsAs u v) {t : LoadedTemplate}
    (hlog : ∀ p modified, t.origin = some (p, modified) → u.LogsApart p) :
    v.isCurrent t = u.isCurrent t := by
  rw [World.isCurrent, World.isCurrent]
  split
  · rfl
  · next p modified horigin => rw [h.disk.file (hlog p modified horigin)]

end ReadsAs

/-- A template that has just been read comes from the project's own file, if it comes from a file. -/
theorem origin_of_readTemplate {t : LoadedTemplate} (h : w.readTemplate = .ok t) :
    t.origin = none ∨ ∃ directory f, w.templatesDirectory = some directory ∧
      w.disk.file (directory.child templateName) = .ok f ∧
      t.origin = some (directory.child templateName, f.modified) := by
  rw [readTemplate] at h
  split at h
  · rw [← Except.ok.inj h]
    exact .inl rfl
  · next directory hdirectory =>
    dsimp only at h
    split at h
    · rw [← Except.ok.inj h]
      exact .inl rfl
    · next f hfile =>
      split at h
      · rw [← Except.ok.inj h]
        exact .inr ⟨directory, f, hdirectory, hfile, rfl⟩
      · cases h

/-- A template that has just been read is the one to use. -/
theorem isCurrent_of_readTemplate {t : LoadedTemplate} (h : w.readTemplate = .ok t) :
    w.isCurrent t = true := by
  rw [isCurrent]
  rcases origin_of_readTemplate h with hnone | ⟨directory, f, -, hfile, hsome⟩
  · rw [hnone]
  · rw [hsome]
    dsimp only
    rw [hfile]
    exact decide_eq_true rfl

namespace ReadsAs

/-- The template in use is the one that was in use at first, or one that has been read since. -/
theorem filter_isCurrent (h : ReadsAs u v) (hfixed : u.HasFixedInput paths) :
    v.template.filter v.isCurrent = u.template.filter u.isCurrent ∨
      u.template.filter u.isCurrent = none ∧
        ∃ t, u.readTemplate = .ok t ∧ v.template.filter v.isCurrent = some t := by
  -- the file that a template has been read from is not written, and tells the same later on
  have hold : u.template.filter v.isCurrent = u.template.filter u.isCurrent := by
    cases htemplate : u.template with
    | none => rfl
    | some t =>
      have hcurrent := h.isCurrent fun p modified => hfixed.loaded t p modified htemplate
      rw [Option.filter_some, Option.filter_some, hcurrent]
  have hfresh : ∀ t, u.readTemplate = .ok t → v.isCurrent t = true := by
    intro t ht
    rw [← h.readTemplate hfixed] at ht
    exact isCurrent_of_readTemplate ht
  rcases h.template with htemplate | htemplate
  · rw [htemplate]
    exact .inl hold
  · -- the template has been read once more in between
    rw [htemplate, World.indexTemplate]
    cases hfilter : u.template.filter u.isCurrent with
    | some t =>
      dsimp only
      rw [hold]
      exact .inl hfilter
    | none =>
      dsimp only
      rcases hone : u.readTemplate with e | t
      · exact .inl rfl
      · refine .inr ⟨rfl, t, rfl, ?_⟩
        dsimp only
        rw [Option.filter_some, hfresh t hone, if_pos rfl]

/-- The index template in use is read as it was at first, and it stays in use. -/
theorem indexTemplate (h : ReadsAs u v) (hfixed : u.HasFixedInput paths) :
    v.indexTemplate.1 = u.indexTemplate.1 ∧ ReadsAs u v.indexTemplate.2 := by
  have hread := h.readTemplate hfixed
  rw [World.indexTemplate, World.indexTemplate]
  rcases h.filter_isCurrent hfixed with hsame | ⟨hnone, t, ht, hsome⟩
  · rw [hsame, hread]
    cases hfilter : u.template.filter u.isCurrent with
    | some t => exact ⟨rfl, h⟩
    | none =>
      dsimp only
      rcases hone : u.readTemplate with e | t
      · refine ⟨rfl, h.logFile, h.templatesDirectory, h.disk, .inr ?_⟩
        rw [World.indexTemplate, hfilter, hone]
      · refine ⟨rfl, h.logFile, h.templatesDirectory, h.disk, .inr ?_⟩
        rw [World.indexTemplate, hfilter, hone]
  · rw [hsome, hnone, ht]
    exact ⟨rfl, h⟩

end ReadsAs

end World

end ComponentBook
