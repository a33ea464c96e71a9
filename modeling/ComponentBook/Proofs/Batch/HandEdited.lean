import ComponentBook.Proofs.Batch.Document
import ComponentBook.Proofs.Markdown.PageDescription

/-! # Descriptions edited by hand

A page that is written anew keeps the description of the page that was there. What is kept are the
lines up to the first one that opens a section (**`description?_newPage`**): such a line can stand in a
description, since a description is read without the blank characters in front of its lines, and on
the new page it does open a section. So a description keeps all its lines exactly when none of them
opens a section (**`keepsLines_documentFile_iff`**). -/

namespace ComponentBook.Batch

open Markdown (FitsTitle LaidAs description? joinLines? opensSection)
open Text (IsPlain)

/-- A description has the lines of another one, each as the layout leaves it. -/
def KeepsLines (before : Text) (after : Option Text) : Prop :=
  ∃ t, after = some t ∧ List.Forall₂ LaidAs before.lines t.lines

/-- The lines of a description in front of the first one that opens a section. -/
def linesBeforeSection (description : Text) : List Text :=
  description.lines.takeWhile fun l => !opensSection l

/-- Lines that are related one by one, taken up to where a property ends on both sides. -/
theorem forall₂_takeWhile {α β : Type} {R : α → β → Prop} {p : α → Bool} {q : β → Bool}
    {as : List α} {bs : List β} (h : List.Forall₂ R as bs) (hpq : ∀ a ∈ as, ∀ b, R a b → p a = q b) :
    List.Forall₂ R (as.takeWhile p) (bs.takeWhile q) := by
  induction h with
  | nil => exact .nil
  | cons hab _ ih =>
    have htail := ih fun a ha => hpq a (List.mem_cons_of_mem _ ha)
    rw [List.takeWhile_cons, List.takeWhile_cons, ← hpq _ List.mem_cons_self _ hab]
    split
    · exact .cons hab htail
    · exact .nil

/-- Everything is taken exactly when everything has the property. -/
theorem takeWhile_eq_self_of_length {α : Type} {p : α → Bool} {l : List α}
    (h : (l.takeWhile p).length = l.length) : ∀ a ∈ l, p a = true :=
  List.takeWhile_eq_self_iff.1 ((List.takeWhile_prefix p).eq_of_length h)

section

variable {s : Settings} {c : Component} {old e : Text}

/-- A description that is there is the one of the new page. -/
theorem strip_chosenDescription {own : Text} {ls : List Text} (hne : ls ≠ [])
    (hls : ∀ l ∈ ls, IsPlain l) :
    (Markdown.chosenDescription (some (Text.join ['\n'] ls)) own).strip = Text.join ['\n'] ls := by
  obtain ⟨l, rest, rfl⟩ := List.exists_cons_of_ne_nil hne
  have hstrip : (Text.join ['\n'] (l :: rest)).strip = Text.join ['\n'] (l :: rest) :=
    Text.strip_join fun k hk => ⟨(hls k hk).ne_nil, (hls k hk).strip_eq⟩
  have hjoined : Text.join ['\n'] (l :: rest) ≠ [] :=
    Text.join_ne_nil _ rest (hls l List.mem_cons_self).ne_nil
  rw [Markdown.chosenDescription_of_strip_eq hjoined hstrip, hstrip]

/-- **What a new page keeps of a description.** Its lines up to the first one that opens a section,
each as the layout leaves it. -/
theorem description?_newPage (hlocale : s.locale ∈ Locale.all) (hname : FitsTitle c.name)
    (he : description? old = some e) :
    ∃ kept, description? (newPage s (some old) c) = joinLines? kept ∧ (∀ l ∈ kept, IsPlain l) ∧
      List.Forall₂ LaidAs (linesBeforeSection e) kept := by
  obtain ⟨ls, hne, hls, rfl⟩ := Markdown.exists_plain_of_description? he
  rw [newPage, Option.bind_some, he, linesBeforeSection, Text.lines_join hls]
  refine ⟨_, Markdown.description?_page hlocale hname hls (strip_chosenDescription hne hls), ?_, ?_⟩
  · intro l hl
    exact Markdown.isPlain_of_mem_layLines false hls l ((List.takeWhile_sublist _).subset hl)
  · refine forall₂_takeWhile (Markdown.forall₂_layLines false hls) fun l hl k hlk => ?_
    rw [hlk.opensSection_eq (hls l hl)]

theorem keepsLines_newPage_iff (hlocale : s.locale ∈ Locale.all) (hname : FitsTitle c.name)
    (he : description? old = some e) :
    KeepsLines e (description? (newPage s (some old) c)) ↔
      ∀ l ∈ e.lines, opensSection l = false := by
  obtain ⟨kept, hkept, hplain, hlaid⟩ := description?_newPage hlocale hname he
  obtain ⟨ls, hne, hls, rfl⟩ := Markdown.exists_plain_of_description? he
  rw [hkept]
  rw [linesBeforeSection, Text.lines_join hls] at hlaid
  rw [KeepsLines, Text.lines_join hls]
  constructor
  · rintro ⟨t, ht, hlines⟩
    obtain ⟨-, rfl⟩ := Markdown.joinLines?_eq_some_iff.1 ht
    rw [Text.lines_join hplain] at hlines
    -- the lines that are kept are as many as all lines, so none is left out
    have hlength := hlaid.length_eq.trans hlines.length_eq.symm
    intro l hl
    simpa using takeWhile_eq_self_of_length hlength l hl
  · intro hsection
    -- no line opens a section, so all of them are taken
    have hall : (ls.takeWhile fun l => !opensSection l) = ls :=
      List.takeWhile_eq_self_iff.2 fun l hl => by rw [hsection l hl]; rfl
    rw [hall] at hlaid
    have hkeptNe : kept ≠ [] := by
      rintro rfl
      exact hne (List.forall₂_nil_right_iff.1 hlaid)
    refine ⟨_, Markdown.joinLines?_eq_some_iff.2 ⟨hkeptNe, rfl⟩, ?_⟩
    rw [Text.lines_join hplain]
    exact hlaid

end

variable {s : Settings} {path : Path} {w : World} {source old e : Text}

/-- **When a description survives.** A source is documented whose component has a page with a
description. The new page keeps the lines of the description up to the first one that opens a section,
and it keeps all of them exactly when no line opens a section. -/
theorem keepsLines_documentFile_iff (hlocale : s.locale ∈ Locale.all)
    (hsource : w.disk.read path = .ok source)
    (hname : FitsTitle (describe s source path.stem).name)
    (hold : w.readPage (describe s source path.stem).name = .ok (some old))
    (he : description? old = some e) (hlogSource : w.LogsApart path)
    (hlogPage : w.LogsApartFromPage (describe s source path.stem).name)
    (hsuccess : (w.run (documentFile s path)).1.success = true) :
    ∃ new, (w.run (documentFile s path)).2.readPage (describe s source path.stem).name
        = .ok (some new) ∧
      (∃ kept, description? new = joinLines? kept ∧
        List.Forall₂ LaidAs (linesBeforeSection e) kept) ∧
      (KeepsLines e (description? new) ↔ ∀ l ∈ e.lines, opensSection l = false) := by
  obtain ⟨source', old', saved, hdoc⟩ := documents_of_success hsuccess
  -- the log leaves the source and the page as they are until they are read
  obtain ⟨u, hu, hread, hpage⟩ := hdoc.read
  rw [hu.read hlogSource hsource] at hread
  obtain rfl := Except.ok.inj hread
  rw [hu.readPage hlogPage hold] at hpage
  obtain rfl := Except.ok.inj hpage
  refine ⟨_, hdoc.readPage hlogPage (Markdown.carriageReturn_not_mem_tidy _), ?_,
    keepsLines_newPage_iff hlocale hname he⟩
  obtain ⟨kept, hkept, -, hlaid⟩ := description?_newPage hlocale hname he
  exact ⟨kept, hkept, hlaid⟩

/-- The sample project with a page that has been edited by hand. -/
def editedWorld (page : Text) : World :=
  sampleWorld bareSource (.memory { pages := [("X".toList, page)] })

/-- A description of two lines survives. -/
theorem keepsLines_documentFile_of_plain_lines :
    ∃ new, ((editedWorld "# X\n\nsome\n| text\n\n## Example\n".toList).run
        (documentFile sampleSettings samplePath)).2.readPage "X".toList = .ok (some new) ∧
      KeepsLines "some\n| text".toList (description? new) := by
  obtain ⟨new, hnew, -, hiff⟩ := @keepsLines_documentFile_iff sampleSettings samplePath
    (editedWorld "# X\n\nsome\n| text\n\n## Example\n".toList) bareSource
    "# X\n\nsome\n| text\n\n## Example\n".toList "some\n| text".toList
    List.mem_cons_self (by rfl)
    ⟨by rw [name_bareSource]; rfl, by rw [name_bareSource]; exact Text.no_break_of_all rfl⟩
    (by rw [name_bareSource]; rfl) (by decide +kernel) nofun True.intro (by decide +kernel)
  rw [name_bareSource] at hnew
  exact ⟨new, hnew, hiff.2 (by decide +kernel)⟩

/-- An indented line that looks like a section is read as a line of the description, but it is lost
together with what stands behind it. -/
theorem not_keepsLines_of_indented_section :
    ∃ old e new, description? old = some e ∧
      ((editedWorld old).run (documentFile sampleSettings samplePath)).1.success = true ∧
      ((editedWorld old).run (documentFile sampleSettings samplePath)).2.readPage "X".toList
        = .ok (some new) ∧
      ¬ KeepsLines e (description? new) := by
  refine ⟨"# X\n\nintro\n\n  ## Usage\nmore\n\n## Example\n".toList,
    "intro\n## Usage\nmore".toList,
    newPage sampleSettings (some "# X\n\nintro\n\n  ## Usage\nmore\n\n## Example\n".toList)
      (describe sampleSettings bareSource samplePath.stem),
    by decide +kernel, by decide +kernel, by decide +kernel, ?_⟩
  rintro ⟨t, ht, hlines⟩
  have hlength := hlines.length_eq
  rw [← Option.some.inj ((by decide +kernel : description? _ = some "intro".toList).symm.trans ht)]
    at hlength
  revert hlength
  decide

end ComponentBook.Batch
