import ComponentBook.Proofs.Markdown.Canonical

/-! # Sections of a page

A page that is made of headings with a paragraph below each of them can be given by its sections. Sections
whose headings and lines are such for every reader, without line ends and without blanks that could be lost
(**`Section.IsSound`**), stand as they are: a page with their lines is laid out as their text
(**`tidy_of_sections`**), and that text has the same lines (`pageLines_text`). -/

namespace ComponentBook.Markdown

/-! ## Sections -/

/-- A heading and the lines of the paragraph below it. -/
structure Section where
  heading : Text
  lines : List Text
  deriving DecidableEq, Repr

namespace Section

/-- The text of sections, whose headings and paragraphs have one blank line between them. -/
def text (sections : List Section) : Text :=
  Text.join ['\n', '\n'] (sections.flatMap fun s => [s.heading, Text.join ['\n'] s.lines]) ++ ['\n']

/-- The blocks of a section. -/
def blocks (s : Section) : List Block := [.heading s.heading, .paragraph s.lines]

/-- The lines of a section, with a blank line behind the heading and another one at the end. -/
def spacedLines (s : Section) : List Text := s.heading :: [] :: (s.lines ++ [[]])

end Section

/-! ## Sections that stand as they are -/

/-- A line of a kind, with nothing that the layout could change and without line ends. -/
def StandsAs (kind : LineKind) (l : Text) : Prop :=
  LineKind.of l = kind ∧ l.strip = l ∧ '\n' ∉ l ∧ '\r' ∉ l

instance (kind : LineKind) (l : Text) : Decidable (StandsAs kind l) :=
  inferInstanceAs (Decidable (_ ∧ _))

/-- A section with a heading and one or more lines of prose. -/
structure Section.IsSound (s : Section) : Prop where
  heading : StandsAs .heading s.heading
  filled : s.lines ≠ []
  prose : ∀ l ∈ s.lines, StandsAs .prose l

variable {sections : List Section} {s : Section} {page : Text} {ls : List Text}

/-- The lines of a section have no line ends in them. -/
theorem Section.IsSound.apart (h : s.IsSound) : ∀ l ∈ s.spacedLines, '\n' ∉ l ∧ '\r' ∉ l := by
  have hblank : '\n' ∉ ([] : Text) ∧ '\r' ∉ ([] : Text) := ⟨List.not_mem_nil, List.not_mem_nil⟩
  intro l hl
  simp only [spacedLines, List.mem_cons, List.mem_append, List.not_mem_nil, or_false] at hl
  rcases hl with rfl | rfl | hl | rfl
  · exact h.heading.2.2
  · exact hblank
  · exact (h.prose l hl).2.2
  · exact hblank

theorem Section.IsSound.isCanonical (h : s.IsSound) : ∀ b ∈ s.blocks, b.IsCanonical := by
  obtain ⟨l, ls, hls⟩ := List.exists_cons_of_ne_nil h.filled
  have hprose := h.prose
  rw [hls] at hprose
  rw [Section.blocks, List.forall_mem_cons, List.forall_mem_singleton, hls]
  refine ⟨.heading h.heading.2.1 h.heading.1, .paragraph fun l hl => ?_⟩
  obtain ⟨hkind, hstrip, -, -⟩ := hprose l hl
  exact ⟨hkind, Text.stripRight_of_strip_eq hstrip⟩

theorem isCanonical_of_mem_sections (hsound : ∀ s ∈ sections, s.IsSound) :
    ∀ b ∈ sections.flatMap Section.blocks, b.IsCanonical := by
  intro b hb
  obtain ⟨s, hs, hb⟩ := List.mem_flatMap.1 hb
  exact (hsound s hs).isCanonical b hb

/-! ## Reading and layout -/

theorem flatMap_spacedLines (sections : List Section) :
    sections.flatMap Section.spacedLines =
      (sections.flatMap Section.blocks).flatMap fun b => b.lines ++ [[]] := by
  rw [List.flatMap_assoc]
  apply List.flatMap_congr
  intro s _
  simp [Section.spacedLines, Section.blocks, Block.lines]

/-- The lines of sections are read as their headings and paragraphs. -/
theorem ofLines_of_sections (hsound : ∀ s ∈ sections, s.IsSound) :
    Block.ofLines (sections.flatMap Section.spacedLines) = sections.flatMap Section.blocks := by
  rw [flatMap_spacedLines, ofLines_flatMap (isCanonical_of_mem_sections hsound)]

theorem flatMap_blocks_ne_nil (hne : sections ≠ []) : sections.flatMap Section.blocks ≠ [] := by
  obtain ⟨s, rest, rfl⟩ := List.exists_cons_of_ne_nil hne
  exact List.cons_ne_nil _ _

/-- **Sections stand as they are.** A page with the lines of sections is laid out as their text. -/
theorem tidy_of_sections (hne : sections ≠ []) (hsound : ∀ s ∈ sections, s.IsSound)
    (hlines : pageLines page = sections.flatMap Section.spacedLines) :
    tidy page = Section.text sections := by
  have hblocks : (sections.flatMap Section.blocks).isEmpty = false :=
    Bool.eq_false_iff.2 fun hempty => flatMap_blocks_ne_nil hne (List.isEmpty_iff.1 hempty)
  have hjoin : (sections.flatMap Section.blocks).map (fun b => Text.join ['\n'] b.lines) =
      sections.flatMap fun s => [s.heading, Text.join ['\n'] s.lines] := by
    rw [List.map_flatMap]
    rfl
  rw [tidy, hlines, ofLines_of_sections hsound, ofBlocks, hblocks, if_neg Bool.false_ne_true, hjoin,
    Section.text]

/-- The text of sections is read line by line as it was written. -/
theorem pageLines_text (hne : sections ≠ []) (hsound : ∀ s ∈ sections, s.IsSound)
    (hlines : pageLines page = sections.flatMap Section.spacedLines) :
    pageLines (Section.text sections) = sections.flatMap Section.spacedLines := by
  have hblocks : Block.ofLines (pageLines page) = sections.flatMap Section.blocks := by
    rw [hlines, ofLines_of_sections hsound]
  rw [← tidy_of_sections hne hsound hlines, pageLines_tidy (hblocks ▸ flatMap_blocks_ne_nil hne), hblocks,
    flatMap_spacedLines]

/-- Lines with a line feed behind each of them are read as they are. -/
theorem pageLines_flatMap (h : ∀ l ∈ ls, '\n' ∉ l ∧ '\r' ∉ l) :
    pageLines (ls.flatMap fun l => l ++ ['\n']) = ls ++ [[]] := by
  induction ls with
  | nil => rfl
  | cons l ls ih =>
    obtain ⟨⟨hlf, hcr⟩, hls⟩ := List.forall_mem_cons.1 h
    -- without a carriage return in front of it the line feed is a line end of its own
    have hlast : l.getLast? ≠ some '\r' := fun hlast => hcr (List.mem_of_getLast? hlast)
    rw [List.flatMap_cons, List.append_assoc, List.singleton_append, pageLines_append_newline l _ hlast,
      ih hls, pageLines, Text.unifyNewlines_of_not_mem hcr, Text.fields_of_not_mem hlf]
    rfl

end ComponentBook.Markdown
