import ComponentBook.Markdown.Description
import ComponentBook.Proofs.Text.Lines

/-! # Reading the description of a page

The description of a page is decided by its filled lines (**`description?_eq_of_filledLines`**): blank
lines neither open a title or a section nor belong to a description. What is read consists of plain
lines (**`exists_plain_of_description?`**). -/

namespace ComponentBook.Markdown

open Text (isFilled filledLines IsPlain)

/-! ## Reading by filled lines -/

/-- The line of a title. -/
def opensTitle (line : Text) : Bool := line.startsWith "# ".toList

/-- The line of a section. -/
def opensSection (line : Text) : Bool := line.startsWith "## ".toList

theorem isFilled_of_startsWith {line start : Text} (h : line.startsWith start = true)
    (hstart : isFilled start = true) : isFilled line = true := by
  obtain ⟨rest, rfl⟩ := List.isPrefixOf_iff_prefix.1 h
  rw [isFilled, Bool.not_eq_true', Bool.eq_false_iff, ne_eq, Text.allBlank_eq_true_iff] at *
  exact fun hall => hstart fun c hc => hall c (List.mem_append_left _ hc)

theorem isFilled_of_opensTitle {line : Text} (h : opensTitle line = true) : isFilled line = true :=
  isFilled_of_startsWith h rfl

theorem isFilled_of_opensSection {line : Text} (h : opensSection line = true) :
    isFilled line = true :=
  isFilled_of_startsWith h rfl

variable {α : Type} {p q : α → Bool}

/-- What is dropped anyway may be filtered out first. -/
theorem dropWhile_filter (h : ∀ a, q a = false → p a = true) (l : List α) :
    (l.filter q).dropWhile p = (l.dropWhile p).filter q := by
  induction l with
  | nil => rfl
  | cons a l ih =>
    cases hq : q a with
    | true =>
      rw [List.filter_cons_of_pos hq]
      by_cases hp : p a = true
      · rw [List.dropWhile_cons_of_pos hp, List.dropWhile_cons_of_pos hp, ih]
      · rw [List.dropWhile_cons_of_neg hp, List.dropWhile_cons_of_neg hp,
          List.filter_cons_of_pos hq]
    | false =>
      rw [List.filter_cons_of_neg (by simp [hq]), ih, List.dropWhile_cons_of_pos (h a hq)]

/-- What is taken anyway may be filtered out first. -/
theorem takeWhile_filter (h : ∀ a, q a = false → p a = true) (l : List α) :
    (l.filter q).takeWhile p = (l.takeWhile p).filter q := by
  induction l with
  | nil => rfl
  | cons a l ih =>
    cases hq : q a with
    | true =>
      rw [List.filter_cons_of_pos hq]
      by_cases hp : p a = true
      · rw [List.takeWhile_cons_of_pos hp, List.takeWhile_cons_of_pos hp,
          List.filter_cons_of_pos hq, ih]
      · rw [List.takeWhile_cons_of_neg hp, List.takeWhile_cons_of_neg hp, List.filter_nil]
    | false =>
      rw [List.filter_cons_of_neg (by simp [hq]), ih, List.takeWhile_cons_of_pos (h a hq),
        List.filter_cons_of_neg (by simp [hq])]

theorem any_filter_of_imp (h : ∀ a, p a = true → q a = true) (l : List α) :
    (l.filter q).any p = l.any p := by
  rw [Bool.eq_iff_iff, List.any_eq_true, List.any_eq_true]
  constructor
  · rintro ⟨a, ha, hp⟩
    exact ⟨a, (List.mem_filter.1 ha).1, hp⟩
  · rintro ⟨a, ha, hp⟩
    exact ⟨a, List.mem_filter.2 ⟨ha, h a hp⟩, hp⟩

/-- Without a title nothing stands between title and section. -/
theorem betweenTitleAndSection?_of_nil {lines : List Text}
    (h : lines.dropWhile (fun l => !opensTitle l) = []) : betweenTitleAndSection? lines = none := by
  rw [betweenTitleAndSection?]
  split
  · rfl
  · next title rest hdrop => cases h.symm.trans hdrop

/-- Behind a title stand the lines up to the first one that opens a section, if there is one. -/
theorem betweenTitleAndSection?_of_cons {lines rest : List Text} {title : Text}
    (h : lines.dropWhile (fun l => !opensTitle l) = title :: rest) :
    betweenTitleAndSection? lines
      = if rest.any opensSection then some (rest.takeWhile fun l => !opensSection l) else none := by
  rw [betweenTitleAndSection?]
  split
  · next hdrop => cases h.symm.trans hdrop
  · next title' rest' hdrop =>
    obtain ⟨-, rfl⟩ := List.cons.inj (h.symm.trans hdrop)
    rfl

/-- Between title and section the filled lines are those of all lines. -/
theorem betweenTitleAndSection?_filter (lines : List Text) :
    betweenTitleAndSection? (lines.filter isFilled)
      = (betweenTitleAndSection? lines).map (List.filter isFilled) := by
  have htitle : ∀ l : Text, isFilled l = false → (!opensTitle l) = true := by
    intro l hl
    cases hopen : opensTitle l with
    | false => rfl
    | true => rw [isFilled_of_opensTitle hopen] at hl; cases hl
  have hsection : ∀ l : Text, isFilled l = false → (!opensSection l) = true := by
    intro l hl
    cases hopen : opensSection l with
    | false => rfl
    | true => rw [isFilled_of_opensSection hopen] at hl; cases hl
  have hfilter := dropWhile_filter htitle lines
  cases hdrop : lines.dropWhile (fun l => !opensTitle l) with
  | nil =>
    rw [hdrop] at hfilter
    rw [betweenTitleAndSection?_of_nil hdrop, betweenTitleAndSection?_of_nil hfilter]
    rfl
  | cons title rest =>
    -- the title is a filled line, so it stays when blank lines are left out
    have hopens : opensTitle title = true := by
      have hnot := List.head?_dropWhile_not (fun l => !opensTitle l) lines
      rw [hdrop] at hnot
      simpa using hnot
    rw [hdrop, List.filter_cons_of_pos (isFilled_of_opensTitle hopens)] at hfilter
    rw [betweenTitleAndSection?_of_cons hdrop, betweenTitleAndSection?_of_cons hfilter,
      any_filter_of_imp (fun _ => isFilled_of_opensSection), takeWhile_filter hsection]
    split <;> rfl

/-- Lines joined to a text, if there are any. -/
def joinLines? (lines : List Text) : Option Text :=
  if lines.isEmpty then none else some (Text.join ['\n'] lines)

/-- The description of a page is decided by its filled lines. -/
theorem description?_eq_of_filledLines (page : Text) :
    description? page
      = (betweenTitleAndSection? page.filledLines).bind fun between =>
          joinLines? (between.map Text.strip) := by
  rw [description?, filledLines, betweenTitleAndSection?_filter]
  cases betweenTitleAndSection? page.lines with
  | none => rfl
  | some between =>
    show (do
        guard (!((between.filter isFilled).map Text.strip).isEmpty)
        return Text.join ['\n'] ((between.filter isFilled).map Text.strip))
      = joinLines? ((between.filter isFilled).map Text.strip)
    cases (between.filter isFilled).map Text.strip with
    | nil => rfl
    | cons l ls => rfl

theorem joinLines?_eq_some_iff {lines : List Text} {t : Text} :
    joinLines? lines = some t ↔ lines ≠ [] ∧ Text.join ['\n'] lines = t := by
  cases lines with
  | nil => simp [joinLines?]
  | cons l ls => simp [joinLines?]

/-- A description consists of plain lines. -/
theorem exists_plain_of_description? {page d : Text} (h : description? page = some d) :
    ∃ ls : List Text, ls ≠ [] ∧ (∀ l ∈ ls, IsPlain l) ∧ d = Text.join ['\n'] ls := by
  rw [description?_eq_of_filledLines] at h
  obtain ⟨between, hbetween, hd⟩ := Option.bind_eq_some_iff.1 h
  obtain ⟨hne, rfl⟩ := joinLines?_eq_some_iff.1 hd
  refine ⟨_, hne, fun l hl => ?_, rfl⟩
  obtain ⟨line, hline, rfl⟩ := List.mem_map.1 hl
  rw [filledLines, betweenTitleAndSection?_filter] at hbetween
  obtain ⟨all, hall, rfl⟩ := Option.map_eq_some_iff.1 hbetween
  obtain ⟨hmem, hfilled⟩ := List.mem_filter.1 hline
  refine IsPlain.of_strip hfilled (Text.isLineBreak_eq_false_of_mem_lines (t := page) ?_)
  -- the line stands behind the title of the page, and so it is one of its lines
  cases hdrop : page.lines.dropWhile (fun l => !opensTitle l) with
  | nil =>
    rw [betweenTitleAndSection?_of_nil hdrop] at hall
    cases hall
  | cons title rest =>
    rw [betweenTitleAndSection?_of_cons hdrop] at hall
    split at hall
    · rw [Option.some.injEq] at hall
      rw [← hall] at hmem
      have hrest : line ∈ title :: rest :=
        List.mem_cons_of_mem title ((List.takeWhile_sublist _).subset hmem)
      rw [← hdrop] at hrest
      exact (List.dropWhile_sublist _).subset hrest
    · cases hall

end ComponentBook.Markdown
