import ComponentBook.Proofs.Markdown.PageDescription
import ComponentBook.Proofs.Text.Words

/-! # Pages with a description of one line

The description of a source is one line, and so is the one read from a page that was written with it,
unless it opens a section (**`description?_page_line`**). A page that is written once more, with the
description that it gives, is the same page (**`page_of_description?_page`**): the line is the same, or
it is the row of a table whose last pipe is already there. -/

namespace ComponentBook.Markdown

open Text (IsPlain OneLine isFilled)

variable {locale : Locale} {codeLanguage : Text} {existing : Option Text} {c : Component}
  {line : Text}

/-! ## Rows of a table -/

theorem kind_of_head?_pipe (hline : IsPlain line) (hhead : line.head? = some '|') :
    LineKind.of line = .row := by
  have hfence : opensFence line = false := by
    rw [Bool.eq_false_iff]
    intro hopens
    rw [head?_of_opensFence hline hopens] at hhead
    cases hhead
  obtain ⟨rest, rfl⟩ := List.head?_eq_some_iff.1 hhead
  rw [LineKind.of, hfence, hline.strip_eq]
  rfl

/-- A row behind a title is a table of its own. -/
theorem ofLines_row (name : Text) (hline : IsPlain line) (hhead : line.head? = some '|')
    (rest : List Text) :
    Block.ofLines (titleLine name :: [] :: line :: [] :: rest)
      = .heading (titleLine name).strip :: .table [closeRow line] :: Block.ofLines rest := by
  have hblank : LineKind.of [] = .blank := rfl
  have hnot : (LineKind.of [] = LineKind.row) = False := by simp [hblank]
  rw [Block.ofLines, kind_titleLine, Block.ofLines, hblank, Block.ofLines,
    kind_of_head?_pipe hline hhead]
  dsimp only
  rw [List.takeWhile_cons_of_neg (by simp [hblank]), List.dropWhile_cons_of_neg (by simp [hblank]),
    List.map_singleton, hline.strip_eq, Block.ofLines, hblank]

/-! ## The lines of a page -/

theorem chosenDescription_of_plain (hline : IsPlain line) (own : Text) :
    chosenDescription (some line) own = line :=
  chosenDescription_of_strip_eq hline.ne_nil hline.strip_eq own

/-- **The description of a page with a line of description.** It is what the layout makes of the line,
unless the line opens a section. -/
theorem description?_page_line (hlocale : locale ∈ Locale.all) (hname : FitsTitle c.name)
    (hline : IsPlain line) (hchosen : chosenDescription existing c.description = line) :
    description? (page locale codeLanguage existing c)
      = if opensSection line then none else some (laidLine line) := by
  have hls : ∀ l ∈ [line], IsPlain l := List.forall_mem_singleton.2 hline
  have hd : (chosenDescription existing c.description).strip = Text.join ['\n'] [line] := by
    rw [hchosen, hline.strip_eq]
    rfl
  rw [description?_page hlocale hname hls hd, layLines_cons, layLine_false_of_plain hline,
    ← (laidAs_laidLine hline).opensSection_eq hline]
  show joinLines? ([laidLine line].takeWhile fun l => !opensSection l) = _
  rw [List.takeWhile_cons]
  cases opensSection (laidLine line) <;> rfl

/-- A page without a line of description gives none. -/
theorem description?_page_nil (hlocale : locale ∈ Locale.all) (hname : FitsTitle c.name)
    (hchosen : chosenDescription existing c.description = []) :
    description? (page locale codeLanguage existing c) = none := by
  have hd : (chosenDescription existing c.description).strip = Text.join ['\n'] [] := by
    rw [hchosen]
    rfl
  rw [description?_page hlocale hname (List.forall_mem_nil _) hd]
  rfl

/-! ## Writing a page once more -/

/-- A page depends on its description without the blanks at its ends. -/
theorem page_congr {other : Option Text}
    (h : (chosenDescription existing c.description).strip
      = (chosenDescription other c.description).strip) :
    page locale codeLanguage existing c = page locale codeLanguage other c := by
  rw [page, page, pageDraft_eq, pageDraft_eq, h]

/-- A row of a table can have its last pipe already. -/
theorem page_closeRow {other : Option Text} (hname : FitsTitle c.name) (hline : IsPlain line)
    (hhead : line.head? = some '|') (hchosen : chosenDescription existing c.description = line)
    (hother : chosenDescription other c.description = closeRow line) :
    page locale codeLanguage other c = page locale codeLanguage existing c := by
  have hclosed := isPlain_closeRow hline
  -- both pages are a title, a table with that one row, and the same blocks behind it
  have hblocks {d : Option Text} {l : Text} (hl : IsPlain l) (hlhead : l.head? = some '|')
      (hd : chosenDescription d c.description = l) :
      Block.ofLines (pageLines (Text.join ['\n'] (pageDraft locale codeLanguage d c)))
        = .heading (titleLine c.name).strip :: .table [closeRow l] ::
          Block.ofLines (pageLines (Text.join ['\n'] (sectionsDraft locale codeLanguage c))) := by
    rw [pageLines_pageDraft hname (List.forall_mem_singleton.2 hl)
      (by rw [hd, hl.strip_eq, Text.join_singleton])]
    exact ofLines_row c.name hl hlhead _
  rw [page, page, tidy, tidy, hblocks hline hhead hchosen,
    hblocks hclosed (head?_closeRow hhead) hother, closeRow_closeRow]

/-- What the layout makes of a line of description may stand in the place of the line. -/
theorem page_laidLine (hname : FitsTitle c.name) (hline : IsPlain line)
    (hchosen : chosenDescription existing c.description = line) :
    page locale codeLanguage (some (laidLine line)) c = page locale codeLanguage existing c := by
  have hlaid := chosenDescription_of_plain ((laidAs_laidLine hline).isPlain hline) c.description
  by_cases hrow : LineKind.of line = .row
  · rw [laidLine, if_pos hrow] at hlaid ⊢
    exact page_closeRow hname hline (head?_of_row hline hrow) hchosen hlaid
  · rw [laidLine, if_neg hrow] at hlaid ⊢
    exact page_congr (by rw [hlaid, hchosen])

/-- **A page that is written once more is the same page.** The first page is written with a line of
description; the second one with the description that the first one gives. A description that was kept
for the first page must not open a section, since it would not be found again. -/
theorem page_of_description?_page (hlocale : locale ∈ Locale.all) (hname : FitsTitle c.name)
    (hown : OneLine c.description)
    (hexisting : ∀ d, existing = some d → IsPlain d ∧ opensSection d = false) :
    page locale codeLanguage (description? (page locale codeLanguage existing c)) c
      = page locale codeLanguage existing c := by
  -- a description that was kept is found again; one of the source itself may open a section, and is then
  -- written anew from the source
  cases existing with
  | some d =>
    obtain ⟨hplain, hsection⟩ := hexisting d rfl
    have hchosen := chosenDescription_of_plain hplain c.description
    rw [description?_page_line hlocale hname hplain hchosen, hsection]
    exact page_laidLine hname hplain hchosen
  | none =>
    rcases hown with hnil | hplain
    · have hchosen : chosenDescription none c.description = [] := hnil
      rw [description?_page_nil hlocale hname hchosen]
    · rw [description?_page_line hlocale hname hplain rfl]
      split
      · rfl
      · exact page_laidLine hname hplain rfl

/-- What is read from a page with a line of description is such a line again, and it does not open a
section. -/
theorem plain_of_description?_page (hlocale : locale ∈ Locale.all) (hname : FitsTitle c.name)
    (hown : OneLine c.description) (hexisting : ∀ d, existing = some d → IsPlain d) {d : Text}
    (hd : description? (page locale codeLanguage existing c) = some d) :
    IsPlain d ∧ opensSection d = false := by
  have hline {line : Text} (hline : IsPlain line)
      (hchosen : chosenDescription existing c.description = line) :
      IsPlain d ∧ opensSection d = false := by
    have hlaid := laidAs_laidLine hline
    rw [description?_page_line hlocale hname hline hchosen] at hd
    split at hd
    · cases hd
    · next hsection =>
      obtain rfl := Option.some.inj hd
      rw [hlaid.opensSection_eq hline]
      exact ⟨hlaid.isPlain hline, Bool.eq_false_iff.2 hsection⟩
  cases existing with
  | some e => exact hline (hexisting e rfl) (chosenDescription_of_plain (hexisting e rfl) _)
  | none =>
    rcases hown with hnil | hplain
    · have hchosen : chosenDescription none c.description = [] := hnil
      rw [description?_page_nil hlocale hname hchosen] at hd
      cases hd
    · exact hline hplain rfl

end ComponentBook.Markdown
