import ComponentBook.Markdown.Page
import ComponentBook.Proofs.Markdown.PlainLines
import ComponentBook.Proofs.Text.Search

/-! # The description of a page that is written

A page is written with a description and read for one. **`description?_page`** says what the reading
gives: the lines that the layout makes of the description, up to the first one that opens a section.
The description is given by its plain lines; what stands behind it on the page does not matter, not
even when the description opens a fence that it does not close. -/

namespace ComponentBook.Markdown

open Text (isFilled filledLines IsPlain)

/-- A name that can stand in a title: it is not blank and stands on one line. -/
structure FitsTitle (name : Text) : Prop where
  filled : isFilled name = true
  no_break : ∀ c ∈ name, Text.isLineBreak c = false

/-- The line of a title with a name. -/
def titleLine (name : Text) : Text := "# ".toList ++ name

/-- The lines of a page behind its description, before they are laid out. -/
def sectionsDraft (locale : Locale) (codeLanguage : Text) (c : Component) : List Text :=
  exampleSection locale codeLanguage c.usage ++
  (if c.properties.isEmpty then [] else propsSection locale c.properties) ++
  (if c.template.allBlank then [] else templateSection locale codeLanguage c.template) ++
  (if c.styles.isEmpty then [] else styleSection locale c.styles)

/-- The lines of a description and the blank line behind it, before they are laid out. -/
def descriptionDraft (description : Text) : List Text :=
  if description.isEmpty then [] else [description, []]

theorem pageDraft_eq (locale : Locale) (codeLanguage : Text) (existing : Option Text)
    (c : Component) :
    pageDraft locale codeLanguage existing c
      = [titleLine c.name, []]
        ++ descriptionDraft (chosenDescription existing c.description).strip
        ++ sectionsDraft locale codeLanguage c := by
  simp only [pageDraft, sectionsDraft, descriptionDraft, titleLine, List.append_assoc]

/-- A description that is there, without blanks at its ends, is the one of the page. -/
theorem chosenDescription_of_strip_eq {d : Text} (hne : d ≠ []) (hstrip : d.strip = d) (own : Text) :
    chosenDescription (some d) own = d := by
  have hfilled : d.allBlank = false := by
    rw [Bool.eq_false_iff]
    intro hblank
    rw [← Text.strip_eq_nil_iff, hstrip] at hblank
    exact hne hblank
  rw [chosenDescription, hfilled]
  rfl

/-! ## The title -/

variable {name : Text}

/-- Stripping a title takes blanks off the end of the name. -/
theorem strip_titleLine (h : FitsTitle name) :
    (titleLine name).strip = titleLine name.stripRight := by
  -- the name is not blank, so what is stripped from the right ends within it
  have hrest : name.reverse.dropWhile Text.isBlank ≠ [] := by
    intro hnil
    have hblank : name.allBlank = true :=
      Text.allBlank_eq_true_iff.2 fun c hc =>
        List.dropWhile_eq_nil_iff.1 hnil c (List.mem_reverse.2 hc)
    have hfilled := h.filled
    rw [isFilled, hblank] at hfilled
    cases hfilled
  have hleft : (titleLine name).stripLeft = titleLine name := rfl
  rw [Text.strip, hleft, Text.stripRight, Text.dropRightWhile, titleLine, List.reverse_append,
    List.dropWhile_append, if_neg (by simpa using hrest), List.reverse_append, List.reverse_reverse]
  rfl

theorem opensTitle_strip_titleLine (h : FitsTitle name) :
    opensTitle (titleLine name).strip = true := by
  rw [strip_titleLine h]
  exact List.isPrefixOf_iff_prefix.2 (List.prefix_append _ _)

theorem no_break_titleLine (h : FitsTitle name) :
    ∀ c ∈ titleLine name, Text.isLineBreak c = false :=
  List.forall_mem_append.2 ⟨Text.no_break_of_all rfl, h.no_break⟩

theorem filledLines_strip_titleLine (h : FitsTitle name) :
    (titleLine name).strip.filledLines = [(titleLine name).strip] := by
  refine (IsPlain.of_strip ?_ ?_).filledLines_eq
  · exact isFilled_of_startsWith
      (List.isPrefixOf_iff_prefix.2 (List.prefix_append "# ".toList name)) rfl
  · exact no_break_titleLine h

theorem kind_titleLine (name : Text) : LineKind.of (titleLine name) = .heading := by
  have hstrip : ∃ rest, (titleLine name).strip = '#' :: rest := by
    have hleft : (titleLine name).stripLeft = '#' :: ' ' :: name := rfl
    rw [Text.strip, hleft, Text.stripRight, Text.dropRightWhile, List.reverse_cons,
      List.dropWhile_append]
    split
    · exact ⟨[], rfl⟩
    · exact ⟨_, List.reverse_append⟩
  obtain ⟨rest, hrest⟩ := hstrip
  rw [LineKind.of, opensFence, hrest]
  rfl

theorem layLine_titleLine (name : Text) :
    layLine false (titleLine name) = (false, [(titleLine name).strip]) := by
  rw [layLine, kind_titleLine]

/-! ## The heading behind the description -/

/-- A heading is laid out as it stands, inside an open fence and outside. -/
theorem layLine_of_heading (inFence : Bool) {heading : Text} (hplain : IsPlain heading)
    (hhead : heading.head? = some '#') : layLine inFence heading = (inFence, [heading]) := by
  have hfence : opensFence heading = false := by
    rw [Bool.eq_false_iff]
    intro hopens
    rw [head?_of_opensFence hplain hopens] at hhead
    cases hhead
  cases inFence with
  | true =>
    have hcloses : closesFence heading = false := by rw [closesFence, hfence, Bool.false_and]
    rw [layLine, hcloses, if_neg Bool.false_ne_true]
  | false =>
    have hkind : LineKind.of heading = .heading := by
      obtain ⟨rest, rfl⟩ := List.head?_eq_some_iff.1 hhead
      rw [LineKind.of, hfence, hplain.strip_eq]
      rfl
    rw [layLine, hkind, hplain.strip_eq]

/-- The heading over the example is a plain line in every language. -/
theorem isPlain_exampleHeading {locale : Locale} (h : locale ∈ Locale.all) :
    IsPlain (sectionHeading locale.exampleTitle) := by
  rw [Locale.all, List.mem_cons, List.mem_singleton] at h
  rcases h with rfl | rfl <;> exact ⟨by decide, by decide, Text.no_break_of_all (by decide)⟩

theorem opensSection_sectionHeading (title : Text) : opensSection (sectionHeading title) = true :=
  List.isPrefixOf_iff_prefix.2 (List.prefix_append _ _)

/-! ## The lines of a page -/

variable {locale : Locale} {codeLanguage : Text} {existing : Option Text} {c : Component}
  {ls : List Text}

/-- Plain lines that are joined are the lines of their page. -/
theorem pageLines_join_plain (hne : ls ≠ []) (h : ∀ l ∈ ls, IsPlain l) :
    pageLines (Text.join ['\n'] ls) = ls := by
  induction ls with
  | nil => exact absurd rfl hne
  | cons l ls ih =>
    have hl := h l List.mem_cons_self
    cases ls with
    | nil => exact pageLines_of_no_break hl.no_break
    | cons k ls =>
      have hlast : l.getLast? ≠ some '\r' := by
        intro hcr
        cases hl.getLast?_not_blank hcr
      rw [Text.join_cons_cons, List.append_assoc, List.singleton_append,
        pageLines_append_newline l _ hlast, pageLines_of_no_break hl.no_break,
        ih (List.cons_ne_nil k ls) fun m hm => h m (List.mem_cons_of_mem l hm)]
      rfl

/-- The blank line behind a description that is there. -/
def gapBehind (ls : List Text) : List Text := if ls.isEmpty then [] else [[]]

theorem flatMap_pageLines_descriptionDraft (h : ∀ l ∈ ls, IsPlain l) :
    (descriptionDraft (Text.join ['\n'] ls)).flatMap pageLines = ls ++ gapBehind ls := by
  cases ls with
  | nil => rfl
  | cons l ls =>
    have hne : Text.join ['\n'] (l :: ls) ≠ [] :=
      Text.join_ne_nil _ ls (h l List.mem_cons_self).ne_nil
    rw [descriptionDraft, if_neg (by simpa using hne), List.flatMap_cons,
      pageLines_join_plain (List.cons_ne_nil l ls) h]
    rfl

/-- The lines of a page, its description being given by its lines. -/
theorem pageLines_pageDraft (hname : FitsTitle c.name) (hls : ∀ l ∈ ls, IsPlain l)
    (hd : (chosenDescription existing c.description).strip = Text.join ['\n'] ls) :
    pageLines (Text.join ['\n'] (pageDraft locale codeLanguage existing c))
      = titleLine c.name :: [] :: (ls ++ gapBehind ls)
        ++ pageLines (Text.join ['\n'] (sectionsDraft locale codeLanguage c)) := by
  have htitle := no_break_titleLine hname
  -- a carriage return at the end of a part would make one line end of the line feed behind it
  have hends : ∀ t ∈ [titleLine c.name, []] ++ descriptionDraft (Text.join ['\n'] ls),
      t.getLast? ≠ some '\r' := by
    intro t ht hcr
    rw [← hd, List.mem_append, List.mem_cons, List.mem_singleton] at ht
    rcases ht with (rfl | rfl) | ht
    · cases htitle _ (List.mem_of_getLast? hcr)
    · cases hcr
    · rw [descriptionDraft] at ht
      split at ht
      · cases ht
      · rw [List.mem_cons, List.mem_singleton] at ht
        rcases ht with rfl | rfl
        · cases Text.getLast?_strip_not_blank hcr
        · cases hcr
  rw [pageDraft_eq, hd, pageLines_join_append hends (by rw [sectionsDraft, exampleSection]; simp),
    List.flatMap_append, flatMap_pageLines_descriptionDraft hls, List.flatMap_cons,
    pageLines_of_no_break htitle]
  rfl

/-- Behind its description a page starts with the heading over the example. -/
theorem exists_pageLines_sectionsDraft (codeLanguage : Text) (c : Component)
    (hlocale : locale ∈ Locale.all) :
    ∃ rest, pageLines (Text.join ['\n'] (sectionsDraft locale codeLanguage c))
      = sectionHeading locale.exampleTitle :: rest := by
  have hplain := isPlain_exampleHeading hlocale
  -- something follows the heading, so that a line feed ends it
  obtain ⟨l, ls, hls⟩ : ∃ l ls, sectionsDraft locale codeLanguage c
      = [sectionHeading locale.exampleTitle] ++ l :: ls := ⟨_, _, rfl⟩
  rw [hls, pageLines_join_append (fun t ht hcr => ?_) (List.cons_ne_nil l ls),
    List.flatMap_singleton, pageLines_of_no_break hplain.no_break]
  · exact ⟨_, rfl⟩
  · rw [List.mem_singleton] at ht
    rw [ht] at hcr
    cases hplain.getLast?_not_blank hcr

theorem flatMap_filledLines_plain (h : ∀ l ∈ ls, IsPlain l) : ls.flatMap filledLines = ls := by
  induction ls with
  | nil => rfl
  | cons l ls ih =>
    rw [List.flatMap_cons, (h l List.mem_cons_self).filledLines_eq,
      ih fun m hm => h m (List.mem_cons_of_mem l hm)]
    rfl

/-- The blank line behind a description leaves no filled line and opens or closes nothing. -/
theorem layLines_gapBehind (inFence : Bool) (ls : List Text) :
    (layLines inFence (gapBehind ls)).1 = inFence
      ∧ (layLines inFence (gapBehind ls)).2.flatMap filledLines = [] := by
  cases ls with
  | nil => exact ⟨rfl, rfl⟩
  | cons l ls => cases inFence <;> exact ⟨rfl, rfl⟩

/-- A title and the blank line behind it are laid out as the title alone. -/
theorem layLines_titleLine (name : Text) (lines : List Text) :
    (layLines false (titleLine name :: [] :: lines)).2
      = (titleLine name).strip :: (layLines false lines).2 := by
  rw [layLines_cons, layLine_titleLine, layLines_cons]
  rfl

/-- A heading is laid out as it stands, and the lines behind it as if it were not there. -/
theorem layLines_heading (inFence : Bool) {heading : Text} (hplain : IsPlain heading)
    (hhead : heading.head? = some '#') (lines : List Text) :
    (layLines inFence (heading :: lines)).2 = heading :: (layLines inFence lines).2 := by
  rw [layLines_cons, layLine_of_heading inFence hplain hhead]
  rfl

/-- The filled lines of a page in canonical layout: its title, what the lines of the description
become, and the sections. -/
theorem exists_filledLines_page (codeLanguage : Text) (hlocale : locale ∈ Locale.all)
    (hname : FitsTitle c.name) (hls : ∀ l ∈ ls, IsPlain l)
    (hd : (chosenDescription existing c.description).strip = Text.join ['\n'] ls) :
    ∃ rest, (page locale codeLanguage existing c).filledLines
      = (titleLine c.name).strip :: ((layLines false ls).2
        ++ sectionHeading locale.exampleTitle :: rest) := by
  obtain ⟨rest, hrest⟩ := exists_pageLines_sectionsDraft codeLanguage c hlocale
  have hgap := layLines_gapBehind (layLines false ls).1 ls
  have hheading := isPlain_exampleHeading hlocale
  -- a fence that the description leaves open goes on behind the heading, which stays as it is
  rw [page, filledLines_tidy, pageLines_pageDraft hname hls hd, hrest, laidLines,
    List.cons_append, List.cons_append, layLines_titleLine, List.append_assoc, layLines_append_snd,
    layLines_append_snd, hgap.1, layLines_heading _ hheading rfl]
  simp only [List.flatMap_append, List.flatMap_cons, List.cons_append, List.append_assoc,
    filledLines_strip_titleLine hname, hgap.2, hheading.filledLines_eq, List.nil_append,
    flatMap_filledLines_plain (isPlain_of_mem_layLines false hls)]
  exact ⟨_, rfl⟩

/-- Between a title and the first section stand the lines up to the first one that opens a
section. -/
theorem betweenTitleAndSection?_cons {title heading : Text} (htitle : opensTitle title = true)
    (hheading : opensSection heading = true) (laid rest : List Text) :
    betweenTitleAndSection? (title :: (laid ++ heading :: rest))
      = some (laid.takeWhile fun l => !opensSection l) := by
  have hany : (laid ++ heading :: rest).any opensSection = true := by
    rw [List.any_append, List.any_cons, hheading, Bool.true_or, Bool.or_true]
  rw [betweenTitleAndSection?_of_cons (List.dropWhile_cons_of_neg (by simp [htitle])), if_pos hany,
    Text.takeWhile_append_cons_of_neg (by simp [hheading])]

/-- **The description of a page that is written.** It has the lines that the lines of the description
become, up to the first one that opens a section. -/
theorem description?_page (hlocale : locale ∈ Locale.all) (hname : FitsTitle c.name)
    (hls : ∀ l ∈ ls, IsPlain l)
    (hd : (chosenDescription existing c.description).strip = Text.join ['\n'] ls) :
    description? (page locale codeLanguage existing c)
      = joinLines? ((layLines false ls).2.takeWhile fun l => !opensSection l) := by
  obtain ⟨rest, hrest⟩ := exists_filledLines_page codeLanguage hlocale hname hls hd
  -- the lines have been laid out as plain lines, so reading them strips nothing off
  have hstrip : ((layLines false ls).2.takeWhile fun l => !opensSection l).map Text.strip
      = (layLines false ls).2.takeWhile fun l => !opensSection l := by
    rw [List.map_congr_left (g := id), List.map_id]
    intro l hl
    exact (isPlain_of_mem_layLines false hls l ((List.takeWhile_sublist _).subset hl)).strip_eq
  rw [description?_eq_of_filledLines, hrest,
    betweenTitleAndSection?_cons (opensTitle_strip_titleLine hname)
      (opensSection_sectionHeading locale.exampleTitle),
    Option.bind_some, hstrip]

end ComponentBook.Markdown
