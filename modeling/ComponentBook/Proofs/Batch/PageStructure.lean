import ComponentBook.Proofs.Batch.Document
import ComponentBook.Proofs.Markdown.PagePieces

/-! # The structure of a page

A page **`HasStructure`** when its sections are those that its component asks for, in their order, and the
texts inside its fences are the example, the template and the styles. What a component says is copied into
the page as it is, so that a page has this structure exactly when no line of code closes its fence and no
line of prose opens a fence or a section (**`hasStructure_describe_iff`**). A template with a line of three
backquotes breaks it (**`not_hasStructure_fencedSource`**). -/

namespace ComponentBook.Batch

open Markdown

variable {locale : Locale} {language : Text} {c : Component} {t : Text}
  {ts : List Text}

/-! ## What a page should hold -/

/-- The headings of the sections of a component, in their order. -/
def expectedHeadings (locale : Locale) (c : Component) : List Text :=
  [sectionHeading locale.exampleTitle] ++
  (if c.properties.isEmpty then [] else [sectionHeading locale.propsTitle]) ++
  (if c.template.allBlank then [] else [sectionHeading locale.templateTitle]) ++
  (if c.styles.isEmpty then [] else [sectionHeading locale.styleTitle])

/-- The code of a component: its example, its template and its styles. -/
def codeTexts (c : Component) : List Text :=
  [c.usage.strip] ++
  (if c.template.allBlank then [] else [Text.join ['\n'] (templateLines c.template)]) ++
  c.styles.map fun style => style.content.strip

/-- The sections of the component in their order, and its code in fences. -/
structure HasStructure (locale : Locale) (c : Component) (page : Text) : Prop where
  headings : sectionHeadings page = expectedHeadings locale c
  code : fenceTexts page = codeTexts c

/-! ## What may stand on a page -/

/-- The prose of a component: its title, its description, and what introduces each style. -/
def proseTexts (locale : Locale) (existing : Option Text) (c : Component) : List Text :=
  [titleLine c.name, (chosenDescription existing c.description).strip] ++ c.styles.map (styleIntro locale)

/-- A text that can stand in a fence as it is: none of its lines closes the fence. -/
def FitsFence (t : Text) : Prop := '\r' ∉ t ∧ ∀ l ∈ Text.fields '\n' t, closesFence l = false

instance (t : Text) : Decidable (FitsFence t) := inferInstanceAs (Decidable (_ ∧ _))

/-- A text that can stand between the sections: none of its lines opens a fence or a section. -/
def IsQuietText (t : Text) : Prop := ∀ l ∈ writtenLines t, IsQuiet l

instance (t : Text) : Decidable (IsQuietText t) := inferInstanceAs (Decidable (∀ _ ∈ _, _))

/-! ## What the pieces hold -/

section

-- what is read off the headings and the code of a page
variable {α : Type} {f : Piece → Option α}

theorem filterMap_prose (hf : ∀ l, f (.prose l) = none) (ls : List Text) :
    (ls.map Piece.prose).filterMap f = [] := by
  rw [List.filterMap_map]
  exact List.filterMap_eq_nil_iff.2 fun l _ => hf l

theorem filterMap_piece_cons (piece : Piece) (pieces : List Piece) :
    (piece :: pieces).filterMap f = (f piece).toList ++ pieces.filterMap f := by
  rw [List.filterMap_eq_flatMap_toList, List.flatMap_cons, ← List.filterMap_eq_flatMap_toList]

theorem filterMap_codePieces (hf : ∀ l, f (.prose l) = none) (opening : Text) (body : List Text) :
    (codePieces opening body).filterMap f = (f (.code opening body)).toList := by
  rw [codePieces, List.filterMap_cons_none (hf []), filterMap_piece_cons,
    List.filterMap_cons_none (hf []), List.filterMap_nil, List.append_nil]

theorem filterMap_frontPieces (hf : ∀ l, f (.prose l) = none) (existing : Option Text)
    (c : Component) : (frontPieces existing c).filterMap f = [] := by
  rw [frontPieces, prosePieces, List.filterMap_append, filterMap_prose hf, List.nil_append,
    List.filterMap_cons_none (hf [])]
  split
  · rfl
  · rw [List.filterMap_append, prosePieces, filterMap_prose hf, List.nil_append,
      List.filterMap_cons_none (hf []), List.filterMap_nil]

theorem filterMap_stylePieces (hf : ∀ l, f (.prose l) = none) (locale : Locale) (style : Style) :
    (stylePieces locale style).filterMap f =
      (f (.code (openingFence (styleFenceLanguage style)) (writtenLines style.content.strip))).toList := by
  rw [stylePieces, List.filterMap_append, prosePieces, filterMap_prose hf, List.nil_append,
    filterMap_codePieces hf]

/-- What the headings and the code of a page are read as, section by section. -/
theorem filterMap_pagePieces (hf : ∀ l, f (.prose l) = none) (locale : Locale)
    (existing : Option Text) (c : Component) :
    (pagePieces locale existing c).filterMap f =
      ((f (.heading (sectionHeading locale.exampleTitle))).toList ++
        (f (.code (openingFence codeLanguage) (writtenLines c.usage.strip))).toList) ++
      (if c.properties.isEmpty then [] else
        (f (.heading (sectionHeading locale.propsTitle))).toList) ++
      (if c.template.allBlank then [] else
        (f (.heading (sectionHeading locale.templateTitle))).toList ++
          (f (.code (openingFence codeLanguage) (templateLines c.template))).toList) ++
      (if c.styles.isEmpty then [] else
        (f (.heading (sectionHeading locale.styleTitle))).toList ++
          c.styles.flatMap fun style => (f (.code (openingFence (styleFenceLanguage style))
            (writtenLines style.content.strip))).toList) := by
  rw [pagePieces]
  simp only [List.filterMap_append, apply_ite (List.filterMap f), List.filterMap_nil,
    filterMap_frontPieces hf, examplePieces, propsPieces, templatePieces, stylesPieces,
    List.filterMap_cons_none (hf []), filterMap_piece_cons, filterMap_codePieces hf,
    filterMap_prose hf, filterMap_stylePieces hf, List.filterMap_flatMap, List.nil_append,
    List.append_nil]

end

/-- The headings of the pieces are those that the component asks for. -/
theorem filterMap_heading?_pagePieces (locale : Locale) (existing : Option Text) (c : Component) :
    (pagePieces locale existing c).filterMap Piece.heading? = expectedHeadings locale c := by
  have hnone : (c.styles.flatMap fun style => (Piece.heading? (.code
      (openingFence (styleFenceLanguage style)) (writtenLines style.content.strip))).toList) = [] :=
    List.flatMap_eq_nil_iff.2 fun _ _ => rfl
  rw [filterMap_pagePieces (fun _ => rfl), hnone, List.append_nil]
  rfl

/-- The lines of the code of a component as they are written. -/
def codeBodies (c : Component) : List (List Text) :=
  [writtenLines c.usage.strip] ++
  (if c.template.allBlank then [] else [templateLines c.template]) ++
  c.styles.map fun style => writtenLines style.content.strip

/-- The code of the pieces is that of the component. -/
theorem filterMap_code?_pagePieces (locale : Locale) (existing : Option Text) (c : Component) :
    (pagePieces locale existing c).filterMap Piece.code? = codeBodies c := by
  have hstyles : (if c.styles.isEmpty then [] else c.styles.flatMap fun style =>
      [writtenLines style.content.strip]) =
        c.styles.map fun style => writtenLines style.content.strip := by
    split
    · next hempty => rw [List.isEmpty_iff.1 hempty, List.map_nil]
    · exact List.map_eq_flatMap.symm
  rw [filterMap_pagePieces (fun _ => rfl), codeBodies, ← hstyles]
  simp only [Piece.code?, Option.toList_none, Option.toList_some, List.nil_append,
    ite_self, List.append_nil]

/-- Code that fits its fence is made of the lines that it is written as. -/
theorem join_writtenLines (h : FitsFence t) : Text.join ['\n'] (writtenLines t) = t := by
  rw [writtenLines_of_not_mem h.1, Text.join_fields]

theorem map_join_codeBodies (h : ∀ t ∈ codeTexts c, FitsFence t) :
    (codeBodies c).map (Text.join ['\n']) = codeTexts c := by
  rw [codeTexts, List.forall_mem_append, List.forall_mem_append, List.forall_mem_singleton,
    List.forall_mem_map] at h
  have hstyles : (c.styles.map fun style => Text.join ['\n'] (writtenLines style.content.strip)) =
      c.styles.map fun style => style.content.strip :=
    List.map_congr_left fun style hstyle => join_writtenLines (h.2 style hstyle)
  rw [codeBodies, codeTexts, List.map_append, List.map_append, List.map_singleton,
    join_writtenLines h.1.1, List.map_map, ← hstyles]
  simp only [apply_ite (List.map (Text.join ['\n'])), List.map_nil, List.map_singleton]
  rfl

/-! ## Sound pieces -/

theorem isSound_codePieces {body : List Text} (hlanguage : language ∈ fenceLanguages)
    (h : ∀ l ∈ body, closesFence l = false) :
    ∀ piece ∈ codePieces (openingFence language) body, piece.IsSound := by
  have hopening := openingFence_of_mem hlanguage
  simp only [codePieces, List.forall_mem_cons]
  exact ⟨trivial, ⟨hopening.1, hopening.2.1, h⟩, trivial, List.forall_mem_nil _⟩

theorem isSound_prose (ls : List Text) : ∀ piece ∈ ls.map Piece.prose, piece.IsSound :=
  List.forall_mem_map.2 fun _ _ => trivial

/-- The lines of code that fits a fence do not close it. -/
theorem not_closesFence_of_fitsFence (h : FitsFence t) :
    ∀ l ∈ writtenLines t, closesFence l = false := by
  rw [writtenLines_of_not_mem h.1]
  exact h.2

/-- A template that fits a fence has no line that closes it. -/
theorem not_closesFence_templateLines {template : Text}
    (h : FitsFence (Text.join ['\n'] (templateLines template))) :
    ∀ l ∈ templateLines template, closesFence l = false := by
  intro l hl
  have hlf : '\n' ∉ l := fun hmem => nomatch no_break_templateLines template l hl _ hmem
  refine h.2 l ?_
  rw [Text.fields_join (List.ne_nil_of_mem hl)]
  exact List.mem_flatMap.2 ⟨l, hl, by rw [Text.fields_of_not_mem hlf]; exact List.mem_singleton_self l⟩

theorem isSound_sectionHeading (hlocale : locale ∈ Locale.all) {title : Text}
    (htitle : title ∈ [locale.exampleTitle, locale.propsTitle, locale.templateTitle,
      locale.styleTitle]) : (Piece.heading (sectionHeading title)).IsSound :=
  ⟨opensSection_sectionHeading title, (isPlain_sectionHeading hlocale title htitle).strip_eq⟩

theorem forall_mem_ite_nil {α : Type} {p : Prop} [Decidable p] {P : α → Prop} {xs : List α}
    (h : ¬p → ∀ x ∈ xs, P x) : ∀ x ∈ (if p then [] else xs), P x := by
  split
  · exact List.forall_mem_nil _
  · next hp => exact h hp

/-- When the code fits its fences, the pieces of a page are sound. -/
theorem isSound_pagePieces (hlocale : locale ∈ Locale.all) (existing : Option Text)
    (h : ∀ t ∈ codeTexts c, FitsFence t) :
    ∀ piece ∈ pagePieces locale existing c, piece.IsSound := by
  have hheading : ∀ title ∈ [locale.exampleTitle, locale.propsTitle, locale.templateTitle,
      locale.styleTitle], (Piece.heading (sectionHeading title)).IsSound :=
    fun _ => isSound_sectionHeading hlocale
  rw [codeTexts, List.forall_mem_append, List.forall_mem_append, List.forall_mem_singleton,
    List.forall_mem_map] at h
  obtain ⟨⟨husage, htemplate⟩, hstyles⟩ := h
  have hvue : Batch.codeLanguage ∈ fenceLanguages := List.mem_cons_self
  simp only [pagePieces, List.forall_mem_append]
  -- the front, the example, the properties, the template and the styles
  refine ⟨⟨⟨⟨?_, ?_⟩, ?_⟩, ?_⟩, ?_⟩
  · simp only [frontPieces, List.forall_mem_append, List.forall_mem_cons]
    refine ⟨isSound_prose _, trivial, forall_mem_ite_nil fun _ => ?_⟩
    exact List.forall_mem_append.2 ⟨isSound_prose _, List.forall_mem_singleton.2 trivial⟩
  · exact List.forall_mem_cons.2 ⟨hheading _ (by simp),
      isSound_codePieces hvue (not_closesFence_of_fitsFence husage)⟩
  · exact forall_mem_ite_nil fun _ => List.forall_mem_cons.2 ⟨hheading _ (by simp), isSound_prose _⟩
  · refine forall_mem_ite_nil fun hfilled => List.forall_mem_cons.2 ⟨hheading _ (by simp), ?_⟩
    rw [if_neg hfilled, List.forall_mem_singleton] at htemplate
    exact isSound_codePieces hvue (not_closesFence_templateLines htemplate)
  · refine forall_mem_ite_nil fun _ => List.forall_mem_cons.2 ⟨hheading _ (by simp), ?_⟩
    rw [List.forall_mem_cons, List.forall_mem_flatMap]
    refine ⟨trivial, fun style hstyle => List.forall_mem_append.2 ⟨isSound_prose _, ?_⟩⟩
    exact isSound_codePieces (styleFenceLanguage_mem style)
      (not_closesFence_of_fitsFence (hstyles style hstyle))

/-! ## Quiet pieces -/

theorem quiet_prose_iff : (∀ piece ∈ ts.map Piece.prose, piece.Quiet) ↔ ∀ l ∈ ts, IsQuiet l :=
  List.forall_mem_map

theorem isQuiet_nil : IsQuiet [] := ⟨rfl, rfl⟩

theorem quiet_codePieces (opening : Text) (body : List Text) :
    ∀ piece ∈ codePieces opening body, piece.Quiet := by
  simp only [codePieces, List.forall_mem_cons]
  exact ⟨isQuiet_nil, trivial, isQuiet_nil, List.forall_mem_nil _⟩

/-- A row of a table is quiet. -/
theorem isQuiet_of_pipes {middle : Text} : IsQuiet ('|' :: (middle ++ ['|'])) := by
  have hstrip : Text.strip ('|' :: (middle ++ ['|'])) = '|' :: (middle ++ ['|']) := by
    refine Text.strip_eq_self (fun c hc => ?_) (fun c hc => ?_)
    · obtain rfl : '|' = c := Option.some.inj hc
      rfl
    · rw [← List.cons_append, List.getLast?_concat] at hc
      obtain rfl : '|' = c := Option.some.inj hc
      rfl
  have hkind : LineKind.of ('|' :: (middle ++ ['|'])) = .row :=
    kind_of_head?_strip (by rw [hstrip]; rfl)
  exact isQuiet_of_kind (by simp [hkind]) (by simp [hkind])

theorem isQuiet_row (cells : List Text) : IsQuiet (row cells) := by
  have hrow : row cells = '|' :: ((' ' :: Text.join " | ".toList cells ++ [' ']) ++ ['|']) := by
    rw [row, List.append_assoc, List.append_assoc]
    rfl
  rw [hrow]
  exact isQuiet_of_pipes

theorem isQuiet_tableLines (locale : Locale) (ps : List Property) :
    ∀ l ∈ tableLines locale ps, IsQuiet l := by
  simp only [tableLines, List.forall_mem_append, List.forall_mem_cons, List.forall_mem_map]
  exact ⟨⟨⟨isQuiet_nil, isQuiet_row _, by decide, List.forall_mem_nil _⟩, fun p _ => isQuiet_row _⟩,
    isQuiet_nil, List.forall_mem_nil _⟩

theorem quiet_frontPieces_iff (existing : Option Text) (c : Component) :
    (∀ piece ∈ frontPieces existing c, piece.Quiet) ↔
      IsQuietText (titleLine c.name) ∧
        IsQuietText (chosenDescription existing c.description).strip := by
  rw [frontPieces, List.forall_mem_append, List.forall_mem_cons, prosePieces, quiet_prose_iff]
  refine and_congr_right fun _ => ?_
  split
  · next hempty =>
    rw [List.isEmpty_iff.1 hempty]
    exact ⟨fun _ => by decide, fun _ => ⟨isQuiet_nil, List.forall_mem_nil _⟩⟩
  · rw [List.forall_mem_append, prosePieces, quiet_prose_iff, List.forall_mem_singleton]
    exact ⟨fun h => h.2.1, fun h => ⟨isQuiet_nil, h, isQuiet_nil⟩⟩

theorem quiet_stylePieces_iff (locale : Locale) (style : Style) :
    (∀ piece ∈ stylePieces locale style, piece.Quiet) ↔ IsQuietText (styleIntro locale style) := by
  rw [stylePieces, List.forall_mem_append, prosePieces, quiet_prose_iff]
  exact and_iff_left (quiet_codePieces _ _)

/-- The pieces of a page are quiet exactly when the prose of the component is. -/
theorem quiet_pagePieces_iff (locale : Locale) (existing : Option Text) (c : Component) :
    (∀ piece ∈ pagePieces locale existing c, piece.Quiet) ↔
      ∀ t ∈ proseTexts locale existing c, IsQuietText t := by
  have hexample : ∀ piece ∈ examplePieces locale c.usage, piece.Quiet :=
    List.forall_mem_cons.2 ⟨trivial, quiet_codePieces _ _⟩
  have hprops : ∀ piece ∈ (if c.properties.isEmpty then [] else propsPieces locale c.properties),
      piece.Quiet :=
    forall_mem_ite_nil fun _ =>
      List.forall_mem_cons.2 ⟨trivial, quiet_prose_iff.2 (isQuiet_tableLines locale _)⟩
  have htemplate : ∀ piece ∈ (if c.template.allBlank then [] else templatePieces locale c.template),
      piece.Quiet :=
    forall_mem_ite_nil fun _ => List.forall_mem_cons.2 ⟨trivial, quiet_codePieces _ _⟩
  have hstyles : (∀ piece ∈ (if c.styles.isEmpty then [] else stylesPieces locale c.styles),
      piece.Quiet) ↔ ∀ style ∈ c.styles, IsQuietText (styleIntro locale style) := by
    split
    · next hempty =>
      rw [List.isEmpty_iff.1 hempty]
      exact ⟨fun _ => List.forall_mem_nil _, fun _ => List.forall_mem_nil _⟩
    · rw [stylesPieces, List.forall_mem_cons, List.forall_mem_cons, List.forall_mem_flatMap]
      simp only [quiet_stylePieces_iff]
      exact ⟨fun h => h.2.2, fun h => ⟨trivial, isQuiet_nil, h⟩⟩
  -- code and tables are quiet by themselves, so that the prose is left
  simp only [pagePieces, proseTexts, List.forall_mem_append, List.forall_mem_cons,
    List.forall_mem_map]
  rw [quiet_frontPieces_iff, hstyles]
  exact ⟨fun h => ⟨⟨h.1.1.1.1.1, h.1.1.1.1.2, List.forall_mem_nil _⟩, h.2⟩,
    fun h => ⟨⟨⟨⟨⟨h.1.1, h.1.2.1⟩, hexample⟩, hprops⟩, htemplate⟩, h.2⟩⟩

/-! ## The structure of a page -/

/-- What stands in a fence fits it. -/
theorem fitsFence_of_mem_fenceTexts {page : Text} (h : t ∈ fenceTexts page) : FitsFence t := by
  obtain ⟨body, hbody, rfl⟩ := List.mem_map.1 h
  obtain ⟨b, hb, hfence⟩ := List.mem_filterMap.1 hbody
  obtain ⟨opening, rfl⟩ : ∃ opening, b = .fence opening body := by
    cases b with
    | fence opening lines =>
      obtain rfl : lines = body := Option.some.inj hfence
      exact ⟨opening, rfl⟩
    | heading line => cases hfence
    | table rows => cases hfence
    | paragraph lines => cases hfence
  -- a fence is read up to the first line that closes it
  have hinside : ∀ l ∈ body, closesFence l = false := by
    cases isCanonical_of_mem_ofLines _ _ hb with
    | fence _ _ hinside => exact hinside
  have hchars : ∀ l ∈ body, ∀ c ∈ l, c ≠ '\n' ∧ c ≠ '\r' := by
    intro l hl
    -- the lines of blocks are made of the characters of the page, which is cut at its line endings
    have hlines : ∀ l ∈ (Block.ofLines (pageLines page)).flatMap Block.lines,
        ∀ c ∈ l, c ≠ '\n' ∧ c ≠ '\r' :=
      chars_ofLines (by decide) (by decide) (by decide) fun k hk c hc =>
        ⟨fun heq => (not_mem_of_mem_pageLines hk).1 (heq ▸ hc),
          fun heq => (not_mem_of_mem_pageLines hk).2 (heq ▸ hc)⟩
    refine hlines l (List.mem_flatMap.2 ⟨_, hb, ?_⟩)
    rw [Block.lines]
    exact List.mem_append_left _ (List.mem_cons_of_mem _ hl)
  refine ⟨fun hcr => ?_, ?_⟩
  · exact Text.forall_mem_join (P := fun c => c ≠ '\r') (List.forall_mem_singleton.2 (by decide))
      (fun l hl c hc => (hchars l hl c hc).2) _ hcr rfl
  · rcases eq_or_ne body [] with rfl | hne
    · decide
    · rw [Text.fields_join hne]
      have hfields : ∀ l ∈ body, Text.fields '\n' l = [l] := fun l hl =>
        Text.fields_of_not_mem fun hlf => (hchars l hl _ hlf).1 rfl
      rw [List.flatMap_congr hfields, List.flatMap_singleton']
      exact hinside

/-- **When a page has the structure that its component asks for**: exactly when every code fits its fence
and all prose is quiet. -/
theorem hasStructure_page_iff (hlocale : locale ∈ Locale.all) (existing : Option Text) (c : Component) :
    HasStructure locale c (page locale Batch.codeLanguage existing c) ↔
      (∀ t ∈ codeTexts c, FitsFence t) ∧ ∀ t ∈ proseTexts locale existing c, IsQuietText t := by
  -- the layout changes no block
  have hread (draft : Text) : sectionHeadings (tidy draft) = sectionHeadings draft ∧
      fenceTexts (tidy draft) = fenceTexts draft := by
    rw [sectionHeadings, fenceTexts, ofLines_pageLines_tidy]
    exact ⟨rfl, rfl⟩
  have hdraft := hread (Text.join ['\n'] (pageDraft locale Batch.codeLanguage existing c))
  have hiff (hfits : ∀ t ∈ codeTexts c, FitsFence t) :
      HasStructure locale c (page locale Batch.codeLanguage existing c) ↔
        ∀ t ∈ proseTexts locale existing c, IsQuietText t := by
    have hpieces := reads_pieces_iff (pageLines_pieces hlocale existing c)
      (isSound_pagePieces hlocale existing hfits)
    rw [filterMap_heading?_pagePieces, filterMap_code?_pagePieces, map_join_codeBodies hfits,
      quiet_pagePieces_iff, ← hdraft.1, ← hdraft.2] at hpieces
    rw [← hpieces]
    exact ⟨fun h => ⟨h.headings, h.code⟩, fun h => ⟨h.1, h.2⟩⟩
  constructor
  · intro h
    have hfits : ∀ t ∈ codeTexts c, FitsFence t := by
      rw [← h.code]
      exact fun t => fitsFence_of_mem_fenceTexts
    exact ⟨hfits, (hiff hfits).1 h⟩
  · rintro ⟨hfits, hquiet⟩
    exact (hiff hfits).2 hquiet

/-- **When the page of a source has its structure.** Whatever the source is and whatever its page says
already: the sections are those that the component asks for, and the fences hold its code, exactly when no
line of code closes its fence and no line of prose opens a fence or a section. -/
theorem hasStructure_describe_iff {s : Settings} (hlocale : s.locale ∈ Locale.all)
    (source fallback : Text) (existing : Option Text) :
    HasStructure s.locale (describe s source fallback)
        (page s.locale codeLanguage existing (describe s source fallback)) ↔
      (∀ t ∈ codeTexts (describe s source fallback), FitsFence t) ∧
        ∀ t ∈ proseTexts s.locale existing (describe s source fallback), IsQuietText t :=
  hasStructure_page_iff hlocale existing (describe s source fallback)

/-- A source with a template, properties and styles. -/
def boxSource : Text :=
  ("<template>\n<pre>text</pre>\n</template>\n<script>\n/**\n * A box.\n */\n" ++
    "export default \x7b name: 'Box', props: \x7b size: Number \x7d \x7d\n</script>\n" ++
    "<style>\n# a\n</style>\n<style lang=\"less\">b</style>").toList

/-- The page of the source has its structure, and keeps a description of two lines. -/
theorem hasStructure_boxSource :
    sampleSettings.locale ∈ Locale.all ∧
    HasStructure sampleSettings.locale (describe sampleSettings boxSource "X".toList)
      (page sampleSettings.locale codeLanguage (some "A box\n| with a row".toList)
        (describe sampleSettings boxSource "X".toList)) :=
  ⟨List.mem_cons_self,
    (hasStructure_describe_iff (s := sampleSettings) List.mem_cons_self boxSource "X".toList
      (some "A box\n| with a row".toList)).2 ⟨by decide +kernel, by decide +kernel⟩⟩

/-- A source with an indented line of three backquotes in its template. -/
def fencedSource : Text :=
  "<template>\n<pre>\n  ```\n</pre>\n</template>\n<style>a\x7b\x7d</style>".toList

/-- The line closes the fence of the template, and the section of the styles is lost in the fence that comes
next. No line of the source, and none of the description, starts with three backquotes or opens a section. -/
theorem not_hasStructure_fencedSource :
    (∀ l ∈ fencedSource.lines ++ Text.lines "Text".toList,
        l.startsWith fence = false ∧ opensSection l = false) ∧
    ¬ HasStructure sampleSettings.locale (describe sampleSettings fencedSource "X".toList)
      (page sampleSettings.locale codeLanguage (some "Text".toList)
        (describe sampleSettings fencedSource "X".toList)) ∧
    sectionHeadings (page sampleSettings.locale codeLanguage (some "Text".toList)
        (describe sampleSettings fencedSource "X".toList)) =
      ["## Example".toList, "## Template".toList] ∧
    expectedHeadings sampleSettings.locale (describe sampleSettings fencedSource "X".toList) =
      ["## Example".toList, "## Template".toList, "## Style".toList] := by
  have hread : sectionHeadings (page sampleSettings.locale codeLanguage (some "Text".toList)
      (describe sampleSettings fencedSource "X".toList)) =
        ["## Example".toList, "## Template".toList] := by decide +kernel
  have hexpected : expectedHeadings sampleSettings.locale
      (describe sampleSettings fencedSource "X".toList) =
        ["## Example".toList, "## Template".toList, "## Style".toList] := by decide +kernel
  refine ⟨by decide +kernel, fun h => ?_, hread, hexpected⟩
  have hheadings := h.headings
  rw [hread, hexpected] at hheadings
  revert hheadings
  decide

end ComponentBook.Batch
