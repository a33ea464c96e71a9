import ComponentBook.Batch.Run
import ComponentBook.Proofs.Markdown.Fences
import ComponentBook.Proofs.Markdown.PageDescription
import ComponentBook.Proofs.Text.Words

/-! # A page in pieces

The lines of a page before it is laid out are those of a sequence of pieces, which are prose, headings and
code in fences (**`pageLines_pieces`**). What a component says can have several lines, and is written as it
is: its lines are those that it has in front of a line feed (`writtenLines`). All other lines of the page
stand on one line each. -/

namespace ComponentBook.Markdown

variable {locale : Locale} {language : Text} {existing : Option Text} {c : Component} {t l : Text}
  {ts : List Text}

/-! ## The lines of a draft -/

/-- The lines that a text makes on a page when a line feed follows it. -/
def writtenLines (t : Text) : List Text := (pageLines (t ++ ['\n'])).dropLast

theorem pageLines_nil : pageLines [] = [[]] := rfl

/-- A line feed keeps the lines in front of it apart from those behind it. -/
theorem pageLines_append (t u : Text) : pageLines (t ++ '\n' :: u) = writtenLines t ++ pageLines u := by
  obtain ⟨x, hx⟩ := Text.exists_unifyNewlines_append_newline t
  rw [writtenLines, pageLines, pageLines, hx, hx, Text.fields_append_cons, Text.fields_append_cons,
    Text.unifyNewlines]
  show _ = (Text.fields '\n' x ++ [[]]).dropLast ++ _
  rw [List.dropLast_concat]
  rfl

theorem writtenLines_eq (h : t.getLast? ≠ some '\r') : writtenLines t = pageLines t := by
  rw [writtenLines, pageLines_append_newline t [] h, pageLines_nil, List.dropLast_concat]

/-- The lines of a draft that ends with an empty line are those of its texts. -/
theorem pageLines_join (hlast : ts.getLast? = some []) :
    pageLines (Text.join ['\n'] ts) = ts.flatMap writtenLines := by
  induction ts with
  | nil => cases hlast
  | cons t ts ih =>
    cases ts with
    | nil =>
      obtain rfl : t = [] := Option.some.inj hlast
      rfl
    | cons u ts =>
      rw [List.getLast?_cons_cons] at hlast
      rw [Text.join_cons_cons, List.append_assoc, List.singleton_append, pageLines_append,
        ih hlast]
      rfl

/-- A text on one line makes one line. -/
theorem writtenLines_of_no_break (h : ∀ c ∈ t, Text.isLineBreak c = false) : writtenLines t = [t] := by
  have hlast : t.getLast? ≠ some '\r' := by
    intro hcr
    cases h _ (List.mem_of_getLast? hcr)
  rw [writtenLines_eq hlast, pageLines_of_no_break h]

/-- Without carriage returns the lines are those between line feeds. -/
theorem writtenLines_of_not_mem (h : '\r' ∉ t) : writtenLines t = Text.fields '\n' t := by
  rw [writtenLines_eq fun hcr => h (List.mem_of_getLast? hcr), pageLines,
    Text.unifyNewlines_of_not_mem h]

/-! ## The pieces of a page -/

/-- The lines of a template, indented and inside template tags. -/
def templateLines (template : Text) : List Text :=
  "<template>".toList ::
    ((template.strip.lines.map fun l => if l.allBlank then [] else ' ' :: ' ' :: l) ++
      ["</template>".toList])

/-- The text of a style that stands in front of its code. -/
def styleIntro (locale : Locale) (style : Style) : Text :=
  locale.styleIntro.fill (if style.attrs.allBlank then "CSS".toList else style.attrs.strip)

/-- Prose on a page, line by line. -/
def prosePieces (t : Text) : List Piece := (writtenLines t).map .prose

/-- A section with code in it. -/
def codePieces (opening : Text) (body : List Text) : List Piece :=
  [.prose [], .code opening body, .prose []]

/-- The lines of a table of properties, and the blank lines around it. -/
def tableLines (locale : Locale) (ps : List Property) : List Text :=
  [[], row locale.propsHeaders, "|------|------|:------:|------|------|".toList] ++
  (ps.map fun p => row (propertyCells p)) ++ [[]]

/-- The section with the table of properties. -/
def propsPieces (locale : Locale) (ps : List Property) : List Piece :=
  .heading (sectionHeading locale.propsTitle) :: (tableLines locale ps).map .prose

/-- One style: what introduces it, and its code. -/
def stylePieces (locale : Locale) (style : Style) : List Piece :=
  prosePieces (styleIntro locale style) ++
    codePieces (openingFence (styleFenceLanguage style)) (writtenLines style.content.strip)

/-- The pieces of the title and the description. -/
def frontPieces (existing : Option Text) (c : Component) : List Piece :=
  let description := (chosenDescription existing c.description).strip
  prosePieces (titleLine c.name) ++ .prose [] ::
    if description.isEmpty then [] else prosePieces description ++ [.prose []]

/-- The section with the example. -/
def examplePieces (locale : Locale) (usage : Text) : List Piece :=
  .heading (sectionHeading locale.exampleTitle) ::
    codePieces (openingFence Batch.codeLanguage) (writtenLines usage.strip)

/-- The section with the template. -/
def templatePieces (locale : Locale) (template : Text) : List Piece :=
  .heading (sectionHeading locale.templateTitle) ::
    codePieces (openingFence Batch.codeLanguage) (templateLines template)

/-- The section with the styles. -/
def stylesPieces (locale : Locale) (styles : List Style) : List Piece :=
  .heading (sectionHeading locale.styleTitle) :: .prose [] :: styles.flatMap (stylePieces locale)

/-- The pieces of a page. -/
def pagePieces (locale : Locale) (existing : Option Text) (c : Component) : List Piece :=
  frontPieces existing c ++
  examplePieces locale c.usage ++
  (if c.properties.isEmpty then [] else propsPieces locale c.properties) ++
  (if c.template.allBlank then [] else templatePieces locale c.template) ++
  (if c.styles.isEmpty then [] else stylesPieces locale c.styles)

/-! ## Texts on one line -/

theorem flatMap_writtenLines (h : ∀ t ∈ ts, ∀ c ∈ t, Text.isLineBreak c = false) :
    ts.flatMap writtenLines = ts := by
  rw [List.flatMap_congr fun t ht => writtenLines_of_no_break (h t ht)]
  exact List.flatMap_singleton' ts

/-- The headings over the sections are plain lines in every language. -/
theorem isPlain_sectionHeading (h : locale ∈ Locale.all) :
    ∀ title ∈ [locale.exampleTitle, locale.propsTitle, locale.templateTitle, locale.styleTitle],
      Text.IsPlain (sectionHeading title) := by
  have hplain : ∀ title ∈ [locale.exampleTitle, locale.propsTitle, locale.templateTitle,
      locale.styleTitle], (sectionHeading title).strip = sectionHeading title ∧
        (sectionHeading title).all (!Text.isLineBreak ·) = true := by
    rw [Locale.all, List.mem_cons, List.mem_singleton] at h
    rcases h with rfl | rfl <;> decide
  intro title htitle
  obtain ⟨hstrip, hall⟩ := hplain title htitle
  exact ⟨isFilled_of_opensSection (opensSection_sectionHeading title), hstrip,
    Text.no_break_of_all hall⟩

theorem no_break_cell (value : Text) : ∀ c ∈ cell value, Text.isLineBreak c = false := by
  have hescaped : ∀ c ∈ ['\\', '|'], Text.isLineBreak c = false := Text.no_break_of_all rfl
  intro c hc
  obtain ⟨d, hd, hmem⟩ := List.mem_flatMap.1 hc
  have hdbreak : Text.isLineBreak d = false := by
    rcases Text.oneLine_collapse value with hnil | hplain
    · rw [hnil] at hd
      cases hd
    · exact hplain.no_break d hd
  split at hmem
  · exact hescaped c hmem
  · rw [List.mem_singleton] at hmem
    rwa [hmem]

theorem no_break_propertyCells (p : Property) :
    ∀ t ∈ propertyCells p, ∀ c ∈ t, Text.isLineBreak c = false := by
  have hdash : ∀ c ∈ ['-'], Text.isLineBreak c = false := Text.no_break_of_all rfl
  have horDash (t : Text) :
      ∀ c ∈ (if t.isEmpty then ['-'] else cell t), Text.isLineBreak c = false := by
    split
    · exact hdash
    · exact no_break_cell t
  have htype : ∀ c ∈ (if p.type.isEmpty then ['-']
      else Script.backquote :: cell p.type ++ [Script.backquote]), Text.isLineBreak c = false := by
    split
    · exact hdash
    · rw [List.cons_append, List.forall_mem_cons, List.forall_mem_append]
      exact ⟨rfl, no_break_cell p.type, Text.no_break_of_all rfl⟩
  have hrequired : ∀ c ∈ (if p.required then ['✓'] else []), Text.isLineBreak c = false := by
    split
    · exact Text.no_break_of_all (by decide)
    · exact List.forall_mem_nil _
  simp only [propertyCells, List.forall_mem_cons]
  exact ⟨no_break_cell p.name, htype, hrequired, horDash _, horDash _, List.forall_mem_nil _⟩

theorem no_break_row (h : ∀ t ∈ ts, ∀ c ∈ t, Text.isLineBreak c = false) :
    ∀ c ∈ row ts, Text.isLineBreak c = false := by
  rw [row, List.forall_mem_append, List.forall_mem_append]
  exact ⟨⟨Text.no_break_of_all rfl, Text.forall_mem_join (Text.no_break_of_all rfl) h⟩,
    Text.no_break_of_all rfl⟩

theorem no_break_propsHeaders (h : locale ∈ Locale.all) :
    ∀ t ∈ locale.propsHeaders, ∀ c ∈ t, Text.isLineBreak c = false := by
  have hall : ∀ t ∈ locale.propsHeaders, t.all (!Text.isLineBreak ·) = true := by
    rw [Locale.all, List.mem_cons, List.mem_singleton] at h
    rcases h with rfl | rfl <;> decide
  exact fun t ht => Text.no_break_of_all (hall t ht)

theorem no_break_templateLines (template : Text) :
    ∀ l ∈ templateLines template, ∀ c ∈ l, Text.isLineBreak c = false := by
  rw [templateLines, List.forall_mem_cons, List.forall_mem_append, List.forall_mem_map,
    List.forall_mem_singleton]
  refine ⟨Text.no_break_of_all rfl, fun l hl => ?_, Text.no_break_of_all rfl⟩
  split
  · exact List.forall_mem_nil _
  · rw [List.forall_mem_cons, List.forall_mem_cons]
    exact ⟨rfl, rfl, Text.isLineBreak_eq_false_of_mem_lines hl⟩

/-- The languages of fences. -/
def fenceLanguages : List Text := Batch.codeLanguage :: "css".toList :: styleLanguages

theorem styleFenceLanguage_mem (style : Style) : styleFenceLanguage style ∈ fenceLanguages := by
  rw [styleFenceLanguage]
  rcases hfound : styleLanguages.find? fun l =>
    (Text.lower (style.lang ++ ' ' :: style.attrs)).contains l with _ | l
  · exact List.mem_cons_of_mem _ List.mem_cons_self
  · exact List.mem_cons_of_mem _ (List.mem_cons_of_mem _ (List.mem_of_find?_eq_some hfound))

/-- The line that opens a fence is one line, and closes none. -/
theorem openingFence_of_mem (h : language ∈ fenceLanguages) :
    opensFence (openingFence language) = true ∧ closesFence (openingFence language) = false ∧
      ∀ c ∈ openingFence language, Text.isLineBreak c = false := by
  have hall : ∀ language ∈ fenceLanguages, opensFence (openingFence language) = true ∧
      closesFence (openingFence language) = false ∧
        (openingFence language).all (!Text.isLineBreak ·) = true := by
    decide
  obtain ⟨hopens, hcloses, hbreak⟩ := hall language h
  exact ⟨hopens, hcloses, Text.no_break_of_all hbreak⟩

/-! ## The draft and its pieces -/

theorem flatMap_lines_map_prose (ls : List Text) : (ls.map Piece.prose).flatMap Piece.lines = ls := by
  rw [List.flatMap_map]
  exact List.flatMap_singleton' _

theorem writtenLines_nil : writtenLines [] = [[]] := rfl

theorem writtenLines_fence : writtenLines fence = [fence] := rfl

/-- Code in a fence, and the blank lines around it. -/
theorem flatMap_lines_codePieces (opening : Text) (body : List Text) :
    (codePieces opening body).flatMap Piece.lines = [] :: opening :: (body ++ [fence, []]) := by
  simp [codePieces, Piece.lines]

/-- One style in the draft. -/
theorem flatMap_writtenLines_styleLines (locale : Locale) (style : Style) :
    (styleLines locale style).flatMap writtenLines =
      (stylePieces locale style).flatMap Piece.lines := by
  have hopening := (openingFence_of_mem (styleFenceLanguage_mem style)).2.2
  rw [stylePieces, List.flatMap_append, prosePieces, flatMap_lines_map_prose,
    flatMap_lines_codePieces]
  show (List.flatMap writtenLines [styleIntro locale style, [], openingFence (styleFenceLanguage style),
    style.content.strip, fence, []]) = _
  simp only [List.flatMap_cons, List.flatMap_nil, writtenLines_nil, writtenLines_fence,
    writtenLines_of_no_break hopening, List.append_nil, List.cons_append, List.nil_append]

theorem no_break_tableLines (hlocale : locale ∈ Locale.all) (ps : List Property) :
    ∀ t ∈ tableLines locale ps, ∀ c ∈ t, Text.isLineBreak c = false := by
  simp only [tableLines, List.forall_mem_append, List.forall_mem_cons, List.forall_mem_map]
  exact ⟨⟨⟨List.forall_mem_nil _, no_break_row (no_break_propsHeaders hlocale),
    Text.no_break_of_all rfl, List.forall_mem_nil _⟩,
    fun p _ => no_break_row (no_break_propertyCells p)⟩, List.forall_mem_nil _, List.forall_mem_nil _⟩

theorem writtenLines_sectionHeading (hlocale : locale ∈ Locale.all) {title : Text}
    (htitle : title ∈ [locale.exampleTitle, locale.propsTitle, locale.templateTitle,
      locale.styleTitle]) : writtenLines (sectionHeading title) = [sectionHeading title] :=
  writtenLines_of_no_break (isPlain_sectionHeading hlocale title htitle).no_break

theorem writtenLines_openingFence :
    writtenLines (openingFence Batch.codeLanguage) = [openingFence Batch.codeLanguage] :=
  writtenLines_of_no_break (openingFence_of_mem List.mem_cons_self).2.2

theorem flatMap_writtenLines_exampleSection (hlocale : locale ∈ Locale.all) (usage : Text) :
    (exampleSection locale Batch.codeLanguage usage).flatMap writtenLines =
      (examplePieces locale usage).flatMap Piece.lines := by
  have hheading : writtenLines (sectionHeading locale.exampleTitle) = _ :=
    writtenLines_sectionHeading hlocale (by simp)
  rw [examplePieces, List.flatMap_cons, flatMap_lines_codePieces, exampleSection]
  simp only [List.flatMap_cons, List.flatMap_nil, hheading, writtenLines_openingFence,
    writtenLines_nil, writtenLines_fence, List.append_nil]
  rfl

theorem flatMap_writtenLines_propsSection (hlocale : locale ∈ Locale.all) (ps : List Property) :
    (propsSection locale ps).flatMap writtenLines = (propsPieces locale ps).flatMap Piece.lines := by
  have hheading : writtenLines (sectionHeading locale.propsTitle) = _ :=
    writtenLines_sectionHeading hlocale (by simp)
  rw [propsPieces, List.flatMap_cons, flatMap_lines_map_prose]
  show (sectionHeading locale.propsTitle :: tableLines locale ps).flatMap _ = _
  rw [List.flatMap_cons, hheading, flatMap_writtenLines (no_break_tableLines hlocale ps)]
  rfl

theorem flatMap_writtenLines_templateSection (hlocale : locale ∈ Locale.all) (template : Text) :
    (templateSection locale Batch.codeLanguage template).flatMap writtenLines =
      (templatePieces locale template).flatMap Piece.lines := by
  have hheading : writtenLines (sectionHeading locale.templateTitle) = _ :=
    writtenLines_sectionHeading hlocale (by simp)
  have hdraft : templateSection locale Batch.codeLanguage template =
      [sectionHeading locale.templateTitle, [], openingFence Batch.codeLanguage] ++
        (templateLines template ++ [fence, []]) := by
    simp [templateSection, templateLines]
  rw [templatePieces, List.flatMap_cons, flatMap_lines_codePieces, hdraft, List.flatMap_append,
    List.flatMap_append, flatMap_writtenLines (no_break_templateLines template)]
  simp only [List.flatMap_cons, List.flatMap_nil, hheading, writtenLines_openingFence,
    writtenLines_nil, writtenLines_fence, List.append_nil]
  rfl

theorem flatMap_writtenLines_styleSection (hlocale : locale ∈ Locale.all) (styles : List Style) :
    (styleSection locale styles).flatMap writtenLines =
      (stylesPieces locale styles).flatMap Piece.lines := by
  have hheading : writtenLines (sectionHeading locale.styleTitle) = _ :=
    writtenLines_sectionHeading hlocale (by simp)
  rw [stylesPieces, styleSection, List.flatMap_append, List.flatMap_assoc,
    List.flatMap_congr fun style _ => flatMap_writtenLines_styleLines locale style]
  simp only [List.flatMap_cons, List.flatMap_nil, List.flatMap_assoc, hheading, writtenLines_nil,
    List.append_nil]
  rfl

theorem flatMap_writtenLines_front (existing : Option Text) (c : Component) :
    ([titleLine c.name, []] ++
        descriptionDraft (chosenDescription existing c.description).strip).flatMap writtenLines =
      (frontPieces existing c).flatMap Piece.lines := by
  rw [frontPieces, descriptionDraft, prosePieces, List.flatMap_append, List.flatMap_append,
    flatMap_lines_map_prose, List.flatMap_cons, List.flatMap_cons]
  split
  · simp [writtenLines_nil, Piece.lines]
  · simp [writtenLines_nil, Piece.lines, prosePieces, flatMap_lines_map_prose]

/-- The lines of a draft are those of its pieces. -/
theorem flatMap_writtenLines_pageDraft (hlocale : locale ∈ Locale.all) (existing : Option Text)
    (c : Component) :
    (pageDraft locale Batch.codeLanguage existing c).flatMap writtenLines =
      (pagePieces locale existing c).flatMap Piece.lines := by
  rw [pageDraft_eq, sectionsDraft, pagePieces, List.flatMap_append, flatMap_writtenLines_front]
  simp only [List.flatMap_append, List.append_assoc, apply_ite (List.flatMap writtenLines),
    apply_ite (List.flatMap Piece.lines), List.flatMap_nil,
    flatMap_writtenLines_exampleSection hlocale, flatMap_writtenLines_propsSection hlocale,
    flatMap_writtenLines_templateSection hlocale, flatMap_writtenLines_styleSection hlocale]

/-- A section that is left out, or ends with an empty line. -/
theorem getLast?_append_ite {p : Prop} [Decidable p] {front back : List Text}
    (hfront : front.getLast? = some []) (hsection : ¬p → back.getLast? = some []) :
    (front ++ if p then [] else back).getLast? = some [] := by
  split
  · rwa [List.append_nil]
  · next hp => rw [List.getLast?_append, hsection hp, Option.some_or]

theorem getLast?_styleSection (locale : Locale) {styles : List Style} (h : styles ≠ []) :
    (styleSection locale styles).getLast? = some [] := by
  obtain ⟨front, last, hlast⟩ := (List.eq_nil_or_concat styles).resolve_left h
  rw [styleSection, hlast, List.concat_eq_append, List.flatMap_append, List.flatMap_singleton,
    List.getLast?_append, List.getLast?_append]
  rfl

/-- A draft ends with an empty line. -/
theorem getLast?_pageDraft (existing : Option Text) (c : Component) :
    (pageDraft locale language existing c).getLast? = some [] := by
  have hexample : (exampleSection locale language c.usage).getLast? = some [] := rfl
  have hprops : (propsSection locale c.properties).getLast? = some [] := by
    rw [propsSection, List.getLast?_append]
    rfl
  have htemplate : (templateSection locale language c.template).getLast? = some [] := by
    rw [templateSection, List.getLast?_append]
    rfl
  rw [pageDraft_eq, List.getLast?_append, sectionsDraft]
  have hsections := getLast?_append_ite (p := c.styles.isEmpty)
    (getLast?_append_ite (p := c.template.allBlank)
      (getLast?_append_ite (p := c.properties.isEmpty) hexample fun _ => hprops) fun _ => htemplate)
    fun hstyles => getLast?_styleSection locale (mt List.isEmpty_iff.2 hstyles)
  rw [hsections, Option.some_or]

/-- The lines of a page before it is laid out are those of its pieces. -/
theorem pageLines_pieces (hlocale : locale ∈ Locale.all) (existing : Option Text) (c : Component) :
    pageLines (Text.join ['\n'] (pageDraft locale Batch.codeLanguage existing c)) =
      (pagePieces locale existing c).flatMap Piece.lines := by
  rw [pageLines_join (getLast?_pageDraft existing c), flatMap_writtenLines_pageDraft hlocale]

end ComponentBook.Markdown
