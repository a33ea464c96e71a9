import ComponentBook.Proofs.Markdown.Canonical
import ComponentBook.Proofs.Markdown.PagePieces

/-! # Tables of properties

A pipe in a cell is written with a backslash in front, and a pipe that separates cells with a blank in
front. So a row is read back cell by cell (**`readRow_row`**): it is cut at the pipes that no backslash
precedes (`pipeFields`), the parts are stripped, and the pipes inside them get their plain form
(`unescapePipes`). The layout leaves a section with a table as it is, and so the rows of a section say what
its properties are (**`readRow_propsSection`**). -/

namespace ComponentBook.Markdown

variable {locale : Locale} {t u : Text} {cells : List Text}

/-! ## Escaped pipes -/

/-- A text with a backslash in front of each pipe. -/
def escapePipes (t : Text) : Text := t.flatMap fun c => if c = '|' then ['\\', '|'] else [c]

/-- A text with each pipe that has a backslash in front as a plain pipe. -/
def unescapePipes : Text → Text
  | '\\' :: '|' :: t => '|' :: unescapePipes t
  | c :: t => c :: unescapePipes t
  | [] => []

theorem escapePipes_cons_pipe (t : Text) : escapePipes ('|' :: t) = '\\' :: '|' :: escapePipes t := rfl

theorem escapePipes_cons {c : Char} (hc : c ≠ '|') (t : Text) :
    escapePipes (c :: t) = c :: escapePipes t := by
  rw [escapePipes, List.flatMap_cons, if_neg hc]
  rfl

theorem head?_escapePipes_ne_pipe (t : Text) : (escapePipes t).head? ≠ some '|' := by
  cases t with
  | nil => exact nofun
  | cons c t =>
    by_cases hc : c = '|'
    · rw [hc, escapePipes_cons_pipe, List.head?_cons]
      decide
    · rw [escapePipes_cons hc]
      exact fun h => hc (Option.some.inj h)

theorem unescapePipes_cons {c : Char} (h : c = '\\' → t.head? ≠ some '|') :
    unescapePipes (c :: t) = c :: unescapePipes t := by
  rw [unescapePipes]
  rintro rest rfl rfl
  exact h rfl rfl

/-- What is escaped is read back, also where backslashes stand in front of pipes of the text itself. -/
theorem unescapePipes_escapePipes (t : Text) : unescapePipes (escapePipes t) = t := by
  induction t with
  | nil => rfl
  | cons c t ih =>
    by_cases hc : c = '|'
    · rw [hc, escapePipes_cons_pipe, unescapePipes, ih]
    · rw [escapePipes_cons hc, unescapePipes_cons fun _ => head?_escapePipes_ne_pipe t, ih]

/-- The first character of an escaped text is that of the text, or a backslash. -/
theorem head?_escapePipes {c : Char} (h : (escapePipes t).head? = some c) :
    t.head? = some c ∨ c = '\\' := by
  cases t with
  | nil => cases h
  | cons d t =>
    by_cases hd : d = '|'
    · rw [hd, escapePipes_cons_pipe] at h
      exact .inr (Option.some.inj h).symm
    · rw [escapePipes_cons hd] at h
      exact .inl h

/-- The last character of an escaped text is that of the text. -/
theorem getLast?_escapePipes (t : Text) : (escapePipes t).getLast? = t.getLast? := by
  induction t using List.reverseRecOn with
  | nil => rfl
  | append_singleton t c =>
    rw [escapePipes, List.flatMap_append, List.flatMap_singleton, List.getLast?_concat]
    split
    · next hc => rw [List.getLast?_append_of_ne_nil _ (by simp), hc]; rfl
    · rw [List.getLast?_concat]

theorem strip_escapePipes (h : t.strip = t) : (escapePipes t).strip = escapePipes t := by
  refine Text.strip_eq_self (fun c hc => ?_) (fun c hc => ?_)
  · obtain hfirst | rfl := head?_escapePipes hc
    · rw [← h] at hfirst
      exact Text.head?_strip_not_blank hfirst
    · rfl
  · rw [getLast?_escapePipes, ← h] at hc
    exact Text.getLast?_strip_not_blank hc

/-! ## Rows -/

/-- The parts of a text between its pipes, where a pipe behind a backslash separates nothing; `before` is
the character in front of the text. -/
def pipeFieldsAfter (before : Option Char) : Text → List Text
  | [] => [[]]
  | c :: t =>
    if c = '|' ∧ before ≠ some '\\' then [] :: pipeFieldsAfter (some c) t
    else match pipeFieldsAfter (some c) t with
      | [] => [[c]]
      | f :: fs => (c :: f) :: fs

/-- The parts of a row between its pipes. -/
def pipeFields (line : Text) : List Text := pipeFieldsAfter none line

/-- What a row says: its parts without the blanks around them, with plain pipes. -/
def readRow (line : Text) : List Text := (pipeFields line).map fun part => unescapePipes part.strip

theorem pipeFieldsAfter_pipe {before : Option Char} (h : before ≠ some '\\') (t : Text) :
    pipeFieldsAfter before ('|' :: t) = [] :: pipeFieldsAfter (some '|') t := by
  rw [pipeFieldsAfter, if_pos ⟨rfl, h⟩]

theorem pipeFieldsAfter_char {before : Option Char} {c : Char} {f : Text} {fs : List Text}
    (hc : c = '|' → before = some '\\') (h : pipeFieldsAfter (some c) t = f :: fs) :
    pipeFieldsAfter before (c :: t) = (c :: f) :: fs := by
  rw [pipeFieldsAfter, if_neg fun hsep => hsep.2 (hc hsep.1), h]

/-- No pipe of an escaped text separates anything, whatever stands in front of the text. The first part
ends at the pipe behind the blank. -/
theorem pipeFieldsAfter_escapePipes (before : Option Char) (t u : Text) :
    pipeFieldsAfter before (escapePipes t ++ ' ' :: '|' :: u) =
      (escapePipes t ++ [' ']) :: pipeFieldsAfter (some '|') u := by
  induction t generalizing before with
  | nil => exact pipeFieldsAfter_char (fun h => absurd h (by decide)) (pipeFieldsAfter_pipe (by decide) u)
  | cons c t ih =>
    by_cases hc : c = '|'
    · rw [hc, escapePipes_cons_pipe]
      exact pipeFieldsAfter_char (fun h => absurd h (by decide))
        (pipeFieldsAfter_char (fun _ => rfl) (ih (some '|')))
    · rw [escapePipes_cons hc]
      exact pipeFieldsAfter_char (fun h => absurd h hc) (ih (some c))

/-- The part of a row that a cell takes up: the cell between blanks. -/
def cellPart (t : Text) : Text := ' ' :: (escapePipes t ++ [' '])

/-- Behind a pipe, cells that are written one after another are the parts up to the pipe at the end. -/
theorem pipeFieldsAfter_cells (cell : Text) (cells : List Text) :
    pipeFieldsAfter (some '|') (' ' :: (Text.join " | ".toList ((cell :: cells).map escapePipes) ++
      " |".toList)) = (cell :: cells).map cellPart ++ [[]] := by
  induction cells generalizing cell with
  | nil =>
    refine pipeFieldsAfter_char (by decide) ?_
    exact pipeFieldsAfter_escapePipes (some ' ') cell []
  | cons next cells ih =>
    refine pipeFieldsAfter_char (by decide) ?_
    rw [List.map_cons, List.map_cons, Text.join_cons_cons, List.append_assoc, List.append_assoc]
    exact (pipeFieldsAfter_escapePipes (some ' ') cell _).trans (congrArg _ (ih next))

theorem pipeFields_row (h : cells ≠ []) :
    pipeFields (row (cells.map escapePipes)) = [] :: cells.map cellPart ++ [[]] := by
  obtain ⟨cell, cells, rfl⟩ := List.exists_cons_of_ne_nil h
  rw [row, List.append_assoc, pipeFields]
  exact (pipeFieldsAfter_pipe (by decide) _).trans (congrArg _ (pipeFieldsAfter_cells cell cells))

theorem strip_cellPart (h : t.strip = t) : (cellPart t).strip = escapePipes t := by
  by_cases hnil : t = []
  · rw [hnil]
    rfl
  · have hne : escapePipes t ≠ [] := by
      intro hescaped
      have hlast := getLast?_escapePipes t
      rw [hescaped] at hlast
      exact hnil (List.getLast?_eq_none_iff.1 hlast.symm)
    exact Text.strip_between (a := [' ']) (b := [' ']) hne (strip_escapePipes h) rfl rfl

/-- **A row is read back cell by cell**, whatever the cells hold. Nothing stands in front of its first
pipe and behind its last one. -/
theorem readRow_row (hne : cells ≠ []) (hstrip : ∀ t ∈ cells, t.strip = t) :
    readRow (row (cells.map escapePipes)) = [] :: cells ++ [[]] := by
  have hcells : cells.map (fun t => unescapePipes (cellPart t).strip) = cells := by
    rw [List.map_congr_left fun t ht => by rw [strip_cellPart (hstrip t ht),
      unescapePipes_escapePipes], List.map_id']
  rw [readRow, pipeFields_row hne, List.map_append, List.map_cons, List.map_map]
  exact congrArg (fun parts => [] :: parts ++ [[]]) hcells

/-! ## Properties -/

/-- A text as code, or a dash when there is none. -/
def codeText (t : Text) : Text :=
  if t.isEmpty then ['-'] else Script.backquote :: (t.collapse ++ [Script.backquote])

/-- A text on one line, or a dash when there is none. -/
def textOrDash (t : Text) : Text := if t.isEmpty then ['-'] else t.collapse

/-- The mark of what is required; nothing otherwise. -/
def requiredMark (required : Bool) : Text := if required then ['✓'] else []

/-- What the table says of a property: name, type, required mark, default and description. -/
def propertyTexts (p : Property) : List Text :=
  [p.name.collapse, codeText p.type, requiredMark p.required, textOrDash (p.default.getD []),
    textOrDash p.description]

/-- Marks and quotes around a text need no escape, so that all cells are escaped texts. -/
theorem propertyCells_eq (p : Property) : propertyCells p = (propertyTexts p).map escapePipes := by
  have horDash (t : Text) : (if t.isEmpty then ['-'] else cell t) = escapePipes (textOrDash t) := by
    rw [textOrDash]
    split <;> rfl
  have hcode : (if p.type.isEmpty then ['-'] else Script.backquote :: cell p.type ++ [Script.backquote]) =
      escapePipes (codeText p.type) := by
    rw [codeText]
    split
    · rfl
    · rw [escapePipes_cons (by decide), escapePipes, List.flatMap_append]
      rfl
  have hrequired : (if p.required then ['✓'] else []) = escapePipes (requiredMark p.required) := by
    rw [requiredMark]
    split <;> rfl
  rw [propertyCells, propertyTexts]
  simp only [horDash, hcode, hrequired, List.map_cons, List.map_nil]
  rfl

theorem strip_collapse (t : Text) : t.collapse.strip = t.collapse := by
  rcases Text.oneLine_collapse t with hnil | hplain
  · rw [hnil]
    rfl
  · exact hplain.strip_eq

theorem strip_textOrDash (t : Text) : (textOrDash t).strip = textOrDash t := by
  rw [textOrDash]
  split
  · rfl
  · exact strip_collapse t

theorem strip_codeText (t : Text) : (codeText t).strip = codeText t := by
  rw [codeText]
  split
  · rfl
  · refine Text.strip_eq_self (fun c hc => ?_) (fun c hc => ?_)
    · cases hc
      rfl
    · rw [← List.cons_append, List.getLast?_concat] at hc
      cases hc
      rfl

theorem strip_propertyTexts (p : Property) : ∀ t ∈ propertyTexts p, t.strip = t := by
  have hrequired : (requiredMark p.required).strip = requiredMark p.required := by
    cases p.required <;> decide
  simp only [propertyTexts, List.forall_mem_cons]
  exact ⟨strip_collapse p.name, strip_codeText p.type, hrequired, strip_textOrDash _,
    strip_textOrDash _, List.forall_mem_nil _⟩

/-! ## The section with the table -/

/-- A row that is written has nothing left to do. -/
theorem isClosedRow_row (cells : List Text) : IsClosedRow (row cells) := by
  have hshape : row cells = '|' :: ' ' :: (Text.join " | ".toList cells ++ [' ', '|']) := by
    rw [row, List.append_assoc]
    rfl
  have hstrip : (row cells).strip = row cells := by
    refine Text.strip_eq_self (fun c hc => ?_) (fun c hc => ?_)
    · rw [hshape] at hc
      cases hc
      rfl
    · rw [row, List.getLast?_append_of_ne_nil _ (by decide)] at hc
      cases hc
      rfl
  refine ⟨hstrip, kind_of_head?_strip ?_, ?_⟩
  · rw [hstrip, hshape]
    rfl
  · have hend : (row cells).endsWith ['|'] = true ∧ (row cells).endsWith ['\\', '|'] = false := by
      rw [hshape, Text.endsWith, Text.endsWith]
      simp [List.isSuffixOf, List.isPrefixOf]
    rw [closeRow, hend.1, hend.2]
    rfl

/-- The line under the headings of the columns. -/
def tableRule : Text := "|------|------|:------:|------|------|".toList

theorem isClosedRow_tableRule : IsClosedRow tableRule := by
  refine ⟨?_, kind_of_head?_strip ?_, ?_⟩ <;> decide

/-- The blocks of a section with a table: the heading and the rows. -/
def propsBlocks (locale : Locale) (ps : List Property) : List Block :=
  [.heading (sectionHeading locale.propsTitle),
    .table (row locale.propsHeaders :: tableRule :: ps.map fun p => row (propertyCells p))]

theorem isCanonical_propsBlocks (hlocale : locale ∈ Locale.all) (ps : List Property) :
    ∀ b ∈ propsBlocks locale ps, b.IsCanonical := by
  have hheading := isPlain_sectionHeading hlocale locale.propsTitle (by simp)
  have hkind : LineKind.of (sectionHeading locale.propsTitle) = .heading := by
    refine kind_of_opensSection ?_
    rw [hheading.strip_eq]
    exact opensSection_sectionHeading locale.propsTitle
  have hrows : ∀ r ∈ row locale.propsHeaders :: tableRule :: ps.map fun p => row (propertyCells p),
      IsClosedRow r := by
    rw [List.forall_mem_cons, List.forall_mem_cons, List.forall_mem_map]
    exact ⟨isClosedRow_row _, isClosedRow_tableRule, fun p _ => isClosedRow_row _⟩
  rw [propsBlocks, List.forall_mem_cons, List.forall_mem_singleton]
  exact ⟨.heading hheading.strip_eq hkind, .table hrows⟩

theorem pageLines_propsSection (hlocale : locale ∈ Locale.all) (ps : List Property) :
    pageLines (Text.join ['\n'] (propsSection locale ps)) =
      (propsBlocks locale ps).flatMap fun b => b.lines ++ [[]] := by
  have hlast : (propsSection locale ps).getLast? = some [] := by
    rw [propsSection, List.getLast?_append]
    rfl
  rw [pageLines_join hlast, flatMap_writtenLines_propsSection hlocale, propsPieces, List.flatMap_cons,
    flatMap_lines_map_prose, propsBlocks, List.flatMap_cons, List.flatMap_singleton]
  rfl

/-- The layout has nothing to do in a section with a table. -/
theorem pageLines_tidy_propsSection (hlocale : locale ∈ Locale.all) (ps : List Property) :
    pageLines (tidy (Text.join ['\n'] (propsSection locale ps))) =
      (propsBlocks locale ps).flatMap fun b => b.lines ++ [[]] := by
  have hread : Block.ofLines (pageLines (Text.join ['\n'] (propsSection locale ps))) =
      propsBlocks locale ps := by
    rw [pageLines_propsSection hlocale]
    exact ofLines_flatMap (isCanonical_propsBlocks hlocale ps)
  rw [pageLines_tidy (by rw [hread]; exact List.cons_ne_nil _ _), hread]

/-- **A table of properties says what the properties are.** After the layout, a section with a table has
its heading, a blank line, the headings of the columns, a rule, and one row for each property, in order.
The row is read back as five cells: the name, the type as code, the required mark, the default and the
description. -/
theorem readRow_propsSection (hlocale : locale ∈ Locale.all) (ps : List Property) :
    ∃ rows : List Text,
      pageLines (tidy (Text.join ['\n'] (propsSection locale ps))) =
        [sectionHeading locale.propsTitle, [], row locale.propsHeaders, tableRule] ++ rows ++ [[]] ∧
      rows.map readRow = ps.map fun p => [] :: propertyTexts p ++ [[]] := by
  refine ⟨ps.map fun p => row (propertyCells p), ?_, ?_⟩
  · rw [pageLines_tidy_propsSection hlocale]
    simp [propsBlocks, Block.lines]
  · rw [List.map_map]
    refine List.map_congr_left fun p _ => ?_
    rw [Function.comp_apply, propertyCells_eq]
    exact readRow_row (List.cons_ne_nil _ _) (strip_propertyTexts p)

/-- A property whose texts hold pipes, with and without backslashes, a backslash at the end, back-quotes
and a line break. -/
theorem readRow_propsSection_pipes :
    ∃ rows : List Text,
      pageLines (tidy (Text.join ['\n'] (propsSection .english [{
        name := "a|b".toList, type := "'x' |\n  'y'".toList, required := true,
        default := some "c\\|`d`".toList, description := "up to \\".toList }]))) =
        [sectionHeading Locale.english.propsTitle, [], row Locale.english.propsHeaders, tableRule] ++
          rows ++ [[]] ∧
      rows.map readRow = [[[], "a|b".toList, "`'x' | 'y'`".toList, "✓".toList, "c\\|`d`".toList,
        "up to \\".toList, []]] :=
  readRow_propsSection List.mem_cons_self _

end ComponentBook.Markdown
