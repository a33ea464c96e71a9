import ComponentBook.Markdown.Layout
import ComponentBook.Proofs.Text.Lines

/-! # Layout, line by line

`tidy` reads blocks and writes them again. Apart from blank lines the outcome can be told line by
line: **`layLine`** says what a single line becomes, which depends on no more than whether a fence is
open in front of it, and **`laidLines`** does so for all lines of a page and closes the fence that is
left open. Its lines are those of the blocks (`filter_flatMap_lines_ofLines`), and hence the filled
lines of a page in canonical layout (`filledLines_tidy`). What is read of a fence is told once and for all
(**`closedFence?_eq_some_iff`**), for every reading of a page that keeps track of fences. -/

namespace ComponentBook.Markdown

open Text (isFilled filledLines)

/-- Whether a fence is open behind a line, and what the line becomes. -/
def layLine : (inFence : Bool) → (line : Text) → Bool × List Text
  | true, line => if closesFence line then (false, [fence]) else (true, [line])
  | false, line =>
    match LineKind.of line with
    | .blank => (false, [])
    | .fence => (true, [line.strip])
    | .heading => (false, [line.strip])
    | .row => (false, [closeRow line.strip])
    | .prose => (false, [line.stripRight])

/-- Whether a fence is open behind some lines, and what the lines become. -/
def layLines : (inFence : Bool) → (lines : List Text) → Bool × List Text
  | inFence, [] => (inFence, [])
  | inFence, line :: lines =>
    ((layLines (layLine inFence line).1 lines).1,
      (layLine inFence line).2 ++ (layLines (layLine inFence line).1 lines).2)

/-- The line that closes a fence, if one is open. -/
def closingLines (inFence : Bool) : List Text := if inFence then [fence] else []

/-- What the lines of a page become. -/
def laidLines (lines : List Text) : List Text :=
  (layLines false lines).2 ++ closingLines (layLines false lines).1

@[simp] theorem layLines_nil (inFence : Bool) : layLines inFence [] = (inFence, []) := rfl

theorem layLines_cons (inFence : Bool) (line : Text) (lines : List Text) :
    layLines inFence (line :: lines)
      = ((layLines (layLine inFence line).1 lines).1,
        (layLine inFence line).2 ++ (layLines (layLine inFence line).1 lines).2) := rfl

/-- Lines behind other lines are laid out in the state that the first ones leave. -/
theorem layLines_append (inFence : Bool) (xs ys : List Text) :
    layLines inFence (xs ++ ys)
      = ((layLines (layLines inFence xs).1 ys).1,
        (layLines inFence xs).2 ++ (layLines (layLines inFence xs).1 ys).2) := by
  induction xs generalizing inFence with
  | nil => rfl
  | cons x xs ih => rw [List.cons_append, layLines_cons, ih, layLines_cons, List.append_assoc]

theorem layLines_append_snd (inFence : Bool) (xs ys : List Text) :
    (layLines inFence (xs ++ ys)).2
      = (layLines inFence xs).2 ++ (layLines (layLines inFence xs).1 ys).2 := by
  rw [layLines_append]

/-! ## Fences -/

/-- A fence ends with the first line that closes it. -/
theorem closedFence?_append_closing {body : List Text} {closing : Text}
    (h : ∀ l ∈ body, closesFence l = false) (hcloses : closesFence closing = true) (rest : List Text) :
    closedFence? (body ++ closing :: rest) = some (body, rest) := by
  induction body with
  | nil => rw [List.nil_append, closedFence?, if_pos hcloses]
  | cons l body ih =>
    obtain ⟨hl, hbody⟩ := List.forall_mem_cons.1 h
    rw [List.cons_append, closedFence?, hl, if_neg Bool.false_ne_true, ih hbody]
    rfl

/-- **What is read of a closed fence**: the lines inside it, the line that closes it and the lines behind. -/
theorem closedFence?_eq_some_iff {ls body after : List Text} :
    closedFence? ls = some (body, after) ↔
      ∃ closing, ls = body ++ closing :: after ∧ (∀ l ∈ body, closesFence l = false) ∧
        closesFence closing = true := by
  constructor
  · intro h
    induction ls generalizing body with
    | nil => cases h
    | cons l ls ih =>
      rw [closedFence?] at h
      split at h
      · next hl =>
        obtain ⟨rfl, rfl⟩ := Prod.mk.inj (Option.some.inj h)
        exact ⟨l, rfl, List.forall_mem_nil _, hl⟩
      · next hl =>
        obtain ⟨⟨b, a⟩, hb, he⟩ := Option.map_eq_some_iff.1 h
        obtain ⟨rfl, rfl⟩ := Prod.mk.inj he
        obtain ⟨closing, rfl, hinside, hcloses⟩ := ih hb
        exact ⟨closing, rfl, List.forall_mem_cons.2 ⟨Bool.eq_false_iff.2 hl, hinside⟩, hcloses⟩
  · rintro ⟨closing, rfl, hinside, hcloses⟩
    exact closedFence?_append_closing hinside hcloses after

/-- A fence stays open when no line closes it. -/
theorem closesFence_of_closedFence?_none {ls : List Text} (h : closedFence? ls = none) :
    ∀ l ∈ ls, closesFence l = false := by
  induction ls with
  | nil => exact List.forall_mem_nil _
  | cons l ls ih =>
    rw [closedFence?] at h
    split at h
    · cases h
    · next hl =>
      exact List.forall_mem_cons.2 ⟨Bool.eq_false_iff.2 hl, ih (Option.map_eq_none_iff.1 h)⟩

/-- Inside a fence lines stay as they are. -/
theorem layLines_inside {body : List Text} (h : ∀ l ∈ body, closesFence l = false) :
    layLines true body = (true, body) := by
  induction body with
  | nil => rfl
  | cons l body ih =>
    obtain ⟨hl, hbody⟩ := List.forall_mem_cons.1 h
    rw [layLines_cons, layLine, hl, if_neg Bool.false_ne_true, ih hbody]
    rfl

/-- Inside a fence lines stay as they are up to the one that closes it. -/
theorem layLines_of_closedFence? {ls body after : List Text}
    (h : closedFence? ls = some (body, after)) :
    layLines true ls = ((layLines false after).1, body ++ fence :: (layLines false after).2) := by
  obtain ⟨closing, rfl, hinside, hcloses⟩ := closedFence?_eq_some_iff.1 h
  rw [layLines_append, layLines_inside hinside, layLines_cons, layLine, if_pos hcloses]
  rfl

/-! ## The lines of blocks -/

/-- Lines of one kind that are laid out one by one: the rows of a table, the lines of a paragraph. -/
theorem layLines_takeWhile {kind : LineKind} {lay : Text → Text}
    (h : ∀ l, LineKind.of l = kind → layLine false l = (false, [lay l])) (ls : List Text) :
    layLines false ls
      = ((layLines false (ls.dropWhile fun l => LineKind.of l = kind)).1,
        (ls.takeWhile fun l => LineKind.of l = kind).map lay
          ++ (layLines false (ls.dropWhile fun l => LineKind.of l = kind)).2) := by
  induction ls with
  | nil => rfl
  | cons l ls ih =>
    by_cases hl : LineKind.of l = kind
    · rw [layLines_cons, h l hl, ih, List.takeWhile_cons_of_pos (by simpa using hl),
        List.dropWhile_cons_of_pos (by simpa using hl), List.map_cons]
      rfl
    · rw [List.takeWhile_cons_of_neg (by simpa using hl),
        List.dropWhile_cons_of_neg (by simpa using hl)]
      rfl

/-- Only blank lines are dropped at the end of an open fence. -/
theorem filter_dropBlankEnd (ls : List Text) :
    (dropBlankEnd ls).filter isFilled = ls.filter isFilled := by
  have hend : (ls.rtakeWhile Text.allBlank).filter isFilled = [] := by
    rw [List.filter_eq_nil_iff]
    intro l hl
    simp [isFilled, List.mem_rtakeWhile_imp hl]
  calc (dropBlankEnd ls).filter isFilled
      = (ls.rdropWhile Text.allBlank ++ ls.rtakeWhile Text.allBlank).filter isFilled := by
        rw [List.filter_append, hend, List.append_nil]
        rfl
    _ = ls.filter isFilled := by rw [List.rdropWhile_append_rtakeWhile]

theorem layLine_of_row (l : Text) (h : LineKind.of l = .row) :
    layLine false l = (false, [closeRow l.strip]) := by
  rw [layLine, h]

theorem layLine_of_prose (l : Text) (h : LineKind.of l = .prose) :
    layLine false l = (false, [l.stripRight]) := by
  rw [layLine, h]

/-- The lines of the blocks of a page are what its lines become one by one, blank lines aside. -/
theorem filter_flatMap_lines_ofLines (ls : List Text) :
    ((Block.ofLines ls).flatMap Block.lines).filter isFilled = (laidLines ls).filter isFilled := by
  -- along the recursion that reads the blocks; case5 is a fence that stays open to the end of the page
  fun_induction Block.ofLines ls with
  | case1 => rfl
  | case2 line rest hkind ih =>
    rw [ih, laidLines, laidLines, layLines_cons, layLine, hkind]
    rfl
  | case3 line rest hkind ih =>
    rw [List.flatMap_cons, List.filter_append, ih, laidLines, laidLines, layLines_cons, layLine,
      hkind, ← List.filter_append]
    rfl
  | case4 line rest hkind body after hclosed ih =>
    rw [List.flatMap_cons, List.filter_append, ih, laidLines, laidLines, layLines_cons, layLine,
      hkind, layLines_of_closedFence? hclosed, ← List.filter_append, Block.lines]
    simp
  | case5 line rest hkind hopen =>
    rw [laidLines, layLines_cons, layLine, hkind, layLines_inside (closesFence_of_closedFence?_none hopen),
      List.flatMap_singleton, Block.lines]
    simp [closingLines, List.filter_cons, filter_dropBlankEnd]
  | case6 line rest hkind ih =>
    rw [List.flatMap_cons, List.filter_append, ih, laidLines, laidLines, layLines_cons,
      layLine_of_row line hkind, layLines_takeWhile layLine_of_row rest, Block.lines,
      ← List.filter_append]
    simp only [List.map_cons, List.cons_append, List.nil_append, List.append_assoc]
  | case7 line rest hkind ih =>
    rw [List.flatMap_cons, List.filter_append, ih, laidLines, laidLines, layLines_cons,
      layLine_of_prose line hkind, layLines_takeWhile layLine_of_prose rest, Block.lines,
      ← List.filter_append]
    simp only [List.map_cons, List.cons_append, List.nil_append, List.append_assoc]

/-! ## Pages -/

/-- The filled lines within some lines are those within the ones that are not blank. -/
theorem flatMap_filledLines_filter (ls : List Text) :
    (ls.filter isFilled).flatMap filledLines = ls.flatMap filledLines := by
  induction ls with
  | nil => rfl
  | cons l ls ih =>
    by_cases hl : isFilled l = true
    · rw [List.filter_cons_of_pos hl, List.flatMap_cons, List.flatMap_cons, ih]
    · have hblank : l.allBlank = true := by simpa [isFilled] using hl
      rw [List.filter_cons_of_neg hl, ih, List.flatMap_cons, Text.filledLines_of_allBlank hblank,
        List.nil_append]

/-- The blank lines between blocks are not filled. -/
theorem filledLines_ofBlocks (blocks : List Block) :
    (ofBlocks blocks).filledLines = (blocks.flatMap Block.lines).flatMap filledLines := by
  have hjoin (bs : List Block) :
      (Text.join ['\n', '\n'] (bs.map fun b => Text.join ['\n'] b.lines)).filledLines
        = (bs.flatMap Block.lines).flatMap filledLines := by
    induction bs with
    | nil => rfl
    | cons b bs ih =>
      rw [List.flatMap_cons, List.flatMap_append, ← Text.filledLines_join, ← ih]
      cases bs with
      | nil => simp [filledLines, Text.lines, Text.brokenLines, Text.brokenLinesAfter]
      | cons c bs =>
        rw [List.map_cons, List.map_cons, Text.join_cons_cons, List.append_assoc]
        exact (Text.filledLines_append_newline _ _).trans
          (congrArg _ (Text.filledLines_append_newline [] _))
  rw [ofBlocks]
  cases blocks with
  | nil => rfl
  | cons b bs =>
    rw [List.isEmpty_cons, if_neg Bool.false_ne_true, Text.filledLines_append_newline, hjoin]
    exact List.append_nil _

/-- The filled lines of a page in canonical layout, told line by line. -/
theorem filledLines_tidy (page : Text) :
    (tidy page).filledLines = (laidLines (pageLines page)).flatMap filledLines := by
  rw [tidy, filledLines_ofBlocks, ← flatMap_filledLines_filter, filter_flatMap_lines_ofLines,
    flatMap_filledLines_filter]

/-! ## The lines that a page is read as -/

theorem pageLines_append_newline (a b : Text) (h : a.getLast? ≠ some '\r') :
    pageLines (a ++ '\n' :: b) = pageLines a ++ pageLines b := by
  rw [pageLines, Text.unifyNewlines_append_newline a b h, Text.fields_append_cons]
  rfl

/-- The lines of a page that is joined from texts are those of the texts, unless a carriage return
would come to stand in front of a line feed. -/
theorem pageLines_join_append {ts us : List Text} (hts : ∀ t ∈ ts, t.getLast? ≠ some '\r')
    (hus : us ≠ []) :
    pageLines (Text.join ['\n'] (ts ++ us))
      = ts.flatMap pageLines ++ pageLines (Text.join ['\n'] us) := by
  induction ts with
  | nil => rfl
  | cons t ts ih =>
    have hjoin : Text.join ['\n'] (t :: (ts ++ us)) = t ++ '\n' :: Text.join ['\n'] (ts ++ us) := by
      cases hrest : ts ++ us with
      | nil => exact absurd (List.append_eq_nil_iff.1 hrest).2 hus
      | cons r rest => rw [Text.join_cons_cons, List.append_assoc, List.singleton_append]
    rw [List.cons_append, hjoin, pageLines_append_newline t _ (hts t List.mem_cons_self),
      ih fun u hu => hts u (List.mem_cons_of_mem t hu), List.flatMap_cons, List.append_assoc]

/-- A text on one line is a line of its own. -/
theorem pageLines_of_no_break {t : Text} (h : ∀ c ∈ t, Text.isLineBreak c = false) :
    pageLines t = [t] := by
  have hcr : '\r' ∉ t := fun hmem => by cases h _ hmem
  have hlf : '\n' ∉ t := fun hmem => by cases h _ hmem
  rw [pageLines, Text.unifyNewlines_of_not_mem hcr, Text.fields_of_not_mem hlf]

/-! ## The characters of a page -/

/-- A line of a page has no line ends. -/
theorem not_mem_of_mem_pageLines {page l : Text} (hl : l ∈ pageLines page) : '\n' ∉ l ∧ '\r' ∉ l :=
  ⟨Text.not_mem_of_mem_fields hl,
    fun hcr => Text.not_mem_unifyNewlines page (Text.mem_of_mem_fields hl hcr)⟩

theorem sublist_of_closedFence? {ls body after : List Text}
    (h : closedFence? ls = some (body, after)) : (body ++ after).Sublist ls := by
  obtain ⟨closing, rfl, -, -⟩ := closedFence?_eq_some_iff.1 h
  exact (List.sublist_cons_self closing after).append_left body

variable {P : Char → Prop}

theorem chars_closeRow (hspace : P ' ') (hpipe : P '|') {row : Text} (h : ∀ c ∈ row, P c) :
    ∀ c ∈ closeRow row, P c := by
  rw [closeRow]
  split
  · intro c hc
    rw [List.mem_append, List.mem_cons, List.mem_singleton] at hc
    rcases hc with hc | rfl | rfl
    · exact h c hc
    · exact hspace
    · exact hpipe
  · exact h

theorem chars_strip {t : Text} (h : ∀ c ∈ t, P c) : ∀ c ∈ t.strip, P c :=
  fun c hc => h c ((Text.strip_sublist t).subset hc)

theorem chars_stripRight {t : Text} (h : ∀ c ∈ t, P c) : ∀ c ∈ t.stripRight, P c := by
  rw [Text.stripRight_eq_rdropWhile]
  exact fun c hc => h c ((List.rdropWhile_prefix _ _).subset hc)

/-- Apart from those of pipes and fences the layout writes no characters of its own. -/
theorem chars_ofLines (hspace : P ' ') (hpipe : P '|') (hquote : P Script.backquote)
    {ls : List Text} (h : ∀ l ∈ ls, ∀ c ∈ l, P c) :
    ∀ l ∈ (Block.ofLines ls).flatMap Block.lines, ∀ c ∈ l, P c := by
  -- the line that closes a fence is the only one that the layout adds
  have hfence : ∀ c ∈ fence, P c := by
    intro c hc
    rw [List.eq_of_mem_replicate (n := 3) hc]
    exact hquote
  fun_induction Block.ofLines ls with
  | case1 => exact nofun
  | case2 line rest _ ih => exact ih fun l hl => h l (List.mem_cons_of_mem line hl)
  | case3 line rest _ ih =>
    rw [List.flatMap_cons, Block.lines, List.forall_mem_append, List.forall_mem_singleton]
    exact ⟨chars_strip (h line List.mem_cons_self),
      ih fun l hl => h l (List.mem_cons_of_mem line hl)⟩
  | case4 line rest _ body after hclosed ih =>
    have hrest : ∀ l ∈ body ++ after, ∀ c ∈ l, P c := fun l hl =>
      h l (List.mem_cons_of_mem line ((sublist_of_closedFence? hclosed).subset hl))
    rw [List.forall_mem_append] at hrest
    rw [List.flatMap_cons, Block.lines, List.forall_mem_append, List.forall_mem_append,
      List.forall_mem_cons, List.forall_mem_singleton]
    exact ⟨⟨⟨chars_strip (h line List.mem_cons_self), hrest.1⟩, hfence⟩, ih hrest.2⟩
  | case5 line rest _ _ =>
    have hrest : ∀ l ∈ dropBlankEnd rest, ∀ c ∈ l, P c := fun l hl =>
      h l (List.mem_cons_of_mem line ((List.rdropWhile_prefix _ _).subset hl))
    rw [List.flatMap_singleton, Block.lines, List.forall_mem_append, List.forall_mem_cons,
      List.forall_mem_singleton]
    exact ⟨⟨chars_strip (h line List.mem_cons_self), hrest⟩, hfence⟩
  | case6 line rest _ ih =>
    rw [List.flatMap_cons, Block.lines, List.forall_mem_append, List.forall_mem_map]
    refine ⟨fun l hl => chars_closeRow hspace hpipe (chars_strip (h l ?_)),
      ih fun l hl => h l (List.mem_cons_of_mem line ((List.dropWhile_sublist _).subset hl))⟩
    exact List.Sublist.subset (List.Sublist.cons_cons line (List.takeWhile_sublist _)) hl
  | case7 line rest _ ih =>
    rw [List.flatMap_cons, Block.lines, List.forall_mem_append, List.forall_mem_map]
    refine ⟨fun l hl => chars_stripRight (h l ?_),
      ih fun l hl => h l (List.mem_cons_of_mem line ((List.dropWhile_sublist _).subset hl))⟩
    exact List.Sublist.subset (List.Sublist.cons_cons line (List.takeWhile_sublist _)) hl

/-- A page in canonical layout has no carriage return, so it is read back as it is written. -/
theorem carriageReturn_not_mem_tidy (page : Text) : '\r' ∉ tidy page := by
  have hlines : ∀ l ∈ pageLines page, ∀ c ∈ l, c ≠ '\r' := by
    rintro l hl c hc rfl
    exact Text.not_mem_unifyNewlines page (Text.mem_of_mem_fields hl hc)
  have hblocks := chars_ofLines (P := fun c => c ≠ '\r') (by decide) (by decide) (by decide) hlines
  rw [tidy, ofBlocks]
  split
  · exact List.not_mem_nil
  · intro hmem
    rw [List.mem_append, List.mem_singleton] at hmem
    rcases hmem with hmem | hmem
    · refine Text.forall_mem_join (P := fun c => c ≠ '\r') (by simp) ?_ _ hmem rfl
      rw [List.forall_mem_map]
      exact fun b hb => Text.forall_mem_join (by simp) fun l hl =>
        hblocks l (List.mem_flatMap.2 ⟨b, hb, hl⟩)
    · cases hmem

end ComponentBook.Markdown
