import ComponentBook.Proofs.Markdown.PlainLines

/-! # Layout that is read back

Each block of a page is in a form of its own (**`Block.IsCanonical`**): nothing is left to strip, every row
ends in a pipe, and no line inside a fence closes it. All blocks that are read have that form
(**`isCanonical_of_mem_ofLines`**), and a block of that form, with a blank line behind it, is read back as
itself whatever follows (**`ofLines_append`**). So a page in canonical layout is read as the blocks that it
was written from, and to lay it out once more changes nothing (**`tidy_tidy`**). -/

namespace ComponentBook.Markdown

variable {line row : Text} {ls : List Text} {b : Block} {blocks : List Block}

/-! ## Lines that have been laid out -/

/-- The kind of a line is told without the blanks at its ends. -/
theorem kind_congr {other : Text} (h : line.strip = other.strip) :
    LineKind.of line = LineKind.of other := by
  rw [LineKind.of, LineKind.of, opensFence, opensFence, h]

theorem kind_strip (line : Text) : LineKind.of line.strip = LineKind.of line :=
  kind_congr (Text.strip_strip line)

theorem kind_stripRight (line : Text) : LineKind.of line.stripRight = LineKind.of line :=
  kind_congr (Text.strip_stripRight line)

@[simp] theorem kind_nil : LineKind.of [] = .blank := rfl

theorem stripRight_stripRight (t : Text) : t.stripRight.stripRight = t.stripRight :=
  List.rdropWhile_idempotent Text.isBlank t

/-- A row starts with a pipe. -/
theorem head?_strip_of_row (h : LineKind.of line = .row) : line.strip.head? = some '|' := by
  rw [LineKind.of] at h
  split at h
  · cases h
  · split at h
    · cases h
    · next c rest hstrip =>
      rw [hstrip]
      by_cases hc : c = '|'
      · rw [hc]
        rfl
      · simp only [if_neg hc] at h
        split at h <;> cases h

/-- What starts with a pipe, without blanks in front, is a row. -/
theorem kind_of_head?_strip (h : line.strip.head? = some '|') : LineKind.of line = .row := by
  obtain ⟨rest, hrest⟩ := List.head?_eq_some_iff.1 h
  rw [LineKind.of, opensFence, hrest]
  rfl

/-- A pipe at the end of a row is no blank. -/
theorem strip_closeRow (hstrip : row.strip = row) (hhead : row.head? = some '|') :
    (closeRow row).strip = closeRow row := by
  rw [closeRow]
  split
  · refine Text.strip_eq_self (fun c hc => ?_) (fun c hc => ?_)
    · rw [List.head?_append, hhead] at hc
      obtain rfl : '|' = c := Option.some.inj hc
      rfl
    · rw [List.getLast?_append_of_ne_nil _ (by simp)] at hc
      obtain rfl : '|' = c := Option.some.inj hc
      rfl
  · exact hstrip

/-! ## Blocks that have been laid out -/

/-- A row of a table with nothing left to do. -/
structure IsClosedRow (row : Text) : Prop where
  strip_eq : row.strip = row
  kind : LineKind.of row = .row
  closed : closeRow row = row

/-- A block as the layout writes it. -/
inductive Block.IsCanonical : Block → Prop
  /-- A heading without blanks at its ends. -/
  | heading {line : Text} (strip_eq : line.strip = line) (kind : LineKind.of line = .heading) :
      IsCanonical (.heading line)
  /-- A fence that ends where it is closed. -/
  | fence {opening : Text} {body : List Text} (strip_eq : opening.strip = opening)
      (kind : LineKind.of opening = .fence) (inside : ∀ l ∈ body, closesFence l = false) :
      IsCanonical (.fence opening body)
  /-- At least one row, and every row closed. -/
  | table {row : Text} {rows : List Text} (closed : ∀ r ∈ row :: rows, IsClosedRow r) :
      IsCanonical (.table (row :: rows))
  /-- At least one line, and no line with blanks at its end. -/
  | paragraph {line : Text} {lines : List Text}
      (prose : ∀ l ∈ line :: lines, LineKind.of l = .prose ∧ l.stripRight = l) :
      IsCanonical (.paragraph (line :: lines))

theorem isClosedRow_of_row (h : LineKind.of line = .row) : IsClosedRow (closeRow line.strip) := by
  have hhead := head?_strip_of_row h
  have hstrip := strip_closeRow (Text.strip_strip line) hhead
  refine ⟨hstrip, kind_of_head?_strip ?_, closeRow_closeRow line.strip⟩
  rw [hstrip]
  exact head?_closeRow hhead

theorem prose_stripRight (h : LineKind.of line = .prose) :
    LineKind.of line.stripRight = .prose ∧ line.stripRight.stripRight = line.stripRight :=
  ⟨(kind_stripRight line).trans h, stripRight_stripRight line⟩

/-- What the layout makes of the lines of one kind that follow each other. -/
theorem forall_mem_map_takeWhile {kind : LineKind} {lay : Text → Text} {P : Text → Prop}
    (hlay : ∀ l, LineKind.of l = kind → P (lay l)) (hline : LineKind.of line = kind)
    (ls : List Text) :
    ∀ l ∈ (line :: ls.takeWhile fun l => LineKind.of l = kind).map lay, P l := by
  rw [List.forall_mem_map, List.forall_mem_cons]
  refine ⟨hlay line hline, ?_⟩
  intro l hl
  have hkind := List.mem_takeWhile_imp hl
  exact hlay l (of_decide_eq_true hkind)

/-- **Which blocks are read.** Every block of a page is as the layout writes it. -/
theorem isCanonical_of_mem_ofLines (ls : List Text) : ∀ b ∈ Block.ofLines ls, b.IsCanonical := by
  -- along the recursion that reads the blocks; case5 is a fence that stays open to the end of the page
  fun_induction Block.ofLines ls with
  | case1 => exact List.forall_mem_nil _
  | case2 line rest hkind ih => exact ih
  | case3 line rest hkind ih =>
    exact List.forall_mem_cons.2
      ⟨.heading (Text.strip_strip line) ((kind_strip line).trans hkind), ih⟩
  | case4 line rest hkind body after hclosed ih =>
    obtain ⟨closing, -, hinside, -⟩ := closedFence?_eq_some_iff.1 hclosed
    exact List.forall_mem_cons.2
      ⟨.fence (Text.strip_strip line) ((kind_strip line).trans hkind) hinside, ih⟩
  | case5 line rest hkind hopen =>
    refine List.forall_mem_singleton.2
      (.fence (Text.strip_strip line) ((kind_strip line).trans hkind) fun l hl => ?_)
    exact closesFence_of_closedFence?_none hopen l ((List.rdropWhile_prefix _ _).subset hl)
  | case6 line rest hkind ih =>
    exact List.forall_mem_cons.2
      ⟨.table (forall_mem_map_takeWhile (fun _ => isClosedRow_of_row) hkind rest), ih⟩
  | case7 line rest hkind ih =>
    exact List.forall_mem_cons.2
      ⟨.paragraph (forall_mem_map_takeWhile (fun _ => prose_stripRight) hkind rest), ih⟩

/-! ## Reading blocks back -/

theorem ofLines_of_blank (h : LineKind.of line = .blank) (rest : List Text) :
    Block.ofLines (line :: rest) = Block.ofLines rest := by
  rw [Block.ofLines, h]

theorem ofLines_of_heading (h : LineKind.of line = .heading) (rest : List Text) :
    Block.ofLines (line :: rest) = .heading line.strip :: Block.ofLines rest := by
  rw [Block.ofLines, h]

theorem ofLines_of_closedFence? {rest body after : List Text} (h : LineKind.of line = .fence)
    (hclosed : closedFence? rest = some (body, after)) :
    Block.ofLines (line :: rest) = .fence line.strip body :: Block.ofLines after := by
  rw [Block.ofLines, h]
  dsimp only
  split
  · next hread =>
    rw [hclosed] at hread
    obtain ⟨rfl, rfl⟩ := Prod.mk.inj (Option.some.inj hread)
    rfl
  · next hread =>
    rw [hclosed] at hread
    cases hread

theorem ofLines_of_row (h : LineKind.of line = .row) (rest : List Text) :
    Block.ofLines (line :: rest) =
      .table ((line :: rest.takeWhile fun l => LineKind.of l = .row).map fun l => closeRow l.strip) ::
        Block.ofLines (rest.dropWhile fun l => LineKind.of l = .row) := by
  rw [Block.ofLines, h]

theorem ofLines_of_prose (h : LineKind.of line = .prose) (rest : List Text) :
    Block.ofLines (line :: rest) =
      .paragraph ((line :: rest.takeWhile fun l => LineKind.of l = .prose).map Text.stripRight) ::
        Block.ofLines (rest.dropWhile fun l => LineKind.of l = .prose) := by
  rw [Block.ofLines, h]

theorem ofLines_blank (rest : List Text) : Block.ofLines ([] :: rest) = Block.ofLines rest :=
  ofLines_of_blank kind_nil rest

/-- A fence is closed by the line that the layout writes behind it. -/
theorem closedFence?_append {body : List Text} (h : ∀ l ∈ body, closesFence l = false)
    (rest : List Text) : closedFence? (body ++ fence :: rest) = some (body, rest) :=
  closedFence?_append_closing h rfl rest

/-- Lines of one kind end where a blank line stands, which is of another kind. -/
theorem span_kind_append {kind : LineKind} (hkind : kind ≠ .blank) (ls rest : List Text) :
    (ls ++ [] :: rest).takeWhile (fun l => LineKind.of l = kind) =
        ls.takeWhile (fun l => LineKind.of l = kind) ∧
      (ls ++ [] :: rest).dropWhile (fun l => LineKind.of l = kind) =
        ls.dropWhile (fun l => LineKind.of l = kind) ++ [] :: rest := by
  induction ls with
  | nil => simp [Ne.symm hkind]
  | cons l ls ih =>
    by_cases hl : LineKind.of l = kind
    · simp [hl, ih]
    · simp [hl]

/-- **A block is read back** when a blank line stands behind it, whatever follows. -/
theorem ofLines_append (hb : b.IsCanonical) (rest : List Text) :
    Block.ofLines (b.lines ++ [] :: rest) = b :: Block.ofLines rest := by
  cases hb with
  | @heading line hstrip hkind =>
    rw [Block.lines, List.singleton_append, ofLines_of_heading hkind, hstrip, ofLines_blank]
  | @fence opening body hstrip hkind hinside =>
    have hclosed := closedFence?_append hinside ([] :: rest)
    rw [Block.lines, List.append_assoc, List.cons_append, List.singleton_append,
      ofLines_of_closedFence? hkind hclosed, hstrip, ofLines_blank]
  | @table row rows hclosed =>
    -- rows are taken up to the blank line, and are closed already
    obtain ⟨hrow, hrows⟩ := List.forall_mem_cons.1 hclosed
    obtain ⟨htake, hdrop⟩ := span_kind_append (by decide : LineKind.row ≠ .blank) rows rest
    have hall : ∀ l ∈ rows, decide (LineKind.of l = .row) = true := fun l hl =>
      decide_eq_true (hrows l hl).kind
    rw [Block.lines, List.cons_append, ofLines_of_row hrow.kind, htake, hdrop,
      List.takeWhile_eq_self_iff.2 hall, List.dropWhile_eq_nil_iff.2 hall, List.nil_append, ofLines_blank]
    rw [List.map_congr_left (g := id) fun r hr => ?_, List.map_id]
    rw [(hclosed r hr).strip_eq, (hclosed r hr).closed, id]
  | @paragraph line lines hprose =>
    obtain ⟨hline, hlines⟩ := List.forall_mem_cons.1 hprose
    obtain ⟨htake, hdrop⟩ := span_kind_append (by decide : LineKind.prose ≠ .blank) lines rest
    have hall : ∀ l ∈ lines, decide (LineKind.of l = .prose) = true := fun l hl =>
      decide_eq_true (hlines l hl).1
    rw [Block.lines, List.cons_append, ofLines_of_prose hline.1, htake, hdrop,
      List.takeWhile_eq_self_iff.2 hall, List.dropWhile_eq_nil_iff.2 hall, List.nil_append, ofLines_blank]
    rw [List.map_congr_left (g := id) fun l hl => (hprose l hl).2, List.map_id]

/-! ## Pages in canonical layout -/

theorem lines_ne_nil (hb : b.IsCanonical) : b.lines ≠ [] := by
  cases hb <;> simp [Block.lines]

/-- The lines of a page that is written: each block, and a blank line behind it. -/
theorem fields_ofBlocks (hne : blocks ≠ []) (hlines : ∀ b ∈ blocks, b.lines ≠ [])
    (hbreak : ∀ l ∈ blocks.flatMap Block.lines, '\n' ∉ l) :
    Text.fields '\n' (ofBlocks blocks) = blocks.flatMap fun b => b.lines ++ [[]] := by
  -- the lines of a single block, each of which holds no line feed
  have hblock : ∀ b ∈ blocks, Text.fields '\n' (Text.join ['\n'] b.lines) = b.lines := by
    intro b hb
    rw [Text.fields_join (hlines b hb)]
    have hfields : ∀ l ∈ b.lines, Text.fields '\n' l = [l] := by
      intro l hl
      exact Text.fields_of_not_mem (hbreak l (List.mem_flatMap.2 ⟨b, hb, hl⟩))
    rw [List.flatMap_congr hfields, List.flatMap_singleton']
  rw [ofBlocks, if_neg (by simpa using hne), Text.fields_append_cons]
  clear hlines hbreak
  induction blocks with
  | nil => exact absurd rfl hne
  | cons b blocks ih =>
    obtain ⟨hb, hblocks⟩ := List.forall_mem_cons.1 hblock
    cases blocks with
    | nil => simp [hb, Text.fields]
    | cons c blocks =>
      have hrest := ih (List.cons_ne_nil c blocks) hblocks
      have hblank (t : Text) : Text.fields '\n' ('\n' :: t) = [] :: Text.fields '\n' t := rfl
      simp only [List.map_cons, Text.join_cons_cons, List.append_assoc, List.cons_append,
        List.nil_append, Text.fields_append_cons, List.flatMap_cons] at hrest ⊢
      rw [hb, hblank, List.cons_append, hrest]

/-- Blocks with blank lines behind them are read back one after another. -/
theorem ofLines_flatMap (h : ∀ b ∈ blocks, b.IsCanonical) :
    Block.ofLines (blocks.flatMap fun b => b.lines ++ [[]]) = blocks := by
  induction blocks with
  | nil => rw [List.flatMap_nil, Block.ofLines]
  | cons b blocks ih =>
    obtain ⟨hb, hblocks⟩ := List.forall_mem_cons.1 h
    rw [List.flatMap_cons, List.append_assoc, List.singleton_append, ofLines_append hb,
      ih hblocks]

/-- No line of a block has a line feed. -/
theorem newline_not_mem_ofLines (page : Text) :
    ∀ l ∈ (Block.ofLines (pageLines page)).flatMap Block.lines, '\n' ∉ l := by
  intro l hl hmem
  have hlines : ∀ l ∈ pageLines page, ∀ c ∈ l, c ≠ '\n' := by
    rintro l hl c hc rfl
    exact Text.not_mem_of_mem_fields hl hc
  exact chars_ofLines (P := fun c => c ≠ '\n') (by decide) (by decide) (by decide) hlines l hl _ hmem rfl

/-- The lines of a page in canonical layout: those of its blocks, and a blank line behind each of them. -/
theorem pageLines_tidy {page : Text} (hne : Block.ofLines (pageLines page) ≠ []) :
    pageLines (tidy page) = (Block.ofLines (pageLines page)).flatMap fun b => b.lines ++ [[]] := by
  have hlines : ∀ b ∈ Block.ofLines (pageLines page), b.lines ≠ [] := fun b hb =>
    lines_ne_nil (isCanonical_of_mem_ofLines (pageLines page) b hb)
  rw [pageLines, Text.unifyNewlines_of_not_mem (carriageReturn_not_mem_tidy page), tidy,
    fields_ofBlocks hne hlines (newline_not_mem_ofLines page)]

/-- A page without blocks is empty. -/
theorem tidy_of_nil {page : Text} (hnil : Block.ofLines (pageLines page) = []) : tidy page = [] := by
  rw [tidy, hnil]
  rfl

/-- **A page in canonical layout is read as the blocks that it was written from.** -/
theorem ofLines_pageLines_tidy (page : Text) :
    Block.ofLines (pageLines (tidy page)) = Block.ofLines (pageLines page) := by
  by_cases hnil : Block.ofLines (pageLines page) = []
  · rw [tidy_of_nil hnil, hnil]
    show Block.ofLines [[]] = []
    rw [ofLines_blank, Block.ofLines]
  · rw [pageLines_tidy hnil]
    exact ofLines_flatMap (isCanonical_of_mem_ofLines (pageLines page))

/-- **A page that has been laid out is not changed by laying it out once more.** -/
theorem tidy_tidy (page : Text) : tidy (tidy page) = tidy page := by
  rw [tidy, ofLines_pageLines_tidy, tidy]

end ComponentBook.Markdown
