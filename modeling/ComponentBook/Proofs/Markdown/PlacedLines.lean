import ComponentBook.Proofs.Markdown.Fences
import ComponentBook.Proofs.Text.Search
import Mathlib.Data.List.Chain

/-! # The lines of a page in canonical layout

Reading a page line by line tells of every line whether it stands outside fences, opens one, is inside one
or closes it (**`placed`**). **`IsLaidOut`** says of the lines that are read so what a canonical layout is,
without a word about blocks: which lines may stand next to each other (**`Adjacent`**), how a page starts
and ends, how fences are closed and how rows end. Each block of a page is laid out by itself
(**`isLaidOut_placed`**), two layouts with a blank line between them are one (**`IsLaidOut.append_gap`**), and
so a page in canonical layout is empty or laid out (**`isLaidOut_tidy`**). -/

namespace ComponentBook.Markdown

variable {line : Text} {ls : List Text} {b : Block} {blocks : List Block}

/-! ## Places -/

/-- Where a line of a page stands. -/
inductive Place where
  /-- Outside fences. -/
  | outside
  /-- It opens a fence. -/
  | opening
  /-- Inside a fence. -/
  | inside
  /-- It closes a fence. -/
  | closing
  deriving DecidableEq, Repr

/-- A line of a page and where it stands. -/
structure PlacedLine where
  place : Place
  text : Text
  deriving DecidableEq, Repr

/-- The lines of a page with their places, a fence being open in front of them or not. -/
def placed : (inFence : Bool) → List Text → List PlacedLine
  | _, [] => []
  | false, line :: lines =>
    if opensFence line then ⟨.opening, line⟩ :: placed true lines
    else ⟨.outside, line⟩ :: placed false lines
  | true, line :: lines =>
    if closesFence line then ⟨.closing, line⟩ :: placed false lines
    else ⟨.inside, line⟩ :: placed true lines

namespace PlacedLine

variable (l : PlacedLine)

/-- A blank line outside fences. -/
def IsGap : Prop := l.place = .outside ∧ l.text.allBlank = true

/-- A line outside fences that starts with a number sign. -/
def IsHeading : Prop := l.place = .outside ∧ l.text.head? = some '#'

/-- A line outside fences that starts with a pipe. -/
def IsRow : Prop := l.place = .outside ∧ l.text.head? = some '|'

/-- The line between two blocks. -/
def gap : PlacedLine := ⟨.outside, []⟩

end PlacedLine

/-- A pipe stands at the end of a row, and no backslash in front of it. -/
def EndsInPipe (row : Text) : Prop := ['|'] <:+ row ∧ ¬ ['\\', '|'] <:+ row

/-- Two lines that may follow each other. -/
structure Adjacent (a b : PlacedLine) : Prop where
  /-- There are no two blank lines in a row. -/
  gaps : ¬ (a.IsGap ∧ b.IsGap)
  /-- In front of a heading there is a blank line. -/
  heading_above : b.IsHeading → a.IsGap
  /-- Behind a heading there is a blank line. -/
  heading_below : a.IsHeading → b.IsGap
  /-- In front of a fence there is a blank line. -/
  fence_above : b.place = .opening → a.IsGap
  /-- Behind a fence there is a blank line. -/
  fence_below : a.place = .closing → b.IsGap
  /-- In front of a row there is another one or a blank line. -/
  row_above : b.IsRow → a.IsRow ∨ a.IsGap
  /-- Behind a row there is another one or a blank line. -/
  row_below : a.IsRow → b.IsRow ∨ b.IsGap

/-- Lines of a page in canonical layout. -/
structure IsLaidOut (ls : List PlacedLine) : Prop where
  /-- The page does not start with a blank line. -/
  first : ∃ l, ls.head? = some l ∧ ¬ l.IsGap
  /-- The page ends with a line that is not blank, and no fence is open there. -/
  last : ∃ l, ls.getLast? = some l ∧ l.text.allBlank = false ∧
    (l.place = .outside ∨ l.place = .closing)
  /-- Neighbours may follow each other. -/
  adjacent : ls.IsChain Adjacent
  /-- Fences are closed by three backquotes and nothing else. -/
  closing_eq : ∀ l ∈ ls, l.place = .closing → l.text = fence
  /-- Rows end in a pipe. -/
  row_ends : ∀ l ∈ ls, l.IsRow → EndsInPipe l.text

/-! ## Blank lines between blocks -/

theorem isGap_gap : PlacedLine.gap.IsGap := ⟨rfl, rfl⟩

/-- A blank line may follow any other line. -/
theorem adjacent_gap {l : PlacedLine} (h : ¬ l.IsGap) : Adjacent l .gap where
  gaps := fun hgaps => h hgaps.1
  heading_above := fun hheading => by cases hheading.2
  heading_below := fun _ => isGap_gap
  fence_above := fun hopening => by cases hopening
  fence_below := fun _ => isGap_gap
  row_above := fun hrow => by cases hrow.2
  row_below := fun _ => .inr isGap_gap

/-- Any other line may follow a blank line. -/
theorem gap_adjacent {l : PlacedLine} (h : ¬ l.IsGap) : Adjacent .gap l where
  gaps := fun hgaps => h hgaps.2
  heading_above := fun _ => isGap_gap
  heading_below := fun hheading => by cases hheading.2
  fence_above := fun _ => isGap_gap
  fence_below := fun hclosing => by cases hclosing
  row_above := fun _ => .inr isGap_gap
  row_below := fun hrow => by cases hrow.2

/-- **Two layouts with a blank line between them are one.** -/
theorem IsLaidOut.append_gap {as bs : List PlacedLine} (ha : IsLaidOut as) (hb : IsLaidOut bs) :
    IsLaidOut (as ++ .gap :: bs) := by
  obtain ⟨first, hfirst, hfilled⟩ := ha.first
  obtain ⟨next, hnext, hnextFilled⟩ := hb.first
  obtain ⟨last, hlast, hlastFilled, hlastPlace⟩ := hb.last
  -- the lines on the two sides of the blank line
  obtain ⟨before, hbefore, hbeforeFilled, -⟩ := ha.last
  have hbeforeGap : ¬ before.IsGap := by
    intro hgap
    rw [hgap.2] at hbeforeFilled
    cases hbeforeFilled
  refine ⟨⟨first, ?_, hfilled⟩, ⟨last, ?_, hlastFilled, hlastPlace⟩, ?_, ?_, ?_⟩
  · rw [List.head?_append, hfirst]
    rfl
  · rw [List.getLast?_append, List.getLast?_cons, hlast]
    rfl
  · refine ha.adjacent.append (List.isChain_cons.2 ⟨?_, hb.adjacent⟩) ?_
    · intro l hl
      obtain rfl : next = l := Option.some.inj (hnext.symm.trans hl)
      exact gap_adjacent hnextFilled
    · intro l hl k hk
      obtain rfl : before = l := Option.some.inj (hbefore.symm.trans hl)
      obtain rfl : PlacedLine.gap = k := Option.some.inj hk
      exact adjacent_gap hbeforeGap
  · intro l hl hclosing
    rcases List.mem_append.1 hl with hl | hl
    · exact ha.closing_eq l hl hclosing
    · rcases List.mem_cons.1 hl with rfl | hl
      · cases hclosing
      · exact hb.closing_eq l hl hclosing
  · intro l hl hrow
    rcases List.mem_append.1 hl with hl | hl
    · exact ha.row_ends l hl hrow
    · rcases List.mem_cons.1 hl with rfl | hl
      · cases hrow.2
      · exact hb.row_ends l hl hrow

/-! ## The lines of a block -/

/-- The lines of a block with their places. -/
def Block.placed : Block → List PlacedLine
  | .heading line => [⟨.outside, line⟩]
  | .fence opening body =>
    ⟨.opening, opening⟩ :: (body.map (PlacedLine.mk .inside) ++ [⟨.closing, Markdown.fence⟩])
  | .table rows => rows.map (PlacedLine.mk .outside)
  | .paragraph lines => lines.map (PlacedLine.mk .outside)

theorem placed_append_outside (h : ∀ l ∈ ls, opensFence l = false) (rest : List Text) :
    placed false (ls ++ rest) = ls.map (PlacedLine.mk .outside) ++ placed false rest := by
  induction ls with
  | nil => rfl
  | cons l ls ih =>
    obtain ⟨hl, hls⟩ := List.forall_mem_cons.1 h
    rw [List.cons_append, placed, hl, if_neg Bool.false_ne_true, ih hls, List.map_cons, List.cons_append]

theorem placed_append_inside (h : ∀ l ∈ ls, closesFence l = false) (rest : List Text) :
    placed true (ls ++ rest) = ls.map (PlacedLine.mk .inside) ++ placed true rest := by
  induction ls with
  | nil => rfl
  | cons l ls ih =>
    obtain ⟨hl, hls⟩ := List.forall_mem_cons.1 h
    rw [List.cons_append, placed, hl, if_neg Bool.false_ne_true, ih hls, List.map_cons, List.cons_append]

/-- The lines of a block are read as such, whatever follows. -/
theorem placed_lines_append (hb : b.IsCanonical) (rest : List Text) :
    placed false (b.lines ++ rest) = b.placed ++ placed false rest := by
  cases hb with
  | heading _ hkind =>
    exact placed_append_outside (List.forall_mem_singleton.2 (not_opensFence_of_kind (by simp [hkind]))) rest
  | @fence opening body _ hkind hinside =>
    have hclosing : placed true (fence :: rest) = ⟨.closing, fence⟩ :: placed false rest := rfl
    rw [Block.lines, List.cons_append, List.cons_append, placed, if_pos (kind_eq_fence_iff.1 hkind),
      List.append_assoc, placed_append_inside hinside, List.singleton_append, hclosing, Block.placed]
    simp
  | table hclosed =>
    exact placed_append_outside (fun l hl => not_opensFence_of_kind (by simp [(hclosed l hl).kind])) rest
  | paragraph hprose =>
    exact placed_append_outside (fun l hl => not_opensFence_of_kind (by simp [(hprose l hl).1])) rest

/-! ## Lines that have been laid out -/

theorem not_blank_of_kind (h : LineKind.of line ≠ .blank) : line.allBlank = false := by
  rw [Bool.eq_false_iff]
  intro hblank
  apply h
  rw [LineKind.of, opensFence, Text.strip_eq_nil_iff.2 hblank]
  rfl

/-- A character at the start of a line that is not blank is not stripped. -/
theorem head?_strip {c : Char} (h : line.head? = some c) (hc : Text.isBlank c = false) :
    line.strip.head? = some c := by
  obtain ⟨rest, rfl⟩ := List.head?_eq_some_iff.1 h
  have hleft : Text.stripLeft (c :: rest) = [c] ++ rest := Text.stripLeft_eq_self (by simpa using hc)
  rw [Text.strip, hleft, Text.stripRight_append_eq (by simpa using hc)]
  rfl

/-- What starts with a number sign is a heading. -/
theorem kind_of_numberSign (h : line.head? = some '#') : LineKind.of line = .heading := by
  obtain ⟨rest, hrest⟩ := List.head?_eq_some_iff.1 (head?_strip h (by decide))
  rw [LineKind.of, opensFence, hrest]
  rfl

/-- What starts with a pipe is a row. -/
theorem kind_of_pipe (h : line.head? = some '|') : LineKind.of line = .row :=
  kind_of_head?_strip (head?_strip h (by decide))

theorem IsClosedRow.head? (h : IsClosedRow line) : line.head? = some '|' := by
  rw [← h.strip_eq]
  exact head?_strip_of_row h.kind

/-- A closed row ends in its pipe. -/
theorem IsClosedRow.endsInPipe (h : IsClosedRow line) : EndsInPipe line := by
  have hclosed := h.closed
  rw [closeRow] at hclosed
  split at hclosed
  · -- a row that is not closed gets longer
    exact absurd (congrArg List.length hclosed) (by simp)
  · next hends =>
    simp only [Bool.or_eq_true, Bool.not_eq_true', not_or, Bool.not_eq_false, Text.endsWith_eq_true_iff]
      at hends
    exact hends

/-- Lines outside fences follow each other when they are neither blank nor headings and both are rows or
neither is. -/
theorem adjacent_outside {a b : Text} (ha : LineKind.of a = .row ∨ LineKind.of a = .prose)
    (hb : LineKind.of b = .row ∨ LineKind.of b = .prose) (h : a.head? = some '|' ↔ b.head? = some '|') :
    Adjacent ⟨.outside, a⟩ ⟨.outside, b⟩ where
  gaps := fun hgaps => by
    have hfilled : a.allBlank = false := not_blank_of_kind (by rcases ha with ha | ha <;> simp [ha])
    exact absurd hgaps.1.2 (by simp [hfilled])
  heading_above := fun hheading => by
    have hkind := kind_of_numberSign hheading.2
    rcases hb with hb | hb <;> cases hb.symm.trans hkind
  heading_below := fun hheading => by
    have hkind := kind_of_numberSign hheading.2
    rcases ha with ha | ha <;> cases ha.symm.trans hkind
  fence_above := fun hopening => by cases hopening
  fence_below := fun hclosing => by cases hclosing
  row_above := fun hrow => .inl ⟨rfl, h.2 hrow.2⟩
  row_below := fun hrow => .inl ⟨rfl, h.1 hrow.2⟩

/-- Nothing is asked of neighbours within a fence. -/
theorem adjacent_fence {a b : PlacedLine} (ha : a.place = .opening ∨ a.place = .inside)
    (hb : b.place = .inside ∨ b.place = .closing) : Adjacent a b where
  gaps := fun hgaps => by rcases ha with ha | ha <;> cases ha.symm.trans hgaps.1.1
  heading_above := fun hheading => by rcases hb with hb | hb <;> cases hb.symm.trans hheading.1
  heading_below := fun hheading => by rcases ha with ha | ha <;> cases ha.symm.trans hheading.1
  fence_above := fun hopening => by rcases hb with hb | hb <;> cases hb.symm.trans hopening
  fence_below := fun hclosing => by rcases ha with ha | ha <;> cases ha.symm.trans hclosing
  row_above := fun hrow => by rcases hb with hb | hb <;> cases hb.symm.trans hrow.1
  row_below := fun hrow => by rcases ha with ha | ha <;> cases ha.symm.trans hrow.1

/-- Lines outside fences that may follow each other, none of them blank, are a layout. -/
theorem isLaidOut_outside (hfilled : ∀ l ∈ line :: ls, l.allBlank = false)
    (hrows : ∀ l ∈ line :: ls, l.head? = some '|' → EndsInPipe l)
    (hadjacent : ((line :: ls).map (PlacedLine.mk .outside)).IsChain Adjacent) :
    IsLaidOut ((line :: ls).map (PlacedLine.mk .outside)) := by
  refine ⟨?_, ?_, hadjacent, ?_, ?_⟩
  · refine ⟨⟨.outside, line⟩, rfl, fun hgap => ?_⟩
    exact absurd hgap.2 (by simp [hfilled line List.mem_cons_self])
  · refine ⟨⟨.outside, (line :: ls).getLast (by simp)⟩, ?_, hfilled _ (List.getLast_mem _), .inl rfl⟩
    rw [List.getLast?_map, List.getLast?_eq_some_getLast (by simp)]
    rfl
  · rw [List.forall_mem_map]
    intro l _ hclosing
    cases hclosing
  · rw [List.forall_mem_map]
    intro l hl hrow
    exact hrows l hl hrow.2

/-- All lines may follow each other. -/
theorem isChain_outside (h : ∀ a ∈ ls, ∀ b ∈ ls, Adjacent ⟨.outside, a⟩ ⟨.outside, b⟩) :
    (ls.map (PlacedLine.mk .outside)).IsChain Adjacent := by
  apply List.Pairwise.isChain
  rw [List.pairwise_map]
  exact List.pairwise_of_forall_mem_list h

/-- The lines of a fence behind one that is not its last. -/
theorem isChain_fence (body : List Text) {l : PlacedLine} (hl : l.place = .opening ∨ l.place = .inside) :
    (l :: (body.map (PlacedLine.mk .inside) ++ [⟨.closing, fence⟩])).IsChain Adjacent := by
  induction body generalizing l with
  | nil => exact List.isChain_cons_cons.2 ⟨adjacent_fence hl (.inr rfl), .singleton _⟩
  | cons line body ih =>
    exact List.isChain_cons_cons.2 ⟨adjacent_fence hl (.inl rfl), ih (.inr rfl)⟩

/-- A fence is laid out by itself, whatever stands in it. -/
theorem isLaidOut_fence (opening : Text) (body : List Text) : IsLaidOut (Block.fence opening body).placed := by
  have hplaces : ∀ l ∈ (Block.fence opening body).placed,
      l = ⟨.opening, opening⟩ ∨ l.place = .inside ∨ l = ⟨.closing, fence⟩ := by
    intro l hl
    rw [Block.placed, List.mem_cons, List.mem_append, List.mem_map, List.mem_singleton] at hl
    rcases hl with hl | ⟨_, _, rfl⟩ | hl
    · exact .inl hl
    · exact .inr (.inl rfl)
    · exact .inr (.inr hl)
  refine ⟨⟨⟨.opening, opening⟩, rfl, fun hgap => by cases hgap.1⟩,
    ⟨⟨.closing, fence⟩, ?_, by decide, .inr rfl⟩, isChain_fence body (.inl rfl), ?_, ?_⟩
  · rw [Block.placed, ← List.cons_append, List.getLast?_concat]
  · intro l hl hclosing
    rcases hplaces l hl with rfl | hinside | rfl
    · cases hclosing
    · cases hclosing.symm.trans hinside
    · rfl
  · intro l hl hrow
    rcases hplaces l hl with rfl | hinside | rfl
    · cases hrow.1
    · cases hrow.1.symm.trans hinside
    · cases hrow.1

/-- **A block is laid out by itself.** -/
theorem isLaidOut_placed (hb : b.IsCanonical) : IsLaidOut b.placed := by
  cases hb with
  | @heading line _ hkind =>
    show IsLaidOut ([line].map (PlacedLine.mk .outside))
    apply isLaidOut_outside
    · exact List.forall_mem_singleton.2 (not_blank_of_kind (by simp [hkind]))
    · rw [List.forall_mem_singleton]
      intro hpipe
      cases hkind.symm.trans (kind_of_pipe hpipe)
    · exact .singleton _
  | @fence opening body _ _ _ => exact isLaidOut_fence opening body
  | @table row rows hclosed =>
    apply isLaidOut_outside
    · exact fun l hl => not_blank_of_kind (by simp [(hclosed l hl).kind])
    · exact fun l hl _ => (hclosed l hl).endsInPipe
    · apply isChain_outside
      intro a ha b hb
      exact adjacent_outside (.inl (hclosed a ha).kind) (.inl (hclosed b hb).kind)
        (iff_of_true (hclosed a ha).head? (hclosed b hb).head?)
  | @paragraph line lines hprose =>
    have hpipe : ∀ l ∈ line :: lines, l.head? ≠ some '|' := by
      intro l hl hpipe
      cases (hprose l hl).1.symm.trans (kind_of_pipe hpipe)
    apply isLaidOut_outside
    · exact fun l hl => not_blank_of_kind (by simp [(hprose l hl).1])
    · exact fun l hl h => absurd h (hpipe l hl)
    · apply isChain_outside
      intro a ha b hb
      exact adjacent_outside (.inr (hprose a ha).1) (.inr (hprose b hb).1)
        (iff_of_false (hpipe a ha) (hpipe b hb))

/-! ## Pages -/

/-- The lines of one or more blocks with a blank line behind each of them are laid out, but for the last
blank line. -/
theorem exists_isLaidOut (hne : blocks ≠ []) (h : ∀ b ∈ blocks, b.IsCanonical) :
    ∃ lines, (blocks.flatMap fun b => b.lines ++ [[]]) = lines ++ [[]] ∧
      IsLaidOut (placed false lines) := by
  induction blocks with
  | nil => exact absurd rfl hne
  | cons b blocks ih =>
    obtain ⟨hb, hblocks⟩ := List.forall_mem_cons.1 h
    have hplaced := placed_lines_append hb
    cases blocks with
    | nil =>
      -- the last block has the blank line that is left out behind it
      refine ⟨b.lines, by simp, ?_⟩
      have hblock := hplaced []
      rw [List.append_nil, placed, List.append_nil] at hblock
      rw [hblock]
      exact isLaidOut_placed hb
    | cons c blocks =>
      obtain ⟨lines, hlines, hlaid⟩ := ih (List.cons_ne_nil c blocks) hblocks
      refine ⟨b.lines ++ [] :: lines, ?_, ?_⟩
      · rw [List.flatMap_cons, hlines]
        simp
      · have hgap : placed false ([] :: lines) = .gap :: placed false lines := rfl
        rw [hplaced, hgap]
        exact (isLaidOut_placed hb).append_gap hlaid

/-- **The layout of a page.** A page that has been laid out is empty, or it ends with a line feed and its
lines are in canonical layout. -/
theorem isLaidOut_tidy (page : Text) : tidy page = [] ∨
    ∃ lines, Text.fields '\n' (tidy page) = lines ++ [[]] ∧ IsLaidOut (placed false lines) := by
  have hcanonical := isCanonical_of_mem_ofLines (pageLines page)
  by_cases hnil : Block.ofLines (pageLines page) = []
  · left
    rw [tidy, hnil]
    rfl
  · right
    have hbreak := newline_not_mem_ofLines page
    obtain ⟨lines, hlines, hlaid⟩ := exists_isLaidOut hnil hcanonical
    refine ⟨lines, ?_, hlaid⟩
    rw [tidy, fields_ofBlocks hnil (fun b hb => lines_ne_nil (hcanonical b hb)) hbreak, hlines]

end ComponentBook.Markdown
