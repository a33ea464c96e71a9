import ComponentBook.Proofs.Markdown.PlacedLines

/-! # What a page holds

Read line by line, a page holds filled lines and fences (**`elements`**). The layout keeps every one of
them, in the same order, and adds none: a row that lacks a pipe at its end is given one, and a fence that
stays open is closed behind its last filled line (**`Element.laid`**, **`elements_tidy`**). The reading
does not know blocks; those of a page hold the same (`map_laid_elementsIn`), and written blocks are read
back with what they hold (`elementsIn_lines`). -/

namespace ComponentBook.Markdown

variable {line opening : Text} {body front after ls rest : List Text} {b : Block} {blocks : List Block}

/-! ## Reading a page -/

/-- A part of a page. -/
inductive Element where
  /-- A filled line outside fences, without the blanks at its ends. -/
  | line (text : Text)
  /-- A fence: the line that opens it, without the blanks at its ends, the lines inside it as they are, and
  whether there is a line that closes it. -/
  | fence (opening : Text) (body : List Text) (closed : Bool)
  deriving DecidableEq, Repr

/-- The elements among lines. If a fence is open in front of the lines, `inside` is the line that opened it
with the lines that have been read since. -/
def elementsIn : (inside : Option (Text × List Text)) → List Text → List Element
  | none, [] => []
  | some (opening, body), [] => [.fence opening body false]
  | none, line :: lines =>
    if opensFence line then elementsIn (some (line.strip, [])) lines
    else if line.allBlank then elementsIn none lines
    else .line line.strip :: elementsIn none lines
  | some (opening, body), line :: lines =>
    if closesFence line then .fence opening body true :: elementsIn none lines
    else elementsIn (some (opening, body ++ [line])) lines

/-- The elements of a page. -/
def elements (page : Text) : List Element := elementsIn none (pageLines page)

instance : Decidable (EndsInPipe line) := inferInstanceAs (Decidable (_ ∧ _))

/-- A row that lacks a pipe at its end is given one; any other line stays as it is. -/
def withPipe (line : Text) : Text :=
  if line.head? = some '|' ∧ ¬ EndsInPipe line then line ++ [' ', '|'] else line

/-- What the layout makes of an element: a fence that is open to the end of the page loses the blank lines
there and is closed. -/
def Element.laid : Element → Element
  | .line text => .line (withPipe text)
  | .fence opening body true => .fence opening body true
  | .fence opening body false => .fence opening (body.rdropWhile Text.allBlank) true

/-! ## Lines outside fences and inside -/

/-- A filled line that opens no fence. -/
def IsOutside (line : Text) : Prop := opensFence line = false ∧ line.allBlank = false

theorem elementsIn_cons_outside (h : IsOutside line) :
    elementsIn none (line :: ls) = .line line.strip :: elementsIn none ls := by
  rw [elementsIn, h.1, h.2, if_neg Bool.false_ne_true, if_neg Bool.false_ne_true]

theorem elementsIn_append_outside (h : ∀ l ∈ ls, IsOutside l) (rest : List Text) :
    elementsIn none (ls ++ rest) = ls.map (fun l => .line l.strip) ++ elementsIn none rest := by
  induction ls with
  | nil => rfl
  | cons l ls ih =>
    obtain ⟨hl, hls⟩ := List.forall_mem_cons.1 h
    rw [List.cons_append, elementsIn_cons_outside hl, ih hls, List.map_cons, List.cons_append]

/-- Lines that do not close a fence are lines inside it. -/
theorem elementsIn_append_inside (h : ∀ l ∈ body, closesFence l = false) (front rest : List Text) :
    elementsIn (some (opening, front)) (body ++ rest) =
      elementsIn (some (opening, front ++ body)) rest := by
  induction body generalizing front with
  | nil => rw [List.nil_append, List.append_nil]
  | cons l body ih =>
    obtain ⟨hl, hbody⟩ := List.forall_mem_cons.1 h
    rw [List.cons_append, elementsIn, hl, if_neg Bool.false_ne_true, ih hbody, List.append_assoc,
      List.singleton_append]

theorem elementsIn_blank (h : line.allBlank = true) :
    elementsIn none (line :: ls) = elementsIn none ls := by
  have hfence : opensFence line = false := by
    rw [opensFence, Text.strip_eq_nil_iff.2 h]
    rfl
  rw [elementsIn, hfence, h, if_neg Bool.false_ne_true, if_pos rfl]

theorem elementsIn_opening (h : opensFence line = true) :
    elementsIn none (line :: ls) = elementsIn (some (line.strip, [])) ls := by
  rw [elementsIn, if_pos h]

/-- A fence that is closed is read as a whole. -/
theorem elementsIn_of_closedFence? (h : closedFence? ls = some (body, after)) :
    elementsIn (some (opening, [])) ls = .fence opening body true :: elementsIn none after := by
  obtain ⟨closing, rfl, hinside, hcloses⟩ := closedFence?_eq_some_iff.1 h
  rw [elementsIn_append_inside hinside, elementsIn, if_pos hcloses, List.nil_append]

/-- A fence that nothing closes goes on to the end. -/
theorem elementsIn_of_open (h : closedFence? ls = none) :
    elementsIn (some (opening, [])) ls = [.fence opening ls false] := by
  have hinside : elementsIn (some (opening, [])) (ls ++ []) = elementsIn (some (opening, [] ++ ls)) [] :=
    elementsIn_append_inside (closesFence_of_closedFence?_none h) [] []
  rwa [List.append_nil] at hinside

/-! ## The elements of blocks -/

/-- What a block holds. -/
def Block.elements : Block → List Element
  | .heading line => [.line line]
  | .fence opening body => [.fence opening body true]
  | .table rows => rows.map .line
  | .paragraph lines => lines.map fun l => .line l.strip

theorem isOutside_of_kind (hfence : LineKind.of line ≠ .fence) (hblank : LineKind.of line ≠ .blank) :
    IsOutside line :=
  ⟨not_opensFence_of_kind hfence, not_blank_of_kind hblank⟩

theorem allBlank_of_kind (h : LineKind.of line = .blank) : line.allBlank = true := by
  rw [LineKind.of] at h
  split at h
  · cases h
  · split at h
    · next hstrip => exact Text.strip_eq_nil_iff.1 hstrip
    · split at h
      · cases h
      · split at h <;> cases h

theorem kind_of_mem_takeWhile {kind : LineKind} (hline : LineKind.of line = kind) (rest : List Text) :
    ∀ l ∈ line :: rest.takeWhile (fun l => LineKind.of l = kind), LineKind.of l = kind := by
  rw [List.forall_mem_cons]
  refine ⟨hline, fun l hl => ?_⟩
  have htaken := List.mem_takeWhile_imp hl
  exact of_decide_eq_true htaken

/-- Lines of one kind in a row, when they are neither blank nor fences, and what stands behind them. -/
theorem elementsIn_takeWhile {kind : LineKind} (hfence : kind ≠ .fence) (hblank : kind ≠ .blank)
    (hline : LineKind.of line = kind) (rest : List Text) :
    elementsIn none (line :: rest) =
      (line :: rest.takeWhile fun l => LineKind.of l = kind).map (fun l => .line l.strip) ++
        elementsIn none (rest.dropWhile fun l => LineKind.of l = kind) := by
  have houtside : ∀ l ∈ line :: rest.takeWhile (fun l => LineKind.of l = kind), IsOutside l := by
    intro l hl
    have hkind := kind_of_mem_takeWhile hline rest l hl
    exact isOutside_of_kind (hkind ▸ hfence) (hkind ▸ hblank)
  rw [← elementsIn_append_outside houtside, List.cons_append, List.takeWhile_append_dropWhile]

theorem withPipe_of_head? (h : line.head? ≠ some '|') : withPipe line = line := by
  rw [withPipe, if_neg fun hrow => h hrow.1]

/-- The pipe that a row lacks is the one that the layout gives it. -/
theorem withPipe_of_row (h : LineKind.of line = .row) : withPipe line.strip = closeRow line.strip := by
  have hhead := head?_strip_of_row h
  rw [withPipe, closeRow]
  congr 1
  simp only [hhead, true_and, EndsInPipe, Bool.or_eq_true, Bool.not_eq_true', Text.endsWith_eq_true_iff,
    ← Bool.not_eq_true, eq_iff_iff]
  tauto

theorem withPipe_of_not_row (h : LineKind.of line ≠ .row) : withPipe line.strip = line.strip :=
  withPipe_of_head? fun hhead => h (kind_of_head?_strip hhead)

/-- **The blocks of a page hold what its lines hold**, once it is laid out. -/
theorem map_laid_elementsIn (ls : List Text) :
    (elementsIn none ls).map Element.laid = (Block.ofLines ls).flatMap Block.elements := by
  -- along the recursion that reads the blocks; case5 is a fence that stays open to the end of the page
  fun_induction Block.ofLines ls with
  | case1 => rfl
  | case2 line rest hkind ih => rw [elementsIn_blank (allBlank_of_kind hkind), ih]
  | case3 line rest hkind ih =>
    have houtside : IsOutside line := isOutside_of_kind (by simp [hkind]) (by simp [hkind])
    have hrow : LineKind.of line ≠ .row := by simp [hkind]
    rw [elementsIn_cons_outside houtside, List.map_cons, ih, List.flatMap_cons, Element.laid,
      withPipe_of_not_row hrow]
    rfl
  | case4 line rest hkind body after hclosed ih =>
    rw [elementsIn_opening (kind_eq_fence_iff.1 hkind), elementsIn_of_closedFence? hclosed, List.map_cons,
      ih, List.flatMap_cons]
    rfl
  | case5 line rest hkind hopen =>
    rw [elementsIn_opening (kind_eq_fence_iff.1 hkind), elementsIn_of_open hopen, List.flatMap_singleton]
    rfl
  | case6 line rest hkind ih =>
    rw [elementsIn_takeWhile (by decide) (by decide) hkind, List.map_append, ih, List.flatMap_cons,
      Block.elements, List.map_map, List.map_map]
    congr 1
    apply List.map_congr_left
    intro l hl
    exact congrArg Element.line (withPipe_of_row (kind_of_mem_takeWhile hkind rest l hl))
  | case7 line rest hkind ih =>
    rw [elementsIn_takeWhile (by decide) (by decide) hkind, List.map_append, ih, List.flatMap_cons,
      Block.elements, List.map_map, List.map_map]
    congr 1
    apply List.map_congr_left
    intro l hl
    have hrow : LineKind.of l ≠ .row := by simp [kind_of_mem_takeWhile hkind rest l hl]
    -- what is stripped on the right only is stripped on both sides when it is read
    exact congrArg Element.line ((withPipe_of_not_row hrow).trans (Text.strip_stripRight l).symm)

/-- **Written blocks are read with what they hold**, when a blank line stands behind them. -/
theorem elementsIn_lines (hb : b.IsCanonical) (rest : List Text) :
    elementsIn none (b.lines ++ [] :: rest) = b.elements ++ elementsIn none rest := by
  have hgap : elementsIn none ([] :: rest) = elementsIn none rest := elementsIn_blank rfl
  cases hb with
  | @heading line hstrip hkind =>
    have houtside : IsOutside line := isOutside_of_kind (by simp [hkind]) (by simp [hkind])
    rw [Block.lines, List.singleton_append, elementsIn_cons_outside houtside, hgap, hstrip]
    rfl
  | @fence opening body hstrip hkind hinside =>
    have hclosed := closedFence?_append hinside ([] :: rest)
    rw [Block.lines, List.append_assoc, List.cons_append, List.singleton_append,
      elementsIn_opening (kind_eq_fence_iff.1 hkind), elementsIn_of_closedFence? hclosed, hgap, hstrip]
    rfl
  | @table row rows hclosed =>
    have houtside : ∀ r ∈ row :: rows, IsOutside r := fun r hr =>
      isOutside_of_kind (by simp [(hclosed r hr).kind]) (by simp [(hclosed r hr).kind])
    rw [Block.lines, elementsIn_append_outside houtside, hgap, Block.elements]
    congr 1
    apply List.map_congr_left
    intro r hr
    rw [(hclosed r hr).strip_eq]
  | @paragraph line lines hprose =>
    have houtside : ∀ l ∈ line :: lines, IsOutside l := fun l hl =>
      isOutside_of_kind (by simp [(hprose l hl).1]) (by simp [(hprose l hl).1])
    rw [Block.lines, elementsIn_append_outside houtside, hgap, Block.elements]

theorem elementsIn_flatMap (h : ∀ b ∈ blocks, b.IsCanonical) :
    elementsIn none (blocks.flatMap fun b => b.lines ++ [[]]) = blocks.flatMap Block.elements := by
  induction blocks with
  | nil => rfl
  | cons b blocks ih =>
    obtain ⟨hb, hblocks⟩ := List.forall_mem_cons.1 h
    rw [List.flatMap_cons, List.flatMap_cons, List.append_assoc, List.singleton_append,
      elementsIn_lines hb, ih hblocks]

theorem elements_ne_nil (hb : b.IsCanonical) : b.elements ≠ [] := by
  cases hb <;> simp [Block.elements]

/-! ## Pages -/

/-- A page is empty once it is laid out when it holds nothing. -/
theorem tidy_eq_nil_iff {page : Text} : tidy page = [] ↔ elements page = [] := by
  have hblocks : elements page = [] ↔ Block.ofLines (pageLines page) = [] := by
    rw [← List.map_eq_nil_iff (f := Element.laid), elements, map_laid_elementsIn, List.flatMap_eq_nil_iff]
    constructor
    · intro hnone
      -- a block that were there would hold something
      refine List.eq_nil_iff_forall_not_mem.2 fun b hb => ?_
      exact elements_ne_nil (isCanonical_of_mem_ofLines _ b hb) (hnone b hb)
    · intro hnil b hb
      rw [hnil] at hb
      cases hb
  rw [hblocks]
  refine ⟨fun htidy => ?_, tidy_of_nil⟩
  by_contra hne
  rw [tidy, ofBlocks, if_neg (by simpa using hne)] at htidy
  exact absurd htidy (by simp)

/-- **The layout loses nothing and invents nothing.** What a page holds once it is laid out is what it
held before: the same filled lines outside fences and the same fences, in the same order. A line is the
same apart from the blanks at its ends and from the pipe that a row may have lacked; a fence has the same
opening line, apart from blanks, and the same lines inside it, less the blank lines at the end of the page if
nothing closes it. -/
theorem elements_tidy (page : Text) : elements (tidy page) = (elements page).map Element.laid := by
  have hcanonical := isCanonical_of_mem_ofLines (pageLines page)
  rw [elements, elements, map_laid_elementsIn]
  by_cases hnil : Block.ofLines (pageLines page) = []
  · rw [tidy_of_nil hnil, hnil]
    rfl
  · rw [pageLines_tidy hnil, elementsIn_flatMap hcanonical]

end ComponentBook.Markdown
