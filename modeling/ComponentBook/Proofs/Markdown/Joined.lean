import ComponentBook.Proofs.Markdown.Elements

/-! # Pages put together

A blank line outside fences ends whatever stands in front of it: the blocks of lines with a blank line
between them are those of the lines in front and those of the lines behind (**`ofLines_append_gap`**), as long
as no fence is open there. So the layout of two pages with blank lines between them is that of each of them
(**`tidy_append`**), unless the first leaves a fence open (**`ClosesFences`**). -/

namespace ComponentBook.Markdown

variable {line : Text} {ls : List Text} {a b page : Text} {blocks more : List Block}

/-! ## Fences that are closed -/

/-- A fence is closed. -/
def Element.IsClosed : Element → Prop
  | .line _ => True
  | .fence _ _ closed => closed = true

instance : DecidablePred Element.IsClosed
  | .line _ => inferInstanceAs (Decidable True)
  | .fence _ _ closed => inferInstanceAs (Decidable (closed = true))

/-- Every fence that a page opens is closed in it. -/
def ClosesFences (page : Text) : Prop := ∀ e ∈ elements page, e.IsClosed

instance : Decidable (ClosesFences page) := inferInstanceAs (Decidable (∀ e ∈ elements page, e.IsClosed))

/-- A blank line at the end closes no fence. -/
theorem isClosed_of_append_gap {inside : Option (Text × List Text)}
    (h : ∀ e ∈ elementsIn inside (ls ++ [[]]), e.IsClosed) : ∀ e ∈ elementsIn inside ls, e.IsClosed := by
  -- along the lines: a fence that is open at their end is open behind the blank line too
  fun_induction elementsIn inside ls with
  | case1 => exact List.forall_mem_nil _
  | case2 opening body => exact absurd (h _ List.mem_cons_self) (by simp [Element.IsClosed])
  | case3 line lines hopens ih =>
    rw [List.cons_append, elementsIn_opening hopens] at h
    exact ih h
  | case4 line lines hopens hblank ih =>
    rw [List.cons_append, elementsIn_blank hblank] at h
    exact ih h
  | case5 line lines hopens hblank ih =>
    have houtside : IsOutside line := ⟨Bool.eq_false_iff.2 hopens, Bool.eq_false_iff.2 hblank⟩
    rw [List.cons_append, elementsIn_cons_outside houtside, List.forall_mem_cons] at h
    exact List.forall_mem_cons.2 ⟨h.1, ih h.2⟩
  | case6 opening body line lines hcloses ih =>
    rw [List.cons_append, elementsIn, if_pos hcloses, List.forall_mem_cons] at h
    exact List.forall_mem_cons.2 ⟨h.1, ih h.2⟩
  | case7 opening body line lines hcloses ih =>
    rw [List.cons_append, elementsIn, if_neg hcloses] at h
    exact ih h

/-! ## Blocks -/

/-- **A blank line outside fences keeps blocks apart.** -/
theorem ofLines_append_gap (h : ∀ e ∈ elementsIn none ls, e.IsClosed) (rest : List Text) :
    Block.ofLines (ls ++ [] :: rest) = Block.ofLines ls ++ Block.ofLines rest := by
  -- along the recursion that reads the blocks; case5 is a fence that stays open, of which there is none
  fun_induction Block.ofLines ls with
  | case1 => exact ofLines_blank rest
  | case2 line ls hkind ih =>
    rw [elementsIn_blank (allBlank_of_kind hkind)] at h
    rw [List.cons_append, ofLines_of_blank hkind, ih h]
  | case3 line ls hkind ih =>
    have houtside : IsOutside line := isOutside_of_kind (by simp [hkind]) (by simp [hkind])
    rw [elementsIn_cons_outside houtside, List.forall_mem_cons] at h
    rw [List.cons_append, ofLines_of_heading hkind, ih h.2, List.cons_append]
  | case4 line ls hkind body after hclosed ih =>
    rw [elementsIn_opening (kind_eq_fence_iff.1 hkind), elementsIn_of_closedFence? hclosed,
      List.forall_mem_cons] at h
    obtain ⟨closing, rfl, hinside, hcloses⟩ := closedFence?_eq_some_iff.1 hclosed
    have hread := closedFence?_append_closing hinside hcloses (after ++ [] :: rest)
    rw [List.cons_append, List.append_assoc, List.cons_append, ofLines_of_closedFence? hkind hread,
      ih h.2, List.cons_append]
  | case5 line ls hkind hopen =>
    rw [elementsIn_opening (kind_eq_fence_iff.1 hkind), elementsIn_of_open hopen] at h
    exact absurd (h _ List.mem_cons_self) (by simp [Element.IsClosed])
  | case6 line ls hkind ih =>
    obtain ⟨htake, hdrop⟩ := span_kind_append (by decide : LineKind.row ≠ .blank) ls rest
    rw [elementsIn_takeWhile (by decide) (by decide) hkind, List.forall_mem_append] at h
    rw [List.cons_append, ofLines_of_row hkind, htake, hdrop, ih h.2, List.cons_append]
  | case7 line ls hkind ih =>
    obtain ⟨htake, hdrop⟩ := span_kind_append (by decide : LineKind.prose ≠ .blank) ls rest
    rw [elementsIn_takeWhile (by decide) (by decide) hkind, List.forall_mem_append] at h
    rw [List.cons_append, ofLines_of_prose hkind, htake, hdrop, ih h.2, List.cons_append]

/-- Blocks that are written behind others stand behind a blank line. -/
theorem ofBlocks_append (hblocks : blocks ≠ []) (hmore : more ≠ []) :
    ofBlocks (blocks ++ more) = ofBlocks blocks ++ '\n' :: ofBlocks more := by
  have htexts : blocks.map (fun b => Text.join ['\n'] b.lines) ≠ [] := by simpa using hblocks
  have hothers : more.map (fun b => Text.join ['\n'] b.lines) ≠ [] := by simpa using hmore
  rw [ofBlocks, ofBlocks, ofBlocks, if_neg (by simp [hblocks]), if_neg (by simpa using hblocks),
    if_neg (by simpa using hmore), List.map_append,
    Text.join_append _ htexts hothers]
  simp only [List.append_assoc, List.cons_append, List.nil_append]

/-! ## Pages -/

/-- The lines of two pages with blank lines between them. A carriage return at the end of the first page is
one line end with the line feed behind it. -/
theorem exists_pageLines_append_gap (a b : Text) :
    ∃ ls, pageLines (a ++ '\n' :: '\n' :: b) = ls ++ [] :: pageLines b ∧
      (pageLines a = ls ∨ pageLines a = ls ++ [[]]) := by
  have hgap (t : Text) : Text.fields '\n' ('\n' :: t) = [] :: Text.fields '\n' t := rfl
  by_cases hlast : a.getLast? = some '\r'
  · obtain ⟨u, rfl⟩ := List.getLast?_eq_some_iff.1 hlast
    refine ⟨Text.fields '\n' (Text.unifyNewlines u), ?_, .inr ?_⟩
    · rw [List.append_assoc, List.singleton_append, pageLines, Text.unifyNewlines_append_pair,
        Text.unifyNewlines_newline, Text.fields_append_cons, hgap]
      rfl
    · rw [pageLines, Text.unifyNewlines_append u ['\r'] fun _ => by simp]
      exact Text.fields_append_cons '\n' (Text.unifyNewlines u) []
  · refine ⟨pageLines a, ?_, .inl rfl⟩
    rw [pageLines_append_newline a _ hlast, pageLines, pageLines, Text.unifyNewlines_newline, hgap]
    rfl

/-- The blocks of two pages with blank lines between them. -/
theorem ofLines_pageLines_append (h : ClosesFences a) (b : Text) :
    Block.ofLines (pageLines (a ++ '\n' :: '\n' :: b)) =
      Block.ofLines (pageLines a) ++ Block.ofLines (pageLines b) := by
  obtain ⟨ls, hpage, hfirst⟩ := exists_pageLines_append_gap a b
  rw [ClosesFences, elements] at h
  rw [hpage]
  rcases hfirst with hfirst | hfirst
  · rw [hfirst] at h ⊢
    exact ofLines_append_gap h _
  · rw [hfirst] at h ⊢
    have hclosed := isClosed_of_append_gap h
    rw [ofLines_append_gap hclosed, ofLines_append_gap hclosed, Block.ofLines, List.append_nil]

/-- **The layout is local.** Two pages with blank lines between them are laid out one by one, when the first
closes its fences and neither is empty then. -/
theorem tidy_append (hclosed : ClosesFences a) (ha : tidy a ≠ []) (hb : tidy b ≠ []) :
    tidy (a ++ '\n' :: '\n' :: b) = tidy a ++ '\n' :: tidy b := by
  have hblocks : ∀ {page : Text}, tidy page ≠ [] → Block.ofLines (pageLines page) ≠ [] :=
    fun hpage hnil => hpage (tidy_of_nil hnil)
  rw [tidy, ofLines_pageLines_append hclosed, ofBlocks_append (hblocks ha) (hblocks hb), tidy, tidy]

/-- A page with a row that lacks its pipe, a closed fence and a carriage return at its end. -/
def fencedRows : Text := "| a\r\n```\n\n# x\n````\r".toList

/-- A page that starts with blank lines and leaves a fence open. -/
def openFence : Text := "\n \r\n## B\n| b |\nc\n``` d\n  e\n\n".toList

/-- Two pages of which only the second leaves a fence open. -/
theorem tidy_append_fencedRows_openFence :
    ClosesFences fencedRows ∧ tidy fencedRows ≠ [] ∧ tidy openFence ≠ [] ∧
      tidy (fencedRows ++ '\n' :: '\n' :: openFence) = tidy fencedRows ++ '\n' :: tidy openFence := by
  have hclosed : ClosesFences fencedRows := by decide
  have hfirst : tidy fencedRows ≠ [] := fun hnil => absurd (tidy_eq_nil_iff.1 hnil) (by decide)
  have hsecond : tidy openFence ≠ [] := fun hnil => absurd (tidy_eq_nil_iff.1 hnil) (by decide)
  exact ⟨hclosed, hfirst, hsecond, tidy_append hclosed hfirst hsecond⟩

end ComponentBook.Markdown
