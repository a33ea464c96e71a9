import ComponentBook.Proofs.Markdown.Canonical

/-! # Section headings and fences

A page is read for the headings of its sections and for the texts inside its fences
(**`sectionHeadings`**, **`fenceTexts`**). Line by line the reading depends on no more than whether a fence
is open (`headingsIn`, `bodiesIn`). A page that is written as a sequence of headings, code in fences and
lines of prose (**`Piece`**) is read as it was written exactly when its prose is quiet: no line of it opens
a fence or a section (**`reads_pieces_iff`**). A fence that opens in prose goes on up to the end of the next
code, so that it can neither go unnoticed nor be made up for by another one. -/

namespace ComponentBook.Markdown

variable {line opening : Text} {body ls more : List Text}

/-! ## Reading a page -/

/-- The line of a block that is the heading of a section. -/
def Block.section? : Block → Option Text
  | .heading line => if opensSection line then some line else none
  | .fence _ _ => none
  | .table _ => none
  | .paragraph _ => none

/-- The lines inside a block that is a fence. -/
def Block.body? : Block → Option (List Text)
  | .heading _ => none
  | .fence _ body => some body
  | .table _ => none
  | .paragraph _ => none

/-- The headings of the sections of a page, outside its fences. -/
def sectionHeadings (page : Text) : List Text :=
  (Block.ofLines (pageLines page)).filterMap Block.section?

/-- The texts inside the fences of a page. -/
def fenceTexts (page : Text) : List Text :=
  ((Block.ofLines (pageLines page)).filterMap Block.body?).map (Text.join ['\n'])

/-! ## Reading line by line -/

/-- Outside fences the line opens neither a fence nor a section. -/
def IsQuiet (line : Text) : Prop := opensFence line = false ∧ opensSection line.strip = false

instance (line : Text) : Decidable (IsQuiet line) := inferInstanceAs (Decidable (_ ∧ _))

/-- The headings of sections among lines, a fence being open in front of them or not. -/
def headingsIn : (inFence : Bool) → List Text → List Text
  | _, [] => []
  | true, line :: lines => headingsIn (!closesFence line) lines
  | false, line :: lines =>
    if opensFence line then headingsIn true lines
    else if opensSection line.strip then line.strip :: headingsIn false lines
    else headingsIn false lines

/-- The lines inside fences; `body` are those of the fence that is open, if one is. -/
def bodiesIn : (body : Option (List Text)) → List Text → List (List Text)
  | none, [] => []
  | some body, [] => [dropBlankEnd body]
  | none, line :: lines => if opensFence line then bodiesIn (some []) lines else bodiesIn none lines
  | some body, line :: lines =>
    if closesFence line then body :: bodiesIn none lines else bodiesIn (some (body ++ [line])) lines

theorem headingsIn_cons_quiet (h : IsQuiet line) :
    headingsIn false (line :: ls) = headingsIn false ls := by
  rw [headingsIn, h.1, h.2, if_neg Bool.false_ne_true, if_neg Bool.false_ne_true]

theorem bodiesIn_cons_of_not_opens (h : opensFence line = false) :
    bodiesIn none (line :: ls) = bodiesIn none ls := by
  rw [bodiesIn, h, if_neg Bool.false_ne_true]

/-- Quiet lines are passed over. -/
theorem headingsIn_append_quiet (h : ∀ l ∈ ls, IsQuiet l) :
    headingsIn false (ls ++ more) = headingsIn false more := by
  induction ls with
  | nil => rfl
  | cons l ls ih =>
    obtain ⟨hl, hls⟩ := List.forall_mem_cons.1 h
    rw [List.cons_append, headingsIn_cons_quiet hl, ih hls]

theorem bodiesIn_append_quiet (h : ∀ l ∈ ls, IsQuiet l) :
    bodiesIn none (ls ++ more) = bodiesIn none more := by
  induction ls with
  | nil => rfl
  | cons l ls ih =>
    obtain ⟨hl, hls⟩ := List.forall_mem_cons.1 h
    rw [List.cons_append, bodiesIn_cons_of_not_opens hl.1, ih hls]

/-- Lines inside a fence are no headings. -/
theorem headingsIn_append_inside (h : ∀ l ∈ body, closesFence l = false) (rest : List Text) :
    headingsIn true (body ++ rest) = headingsIn true rest := by
  induction body with
  | nil => rfl
  | cons l body ih =>
    obtain ⟨hl, hbody⟩ := List.forall_mem_cons.1 h
    rw [List.cons_append, headingsIn, hl]
    exact ih hbody

/-- Lines that do not close a fence are lines inside it. -/
theorem bodiesIn_append_inside (h : ∀ l ∈ body, closesFence l = false) (front rest : List Text) :
    bodiesIn (some front) (body ++ rest) = bodiesIn (some (front ++ body)) rest := by
  induction body generalizing front with
  | nil => rw [List.nil_append, List.append_nil]
  | cons l body ih =>
    obtain ⟨hl, hbody⟩ := List.forall_mem_cons.1 h
    rw [List.cons_append, bodiesIn, hl, if_neg Bool.false_ne_true, ih hbody, List.append_assoc,
      List.singleton_append]

/-- A fence ends with the line that closes it. -/
theorem headingsIn_of_closedFence? {after : List Text} (h : closedFence? ls = some (body, after)) :
    headingsIn true ls = headingsIn false after := by
  obtain ⟨closing, rfl, hinside, hcloses⟩ := closedFence?_eq_some_iff.1 h
  rw [headingsIn_append_inside hinside, headingsIn, hcloses]
  rfl

theorem bodiesIn_of_closedFence? {after : List Text} (h : closedFence? ls = some (body, after))
    (front : List Text) : bodiesIn (some front) ls = (front ++ body) :: bodiesIn none after := by
  obtain ⟨closing, rfl, hinside, hcloses⟩ := closedFence?_eq_some_iff.1 h
  rw [bodiesIn_append_inside hinside, bodiesIn, if_pos hcloses]

/-- A fence that nothing closes goes on to the end. -/
theorem headingsIn_of_open (h : closedFence? ls = none) : headingsIn true ls = [] := by
  have hinside := headingsIn_append_inside (closesFence_of_closedFence?_none h) []
  rwa [List.append_nil] at hinside

theorem bodiesIn_of_open (h : closedFence? ls = none) (front : List Text) :
    bodiesIn (some front) ls = [dropBlankEnd (front ++ ls)] := by
  have hinside := bodiesIn_append_inside (closesFence_of_closedFence?_none h) front []
  rwa [List.append_nil] at hinside

/-! ## Blocks and lines -/

theorem kind_eq_fence_iff : LineKind.of line = .fence ↔ opensFence line = true := by
  rw [LineKind.of]
  constructor
  · intro h
    split at h
    · next hopens => exact hopens
    · split at h
      · cases h
      · split at h
        · cases h
        · split at h <;> cases h
  · intro h
    rw [if_pos h]

theorem not_opensFence_of_kind (h : LineKind.of line ≠ .fence) : opensFence line = false :=
  Bool.eq_false_iff.2 fun hopens => h (kind_eq_fence_iff.2 hopens)

/-- What opens a section starts with a number sign. -/
theorem kind_of_opensSection (h : opensSection line.strip = true) : LineKind.of line = .heading := by
  obtain ⟨rest, hrest⟩ := List.isPrefixOf_iff_prefix.1 h
  rw [LineKind.of, opensFence, ← hrest]
  rfl

theorem isQuiet_of_kind (hfence : LineKind.of line ≠ .fence) (hheading : LineKind.of line ≠ .heading) :
    IsQuiet line :=
  ⟨not_opensFence_of_kind hfence,
    Bool.eq_false_iff.2 fun hopens => hheading (kind_of_opensSection hopens)⟩

/-- Lines of one kind are passed over, when they are neither fences nor headings. -/
theorem isQuiet_of_mem_takeWhile {kind : LineKind} (hfence : kind ≠ .fence)
    (hheading : kind ≠ .heading) {rest : List Text} :
    ∀ l ∈ rest.takeWhile (fun l => LineKind.of l = kind), IsQuiet l := by
  intro l hl
  have htaken := List.mem_takeWhile_imp hl
  have hkind : LineKind.of l = kind := of_decide_eq_true htaken
  exact isQuiet_of_kind (hkind ▸ hfence) (hkind ▸ hheading)

theorem headingsIn_dropWhile {kind : LineKind} (hfence : kind ≠ .fence) (hheading : kind ≠ .heading)
    (rest : List Text) :
    headingsIn false (rest.dropWhile fun l => LineKind.of l = kind) = headingsIn false rest := by
  have hrest := List.takeWhile_append_dropWhile (p := fun l => LineKind.of l = kind) (l := rest)
  have hquiet : ∀ l ∈ rest.takeWhile (fun l => LineKind.of l = kind), IsQuiet l :=
    isQuiet_of_mem_takeWhile hfence hheading
  rw [← headingsIn_append_quiet hquiet, hrest]

theorem bodiesIn_dropWhile {kind : LineKind} (hfence : kind ≠ .fence) (hheading : kind ≠ .heading)
    (rest : List Text) :
    bodiesIn none (rest.dropWhile fun l => LineKind.of l = kind) = bodiesIn none rest := by
  have hrest := List.takeWhile_append_dropWhile (p := fun l => LineKind.of l = kind) (l := rest)
  have hquiet : ∀ l ∈ rest.takeWhile (fun l => LineKind.of l = kind), IsQuiet l :=
    isQuiet_of_mem_takeWhile hfence hheading
  rw [← bodiesIn_append_quiet hquiet, hrest]

/-- The headings of sections among the blocks of some lines are those among the lines. -/
theorem filterMap_section?_ofLines (ls : List Text) :
    (Block.ofLines ls).filterMap Block.section? = headingsIn false ls := by
  -- along the recursion that reads the blocks; case5 is a fence that stays open to the end of the page
  fun_induction Block.ofLines ls with
  | case1 => rfl
  | case2 line rest hkind ih =>
    have hquiet : IsQuiet line := isQuiet_of_kind (by simp [hkind]) (by simp [hkind])
    rw [ih, headingsIn_cons_quiet hquiet]
  | case3 line rest hkind ih =>
    have hfence : opensFence line = false := not_opensFence_of_kind (by simp [hkind])
    rw [List.filterMap_cons, Block.section?, headingsIn, hfence, ih]
    cases opensSection line.strip <;> rfl
  | case4 line rest hkind body after hclosed ih =>
    rw [List.filterMap_cons, Block.section?, headingsIn, if_pos (kind_eq_fence_iff.1 hkind),
      headingsIn_of_closedFence? hclosed, ih]
  | case5 line rest hkind hopen =>
    rw [headingsIn, if_pos (kind_eq_fence_iff.1 hkind), headingsIn_of_open hopen]
    rfl
  | case6 line rest hkind ih =>
    have hquiet : IsQuiet line := isQuiet_of_kind (by simp [hkind]) (by simp [hkind])
    rw [List.filterMap_cons, Block.section?, headingsIn_cons_quiet hquiet, ih]
    exact headingsIn_dropWhile (by decide) (by decide) rest
  | case7 line rest hkind ih =>
    have hquiet : IsQuiet line := isQuiet_of_kind (by simp [hkind]) (by simp [hkind])
    rw [List.filterMap_cons, Block.section?, headingsIn_cons_quiet hquiet, ih]
    exact headingsIn_dropWhile (by decide) (by decide) rest

/-- The fences among the blocks of some lines are those among the lines. -/
theorem filterMap_body?_ofLines (ls : List Text) :
    (Block.ofLines ls).filterMap Block.body? = bodiesIn none ls := by
  fun_induction Block.ofLines ls with
  | case1 => rfl
  | case2 line rest hkind ih =>
    rw [ih, bodiesIn_cons_of_not_opens (not_opensFence_of_kind (by simp [hkind]))]
  | case3 line rest hkind ih =>
    rw [List.filterMap_cons, Block.body?,
      bodiesIn_cons_of_not_opens (not_opensFence_of_kind (by simp [hkind])), ih]
  | case4 line rest hkind body after hclosed ih =>
    rw [List.filterMap_cons, Block.body?, bodiesIn, if_pos (kind_eq_fence_iff.1 hkind),
      bodiesIn_of_closedFence? hclosed, ih]
    rfl
  | case5 line rest hkind hopen =>
    rw [bodiesIn, if_pos (kind_eq_fence_iff.1 hkind), bodiesIn_of_open hopen]
    rfl
  | case6 line rest hkind ih =>
    rw [List.filterMap_cons, Block.body?,
      bodiesIn_cons_of_not_opens (not_opensFence_of_kind (by simp [hkind])), ih]
    exact bodiesIn_dropWhile (by decide) (by decide) rest
  | case7 line rest hkind ih =>
    rw [List.filterMap_cons, Block.body?,
      bodiesIn_cons_of_not_opens (not_opensFence_of_kind (by simp [hkind])), ih]
    exact bodiesIn_dropWhile (by decide) (by decide) rest

/-! ## Pages that are written piece by piece -/

/-- A piece of a page that is written. -/
inductive Piece where
  /-- A line of prose, or a row of a table. -/
  | prose (line : Text)
  /-- The heading of a section. -/
  | heading (line : Text)
  /-- Code in a fence: the line that opens the fence and the lines of the code. -/
  | code (opening : Text) (body : List Text)

namespace Piece

/-- The lines of a piece. -/
def lines : Piece → List Text
  | prose line => [line]
  | heading line => [line]
  | code opening body => opening :: (body ++ [fence])

/-- The heading that a piece is. -/
def heading? : Piece → Option Text
  | prose _ => none
  | heading line => some line
  | code _ _ => none

/-- The lines of code of a piece. -/
def code? : Piece → Option (List Text)
  | prose _ => none
  | heading _ => none
  | code _ body => some body

/-- A heading opens a section, and a line opens the fence of code and none in it closes the fence. -/
def IsSound : Piece → Prop
  | prose _ => True
  | heading line => opensSection line = true ∧ line.strip = line
  | code opening body => opensFence opening = true ∧ closesFence opening = false ∧
      ∀ l ∈ body, closesFence l = false

/-- A line of prose opens no fence. -/
def OpensNone : Piece → Prop
  | prose line => opensFence line = false
  | heading _ => True
  | code _ _ => True

/-- A line of prose is quiet. -/
def Quiet : Piece → Prop
  | prose line => IsQuiet line
  | heading _ => True
  | code _ _ => True

end Piece

variable {piece : Piece} {pieces : List Piece}

/-- A heading opens no fence. -/
theorem not_opensFence_of_section (h : opensSection line = true) (hstrip : line.strip = line) :
    opensFence line = false := by
  rw [← hstrip] at h
  exact not_opensFence_of_kind (by simp [kind_of_opensSection h])

theorem closedFence?_code (h : Piece.IsSound (.code opening body)) (rest : List Text) :
    closedFence? (body ++ [fence] ++ rest) = some (body, rest) := by
  rw [List.append_assoc, List.singleton_append, closedFence?_append h.2.2]

/-- Code is read as it is written when no fence is open in front of it. -/
theorem bodiesIn_code (h : Piece.IsSound (.code opening body)) (rest : List Text) :
    bodiesIn none ((Piece.code opening body).lines ++ rest) = body :: bodiesIn none rest := by
  rw [Piece.lines, List.cons_append, bodiesIn, if_pos h.1,
    bodiesIn_of_closedFence? (closedFence?_code h rest)]
  rfl

/-- A fence that is open goes on up to the end of the code. -/
theorem bodiesIn_some_code (h : Piece.IsSound (.code opening body)) (front rest : List Text) :
    bodiesIn (some front) ((Piece.code opening body).lines ++ rest) =
      (front ++ opening :: body) :: bodiesIn none rest := by
  rw [Piece.lines, List.cons_append, bodiesIn, h.2.1, if_neg Bool.false_ne_true,
    bodiesIn_of_closedFence? (closedFence?_code h rest), List.append_assoc, List.singleton_append]

/-- There are as many fences as pieces of code, or more. -/
theorem length_code?_le (state : Option (List Text)) (h : ∀ piece ∈ pieces, piece.IsSound) :
    (pieces.filterMap Piece.code?).length ≤ (bodiesIn state (pieces.flatMap Piece.lines)).length := by
  induction pieces generalizing state with
  | nil => exact Nat.zero_le _
  | cons piece pieces ih =>
    obtain ⟨hpiece, hpieces⟩ := List.forall_mem_cons.1 h
    have hline (line : Text) : (pieces.filterMap Piece.code?).length ≤
        (bodiesIn state (line :: pieces.flatMap Piece.lines)).length := by
      cases state with
      | none =>
        rw [bodiesIn]
        split <;> exact ih _ hpieces
      | some front =>
        rw [bodiesIn]
        split
        · exact Nat.le_succ_of_le (ih _ hpieces)
        · exact ih _ hpieces
    cases piece with
    | prose line => exact hline line
    | heading line => exact hline line
    | code opening body =>
      rw [List.filterMap_cons, List.flatMap_cons, Piece.code?]
      cases state with
      | none =>
        rw [bodiesIn_code hpiece]
        exact Nat.succ_le_succ (ih none hpieces)
      | some front =>
        rw [bodiesIn_some_code hpiece]
        exact Nat.succ_le_succ (ih none hpieces)

/-- A text with a further line in it is longer. -/
theorem join_ne_join_append (hopening : opening ≠ []) (front body : List Text) :
    Text.join ['\n'] (front ++ opening :: body) ≠ Text.join ['\n'] body := by
  have hlonger : (Text.join ['\n'] body).length < (Text.join ['\n'] (opening :: body)).length := by
    have hpos := List.length_pos_iff.2 hopening
    cases body with
    | nil => exact hpos
    | cons l body =>
      rw [Text.join_cons_cons, List.length_append, List.length_append]
      omega
  have hmore (front : List Text) : (Text.join ['\n'] (opening :: body)).length ≤
      (Text.join ['\n'] (front ++ opening :: body)).length := by
    induction front with
    | nil => exact Nat.le_refl _
    | cons l front ih =>
      obtain ⟨k, ks, hks⟩ := List.exists_cons_of_ne_nil
        (List.append_ne_nil_of_right_ne_nil front (List.cons_ne_nil opening body))
      rw [List.cons_append]
      rw [hks] at ih ⊢
      rw [Text.join_cons_cons, List.length_append]
      omega
  intro heq
  have hle := hmore front
  rw [heq] at hle
  omega

/-- **Where a fence is open, code is not read as it is written.** The first code behind it is read together
with what stands in front of it; should the fence be closed before, there is a fence too many. -/
theorem bodiesIn_some_ne (front : List Text) (h : ∀ piece ∈ pieces, piece.IsSound) :
    (bodiesIn (some front) (pieces.flatMap Piece.lines)).map (Text.join ['\n']) ≠
      (pieces.filterMap Piece.code?).map (Text.join ['\n']) := by
  induction pieces generalizing front with
  | nil =>
    rw [List.flatMap_nil, bodiesIn]
    exact nofun
  | cons piece pieces ih =>
    obtain ⟨hpiece, hpieces⟩ := List.forall_mem_cons.1 h
    have hline (line : Text) :
        (bodiesIn (some front) (line :: pieces.flatMap Piece.lines)).map (Text.join ['\n']) ≠
          (pieces.filterMap Piece.code?).map (Text.join ['\n']) := by
      rw [bodiesIn]
      split
      · -- a line that closes the fence leaves one fence more than there is code
        intro heq
        have hlength := congrArg List.length heq
        have hle := length_code?_le none hpieces
        rw [List.length_map, List.length_map, List.length_cons] at hlength
        omega
      · exact ih _ hpieces
    cases piece with
    | prose line => exact hline line
    | heading line => exact hline line
    | code opening body =>
      rw [List.filterMap_cons, List.flatMap_cons, Piece.code?, bodiesIn_some_code hpiece]
      intro heq
      have hopening : opening ≠ [] := by
        rintro rfl
        cases hpiece.1
      exact join_ne_join_append hopening front body (List.cons.inj heq).1

/-- The code is read as it is written exactly when no line of prose opens a fence. -/
theorem bodiesIn_pieces_iff (h : ∀ piece ∈ pieces, piece.IsSound) :
    (bodiesIn none (pieces.flatMap Piece.lines)).map (Text.join ['\n']) =
        (pieces.filterMap Piece.code?).map (Text.join ['\n']) ↔
      ∀ piece ∈ pieces, piece.OpensNone := by
  induction pieces with
  | nil => exact ⟨fun _ => List.forall_mem_nil _, fun _ => rfl⟩
  | cons piece pieces ih =>
    obtain ⟨hpiece, hpieces⟩ := List.forall_mem_cons.1 h
    rw [List.forall_mem_cons, List.filterMap_cons, List.flatMap_cons, ← ih hpieces]
    cases piece with
    | prose line =>
      rw [Piece.lines, List.singleton_append, Piece.code?, Piece.OpensNone]
      cases hopens : opensFence line with
      | false => rw [bodiesIn_cons_of_not_opens hopens, eq_self, true_and]
      | true =>
        rw [bodiesIn, hopens, if_pos rfl]
        exact ⟨fun heq => absurd heq (bodiesIn_some_ne [] hpieces), fun hfalse => nomatch hfalse.1⟩
    | heading line =>
      have hopens := not_opensFence_of_section hpiece.1 hpiece.2
      rw [Piece.lines, List.singleton_append, Piece.code?, Piece.OpensNone,
        bodiesIn_cons_of_not_opens hopens, true_and]
    | code opening body =>
      rw [Piece.code?, bodiesIn_code hpiece, Piece.OpensNone, true_and, List.map_cons, List.map_cons,
        List.cons.injEq, eq_self, true_and]

/-- A heading is read as it is written when no fence is open in front of it. -/
theorem headingsIn_heading (h : Piece.IsSound (.heading line)) (rest : List Text) :
    headingsIn false (line :: rest) = line :: headingsIn false rest := by
  rw [headingsIn, not_opensFence_of_section h.1 h.2, h.2, h.1, if_neg Bool.false_ne_true, if_pos rfl]

/-- Code holds no headings. -/
theorem headingsIn_code (h : Piece.IsSound (.code opening body)) (rest : List Text) :
    headingsIn false ((Piece.code opening body).lines ++ rest) = headingsIn false rest := by
  rw [Piece.lines, List.cons_append, headingsIn, if_pos h.1,
    headingsIn_of_closedFence? (closedFence?_code h rest)]

/-- When no line of prose opens a fence, there are as many headings as are written, or more. -/
theorem length_heading?_le (h : ∀ piece ∈ pieces, piece.IsSound)
    (hopens : ∀ piece ∈ pieces, piece.OpensNone) :
    (pieces.filterMap Piece.heading?).length ≤
      (headingsIn false (pieces.flatMap Piece.lines)).length := by
  induction pieces with
  | nil => exact Nat.zero_le _
  | cons piece pieces ih =>
    obtain ⟨hpiece, hpieces⟩ := List.forall_mem_cons.1 h
    obtain ⟨hopen, hopensRest⟩ := List.forall_mem_cons.1 hopens
    have hrest := ih hpieces hopensRest
    rw [List.filterMap_cons, List.flatMap_cons]
    cases piece with
    | prose line =>
      rw [Piece.OpensNone] at hopen
      rw [Piece.heading?, Piece.lines, List.singleton_append, headingsIn, hopen,
        if_neg Bool.false_ne_true]
      dsimp only
      -- a line of prose that looks like a heading is one more
      split
      · exact Nat.le_succ_of_le hrest
      · exact hrest
    | heading line =>
      rw [Piece.heading?, Piece.lines, List.singleton_append, headingsIn_heading hpiece]
      exact Nat.succ_le_succ hrest
    | code opening body =>
      rw [Piece.heading?, headingsIn_code hpiece]
      exact hrest

/-- When no line of prose opens a fence, the headings are read as they are written exactly when none opens
a section. -/
theorem headingsIn_pieces_iff (h : ∀ piece ∈ pieces, piece.IsSound)
    (hopens : ∀ piece ∈ pieces, piece.OpensNone) :
    headingsIn false (pieces.flatMap Piece.lines) = pieces.filterMap Piece.heading? ↔
      ∀ piece ∈ pieces, piece.Quiet := by
  induction pieces with
  | nil => exact ⟨fun _ => List.forall_mem_nil _, fun _ => rfl⟩
  | cons piece pieces ih =>
    obtain ⟨hpiece, hpieces⟩ := List.forall_mem_cons.1 h
    obtain ⟨hopen, hopensRest⟩ := List.forall_mem_cons.1 hopens
    rw [List.forall_mem_cons, List.filterMap_cons, List.flatMap_cons, ← ih hpieces hopensRest]
    cases piece with
    | prose line =>
      rw [Piece.OpensNone] at hopen
      rw [Piece.heading?, Piece.lines, List.singleton_append, Piece.Quiet, IsQuiet, headingsIn, hopen,
        if_neg Bool.false_ne_true, eq_self, true_and]
      cases hsection : opensSection line.strip with
      | false => rw [if_neg Bool.false_ne_true, eq_self, true_and]
      | true =>
        rw [if_pos rfl]
        refine ⟨fun heq => ?_, fun hfalse => nomatch hfalse.1⟩
        -- there is a heading too many
        have hlength := congrArg List.length heq
        have hle := length_heading?_le hpieces hopensRest
        rw [List.length_cons] at hlength
        dsimp only at hlength
        omega
    | heading line =>
      rw [Piece.heading?, Piece.lines, List.singleton_append, headingsIn_heading hpiece, Piece.Quiet,
        true_and, List.cons.injEq, eq_self, true_and]
    | code opening body =>
      rw [Piece.heading?, headingsIn_code hpiece, Piece.Quiet, true_and]

theorem opensNone_of_quiet (h : piece.Quiet) : piece.OpensNone := by
  cases piece with
  | prose line => exact h.1
  | heading line => trivial
  | code opening body => trivial

/-- **A page is read as it was written exactly when its prose is quiet.** -/
theorem reads_pieces_iff {page : Text} (hpage : pageLines page = pieces.flatMap Piece.lines)
    (h : ∀ piece ∈ pieces, piece.IsSound) :
    sectionHeadings page = pieces.filterMap Piece.heading? ∧
        fenceTexts page = (pieces.filterMap Piece.code?).map (Text.join ['\n']) ↔
      ∀ piece ∈ pieces, piece.Quiet := by
  rw [sectionHeadings, fenceTexts, filterMap_section?_ofLines, filterMap_body?_ofLines, hpage,
    bodiesIn_pieces_iff h]
  constructor
  · rintro ⟨hheadings, hopens⟩
    exact (headingsIn_pieces_iff h hopens).1 hheadings
  · intro hquiet
    have hopens : ∀ piece ∈ pieces, piece.OpensNone :=
      fun piece hpiece => opensNone_of_quiet (hquiet piece hpiece)
    exact ⟨(headingsIn_pieces_iff h hopens).2 hquiet, hopens⟩

end ComponentBook.Markdown
