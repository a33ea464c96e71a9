import ComponentBook.Property.InterfaceDeclaration
import ComponentBook.Proofs.Script.Segment
import ComponentBook.Proofs.Text.Blank
import ComponentBook.Proofs.Text.Lines

/-! # The body of an interface line by line

A body is cut into paragraphs at its empty lines, a paragraph into lines, a line into entries, and the
comment of an entry is looked for in the paragraph in front of it. **`membersFrom`** says the same in one pass
over the lines: it keeps the text of the paragraph so far and what is known of open braces and comments, and
forgets both behind an empty line. **`membersOf_join`** says that it finds the members of the body. -/

namespace ComponentBook.InterfaceDeclaration

open Script Text
open Script.DocComment (commentBefore?)

variable {front last line paragraph part t : Text} {lines rest : List Text} {state : LineState}

/-! ## Lines -/

/-- A text without line breaks. -/
def Unbroken (t : Text) : Prop := ∀ c ∈ t, isLineBreak c = false

instance (t : Text) : Decidable (Unbroken t) := inferInstanceAs (Decidable (∀ c ∈ t, _))

/-- Lines with a line feed behind each. -/
def laid (lines : List Text) : Text := lines.flatMap fun l => l ++ ['\n']

/-- A line of spaces and tabs. -/
def isEmptyLine (line : Text) : Bool := line.all isSpaceOrTab

@[simp] theorem laid_nil : laid [] = [] := rfl

@[simp] theorem laid_cons (line : Text) (lines : List Text) :
    laid (line :: lines) = line ++ '\n' :: laid lines := by
  simp [laid]

theorem laid_append (lines rest : List Text) : laid (lines ++ rest) = laid lines ++ laid rest :=
  List.flatMap_append

theorem Unbroken.append {a b : Text} (ha : Unbroken a) (hb : Unbroken b) : Unbroken (a ++ b) :=
  List.forall_mem_append.2 ⟨ha, hb⟩

theorem Unbroken.ne {c : Char} (h : Unbroken t) (hc : c ∈ t) : c ≠ '\n' ∧ c ≠ '\r' := by
  have hbreak := h c hc
  constructor <;> rintro rfl <;> revert hbreak <;> decide

/-- No line ending is taken off. -/
theorem Unbroken.dropRightWhile (h : Unbroken t) : t.dropRightWhile (fun c => c = '\r' || c = '\n') = t := by
  refine List.rdropWhile_eq_self_iff.2 fun hne => ?_
  obtain ⟨hfeed, hreturn⟩ := h.ne (List.getLast_mem hne)
  simp only [hfeed, hreturn, decide_false, Bool.or_self, Bool.false_eq_true, not_false_iff]

/-- The next line is empty or it is not. -/
theorem emptyLine?_append (h : Unbroken line) (t : Text) :
    emptyLine? (line ++ '\n' :: t) = if isEmptyLine line then some t else none := by
  by_cases hempty : isEmptyLine line = true
  · have hdrop : (line ++ '\n' :: t).dropWhile isSpaceOrTab = '\n' :: t :=
      dropWhile_append_of_stop (List.all_eq_true.1 hempty) (by simp; decide)
    rw [if_pos hempty, emptyLine?, hdrop]
    rfl
  · -- the first other character is no line break
    have hne : line.dropWhile isSpaceOrTab ≠ [] := by
      intro hnil
      rw [List.dropWhile_eq_nil_iff] at hnil
      exact hempty (List.all_eq_true.2 hnil)
    obtain ⟨c, u, hu⟩ := List.exists_cons_of_ne_nil hne
    have hc : c ∈ line := (List.dropWhile_sublist isSpaceOrTab).subset (by rw [hu]; simp)
    have hdrop : (line ++ '\n' :: t).dropWhile isSpaceOrTab = c :: (u ++ '\n' :: t) := by
      rw [List.dropWhile_append, hu]
      rfl
    obtain ⟨hfeed, hreturn⟩ := h.ne hc
    rw [if_neg hempty, emptyLine?, hdrop]
    split
    · next he => exact absurd (List.cons.inj he).1 hreturn
    · next he => exact absurd (List.cons.inj he).1 hfeed
    · rfl

theorem emptyLine?_last (h : Unbroken last) : emptyLine? last = none := by
  unfold emptyLine?
  split
  · next he =>
    have hin : '\r' ∈ last := (List.dropWhile_sublist isSpaceOrTab).subset (by rw [he]; simp)
    exact absurd rfl (h.ne hin).2
  · next he =>
    have hin : '\n' ∈ last := (List.dropWhile_sublist isSpaceOrTab).subset (by rw [he]; simp)
    exact absurd rfl (h.ne hin).1
  · rfl

/-- A line is read into its paragraph; the paragraph ends behind it when an empty line follows. -/
theorem paragraphsAfter_line (h : Unbroken line) (part t : Text) :
    paragraphsAfter part (line ++ '\n' :: t) =
      match emptyLine? t with
      | some rest => (part.reverse ++ (line ++ ['\n'])) :: paragraphsAfter [] rest
      | none => paragraphsAfter ((line ++ ['\n']).reverse ++ part) t := by
  induction line generalizing part with
  | nil =>
    rw [List.nil_append, paragraphsAfter]
    split <;> next he => simp [he]
  | cons c line ih =>
    have hc : c ≠ '\n' := (h.ne List.mem_cons_self).1
    rw [List.cons_append, paragraphsAfter]
    · rw [ih fun d hd => h d (List.mem_cons_of_mem _ hd)]
      split <;> simp
    · exact hc

theorem paragraphsAfter_last (h : Unbroken last) (part : Text) :
    paragraphsAfter part last = [part.reverse ++ last] := by
  induction last generalizing part with
  | nil => rw [paragraphsAfter, List.append_nil]
  | cons c last ih =>
    have hc : c ≠ '\n' := (h.ne List.mem_cons_self).1
    rw [paragraphsAfter]
    · rw [ih fun d hd => h d (List.mem_cons_of_mem _ hd)]
      simp
    · exact hc

theorem brokenLinesAfter_line (h : Unbroken line) (read t : Text) :
    brokenLinesAfter read (line ++ '\n' :: t) = (read.reverse ++ line, ['\n']) :: brokenLines t := by
  induction line generalizing read with
  | nil =>
    rw [List.nil_append, brokenLinesAfter, List.append_nil]
    · rfl
    · simp
  | cons c line ih =>
    have hc : isLineBreak c = false := h c List.mem_cons_self
    have hreturn : c ≠ '\r' := (h.ne List.mem_cons_self).2
    rw [List.cons_append, brokenLinesAfter, hc]
    · rw [if_neg (by simp), ih fun d hd => h d (List.mem_cons_of_mem _ hd)]
      simp
    · exact fun u he => absurd he hreturn

theorem brokenLines_line (h : Unbroken line) (t : Text) :
    brokenLines (line ++ '\n' :: t) = (line, ['\n']) :: brokenLines t :=
  brokenLinesAfter_line h [] t

theorem brokenLinesAfter_last (h : Unbroken last) (read : Text) :
    brokenLinesAfter read last = if read.reverse ++ last = [] then [] else [(read.reverse ++ last, [])] := by
  induction last generalizing read with
  | nil => simp [brokenLinesAfter]
  | cons c last ih =>
    have hc : isLineBreak c = false := h c List.mem_cons_self
    have hreturn : c ≠ '\r' := (h.ne List.mem_cons_self).2
    rw [brokenLinesAfter, hc]
    · rw [if_neg (by simp), ih fun d hd => h d (List.mem_cons_of_mem _ hd)]
      simp
    · exact fun u he => absurd he hreturn

theorem brokenLines_last (h : Unbroken last) : brokenLines last = if last = [] then [] else [(last, [])] :=
  brokenLinesAfter_last h []

/-! ## The members of a line -/

/-- A member with the comment that ends the text `before`. -/
def commentedMember? (before t : Text) : Option CommentedMember := do
  let member ← member? t
  return { member, comment := commentBefore? before }

/-- The members on a line; `front` is the paragraph in front of it. -/
def membersOn (front line : Text) : List CommentedMember :=
  (lineMembers line).filterMap fun entry =>
    commentedMember? (front ++ line.take entry.offset) entry.text

/-- The members that a line adds: those on it, if it starts at the top level. -/
def LineState.members (state : LineState) (front line : Text) : List CommentedMember :=
  if state.atTop (line ++ ['\n']) then membersOn front line else []

/-- The members of a body whose lines are given. `front` is the paragraph in front of the first line and
`state` what is known behind it; behind an empty line a new paragraph starts. -/
def membersFrom (front : Text) (state : LineState) : List Text → List CommentedMember
  | [] => []
  | [line] => state.members front line
  | line :: next :: lines =>
    state.members front line ++
      if isEmptyLine next then membersFrom [] {} lines
      else membersFrom (front ++ (line ++ ['\n'])) (state.next (line ++ ['\n'])) (next :: lines)

/-- What the lines behind a line add: behind an empty line a new paragraph starts. -/
def membersAfter (front : Text) (state : LineState) : List Text → List CommentedMember
  | [] => []
  | next :: ls =>
    if isEmptyLine next then membersFrom [] {} ls else membersFrom front state (next :: ls)

theorem membersFrom_cons (front : Text) (state : LineState) (line : Text) (ls : List Text) :
    membersFrom front state (line :: ls) = state.members front line ++
      membersAfter (front ++ (line ++ ['\n'])) (state.next (line ++ ['\n'])) ls := by
  cases ls with
  | nil => rw [membersFrom, membersAfter, List.append_nil]
  | cons next ls => rw [membersFrom, membersAfter]

theorem membersAfter_cons (h : isEmptyLine line = false) (front : Text) (state : LineState)
    (ls : List Text) :
    membersAfter front state (line :: ls) = membersFrom front state (line :: ls) := by
  rw [membersAfter, if_neg (by simp [h])]

theorem isEmptyLine_of_mem {c : Char} (hc : c ∈ line) (h : isSpaceOrTab c = false) :
    isEmptyLine line = false := by
  rw [Bool.eq_false_iff]
  intro hempty
  rw [List.all_eq_true.1 hempty c hc] at h
  cases h

/-- An entry is a part of the line with the line comments that belong to it. -/
theorem exists_part_of_mem_gatherMembers {entry : Segment} {segments : List Segment}
    (h : entry ∈ gatherMembers segments) :
    ∃ part ∈ segments, ∃ remarks : Text, entry.text = part.text.strip ++ remarks ∧
      (remarks = [] ∨ ∃ r, remarks = ' ' :: '/' :: r) ∧
        entry.offset = part.offset + (part.text.length - (stripLeft part.text).length) := by
  fun_induction gatherMembers segments with
  | case1 => cases h
  | case2 s rest content offset remarks others ih =>
    rcases List.mem_cons.1 h with rfl | h
    · refine ⟨s, List.mem_cons_self, _, rfl, ?_, rfl⟩
      cases hremarks : remarks with
      | nil => exact .inl rfl
      | cons r rs =>
        -- the remarks that a part takes along start with two slashes
        have hr : r ∈ rest.takeWhile fun r => r.text.strip.startsWith "//" := by
          show r ∈ remarks
          rw [hremarks]
          exact List.mem_cons_self
        have hstarts := List.all_eq_true.1 (List.all_takeWhile (l := rest)) r hr
        obtain ⟨u, hu⟩ := startsWith_eq_true_iff.1 hstarts
        refine .inr ⟨'/' :: u ++ rs.flatMap fun r => ' ' :: r.text.strip, ?_⟩
        rw [List.flatMap_cons, ← hu]
        rfl
    · obtain ⟨part, hmem, hpart⟩ := ih h
      exact ⟨part, List.mem_cons_of_mem _ ((List.dropWhile_sublist _).subset hmem), hpart⟩

/-- An entry stands on its line. -/
theorem offset_le_of_mem_lineMembers {entry : Segment} (h : entry ∈ lineMembers line) :
    entry.offset ≤ line.length := by
  obtain ⟨part, hmem, -, -, -, hoffset⟩ := exists_part_of_mem_gatherMembers h
  have hle := le_of_mem_splitTopLevel hmem
  omega

/-- A blank line declares nothing. -/
theorem lineMembers_of_allBlank (h : line.allBlank = true) : lineMembers line = [] := by
  have hnone : semicolonSegments line = [] := by
    rw [List.eq_nil_iff_forall_not_mem]
    intro segment hsegment
    have hblank : segment.text.allBlank = true := by
      rw [allBlank_eq_true_iff] at h ⊢
      exact fun c hc => h c ((infix_of_mem_splitTopLevel hsegment).subset hc)
    have hfilled := (List.mem_filter.1 hsegment).2
    rw [hblank] at hfilled
    cases hfilled
  rw [lineMembers, hnone, gatherMembers]

theorem membersOn_of_allBlank (h : line.allBlank = true) (front : Text) : membersOn front line = [] := by
  rw [membersOn, lineMembers_of_allBlank h]
  rfl

/-! ## The members of a paragraph -/

/-- The members in `t`, the rest of a paragraph behind `front`. -/
def membersBehind (front : Text) (state : LineState) (t : Text) : List CommentedMember :=
  (topLinesFrom state front.length t.brokenLines).flatMap fun line =>
    (lineMembers line.text).filterMap fun entry =>
      commentedMember? ((front ++ t).take (line.offset + entry.offset)) entry.text

theorem membersOf_eq (body : Text) : membersOf body = (paragraphs body).flatMap (membersBehind [] {}) := rfl

/-- The line that starts a paragraph adds its members. -/
theorem membersBehind_line (h : Unbroken line) (front : Text) (state : LineState) (t : Text) :
    membersBehind front state (line ++ '\n' :: t) = state.members front line ++
      membersBehind (front ++ (line ++ ['\n'])) (state.next (line ++ ['\n'])) t := by
  have hshape : front ++ (line ++ '\n' :: t) = front ++ (line ++ ['\n']) ++ t := by simp
  have hlength : front.length + (line ++ ['\n']).length = (front ++ (line ++ ['\n'])).length := by simp
  -- members are looked for in the line without its ending
  have hdrop : (line ++ ['\n']).dropRightWhile (fun c => c = '\r' || c = '\n') = line :=
    (List.rdropWhile_concat_pos _ _ _ (by decide)).trans h.dropRightWhile
  have hhere : (lineMembers line).filterMap (fun entry => commentedMember?
      ((front ++ (line ++ '\n' :: t)).take (front.length + entry.offset)) entry.text) =
      membersOn front line := by
    -- what stands in front of an entry stands in front of the end of the line
    refine List.filterMap_congr fun entry hentry => ?_
    have htake : (front ++ (line ++ '\n' :: t)).take (front.length + entry.offset) =
        front ++ line.take entry.offset := by
      rw [List.take_length_add_append, List.take_append_of_le_length (offset_le_of_mem_lineMembers hentry)]
    rw [htake]
  rw [membersBehind, brokenLines_line h, topLinesFrom, LineState.members, hlength]
  by_cases htop : state.atTop (line ++ ['\n']) = true
  · rw [if_pos htop, if_pos htop, List.flatMap_cons, hdrop, hhere, hshape]
    rfl
  · rw [if_neg htop, if_neg htop, List.nil_append, hshape]
    rfl

/-- The last line of a body adds its members. -/
theorem membersBehind_last (h : Unbroken last) (front : Text) (state : LineState) :
    membersBehind front state last = state.members front last := by
  have htop : state.atTop (last ++ ['\n']) = state.atTop last := by
    rw [LineState.atTop, LineState.atTop, strip_append_blank (by decide)]
  rw [membersBehind, LineState.members, htop, brokenLines_last h]
  by_cases hnil : last = []
  · subst hnil
    rw [if_pos rfl, topLinesFrom, membersOn_of_allBlank rfl, ite_self]
    rfl
  · have hhere : (lineMembers last).filterMap (fun entry => commentedMember?
        ((front ++ last).take (front.length + entry.offset)) entry.text) = membersOn front last := by
      refine List.filterMap_congr fun entry hentry => ?_
      rw [List.take_length_add_append]
    rw [if_neg hnil, topLinesFrom, List.append_nil, h.dropRightWhile]
    by_cases htop : state.atTop last = true
    · rw [if_pos htop, if_pos htop, topLinesFrom, List.flatMap_singleton]
      exact hhere
    · rw [if_neg htop, if_neg htop, topLinesFrom]
      rfl

/-- The lines of a paragraph hold its characters only. -/
theorem mem_of_mem_topLinesFrom {offset : Nat} {broken : List (Text × Text)} {segment : Segment} {c : Char}
    (h : segment ∈ topLinesFrom state offset broken) (hc : c ∈ segment.text) :
    c ∈ (broken.map fun l => l.1 ++ l.2).flatten := by
  induction broken generalizing state offset with
  | nil => cases h
  | cons l broken ih =>
    obtain ⟨line, ending⟩ := l
    rw [List.map_cons, List.flatten_cons]
    rw [topLinesFrom] at h
    split at h
    · rcases List.mem_cons.1 h with rfl | h
      · exact List.mem_append_left _ ((List.rdropWhile_prefix _ _).subset hc)
      · exact List.mem_append_right _ (ih h)
    · exact List.mem_append_right _ (ih h)

/-- A blank paragraph declares nothing. -/
theorem membersBehind_of_allBlank (h : t.allBlank = true) (front : Text) (state : LineState) :
    membersBehind front state t = [] := by
  rw [membersBehind, List.flatMap_eq_nil_iff]
  intro segment hsegment
  have hblank : segment.text.allBlank = true := by
    rw [allBlank_eq_true_iff] at h ⊢
    intro c hc
    have hin := mem_of_mem_topLinesFrom hsegment hc
    rw [flatten_brokenLines] at hin
    exact h c hin
  rw [lineMembers_of_allBlank hblank]
  rfl

/-! ## The members of a body -/

/-- A blank line declares nothing. -/
theorem members_of_allBlank (h : line.allBlank = true) (front : Text) (state : LineState) :
    state.members front line = [] := by
  rw [LineState.members, membersOn_of_allBlank h, ite_self]

theorem allBlank_of_isEmptyLine (h : isEmptyLine line = true) : line.allBlank = true := by
  refine allBlank_eq_true_iff.2 fun c hc => ?_
  have hc := List.all_eq_true.1 h c hc
  simp only [isSpaceOrTab, Bool.or_eq_true, decide_eq_true_eq] at hc
  rcases hc with rfl | rfl <;> decide

/-- Along the lines: the paragraph that is being read goes on to its end, and the other paragraphs follow. -/
theorem exists_paragraphs (hlines : ∀ line ∈ lines, Unbroken line) (front : Text) (state : LineState) :
    ∃ t others, paragraphsAfter front.reverse (join ['\n'] lines) = (front ++ t) :: others ∧
      membersBehind front state t ++ others.flatMap (membersBehind [] {}) =
        membersFrom front state lines := by
  -- no line, the last line, or a line with the next one, which ends the paragraph when it is empty
  fun_induction membersFrom front state lines with
  | case1 front state =>
    refine ⟨[], [], by rw [join_nil, paragraphsAfter, List.reverse_reverse, List.append_nil], ?_⟩
    rw [membersBehind_of_allBlank rfl]
    rfl
  | case2 front state line =>
    have hline := hlines line List.mem_cons_self
    refine ⟨line, [], by rw [join_singleton, paragraphsAfter_last hline, List.reverse_reverse], ?_⟩
    rw [membersBehind_last hline, List.flatMap_nil, List.append_nil]
  | case3 front state line next rest ih ih' =>
    have hline := hlines line List.mem_cons_self
    have hshape : join ['\n'] (line :: next :: rest) = line ++ '\n' :: join ['\n'] (next :: rest) := by simp
    -- the paragraph goes on when the next line is not empty, or is the last one
    have hon (hnone : emptyLine? (join ['\n'] (next :: rest)) = none) :
        ∃ t others, paragraphsAfter front.reverse (join ['\n'] (line :: next :: rest)) = (front ++ t) :: others ∧
          membersBehind front state t ++ others.flatMap (membersBehind [] {}) = state.members front line ++
            membersFrom (front ++ (line ++ ['\n'])) (state.next (line ++ ['\n'])) (next :: rest) := by
      obtain ⟨t, others, hparts, hmembers⟩ := ih' fun l hl => hlines l (List.mem_cons_of_mem _ hl)
      refine ⟨line ++ '\n' :: t, others, ?_, ?_⟩
      · rw [hshape, paragraphsAfter_line hline, hnone, ← List.reverse_append]
        exact hparts.trans (by simp)
      · rw [membersBehind_line hline, ← hmembers, List.append_assoc]
    by_cases hempty : isEmptyLine next = true
    · have hblank := allBlank_of_isEmptyLine hempty
      rw [if_pos hempty]
      cases rest with
      | nil =>
        have hmembers := hon (by rw [join_singleton, emptyLine?_last (hlines next (by simp))])
        rw [membersFrom, members_of_allBlank hblank] at hmembers
        rw [membersFrom]
        exact hmembers
      | cons after rest =>
        obtain ⟨t, others, hparts, hmembers⟩ := ih fun l hl => hlines l (by simp [hl])
        refine ⟨line ++ ['\n'], t :: others, ?_, ?_⟩
        · have hnext : join ['\n'] (next :: after :: rest) = next ++ '\n' :: join ['\n'] (after :: rest) := by simp
          rw [hshape, paragraphsAfter_line hline, hnext, emptyLine?_append (hlines next (by simp)),
            if_pos hempty, List.reverse_reverse]
          exact congrArg _ hparts
        · rw [membersBehind_line hline, membersBehind_of_allBlank rfl, List.append_nil, ← hmembers,
            List.flatMap_cons]
    · rw [if_neg hempty]
      refine hon ?_
      cases rest with
      | nil => rw [join_singleton, emptyLine?_last (hlines next (by simp))]
      | cons after rest =>
        have hnext : join ['\n'] (next :: after :: rest) = next ++ '\n' :: join ['\n'] (after :: rest) := by simp
        rw [hnext, emptyLine?_append (hlines next (by simp)), if_neg hempty]

/-- **The members of a body line by line.** -/
theorem membersOf_join (hlines : ∀ line ∈ lines, Unbroken line) :
    membersOf (join ['\n'] lines) = membersFrom [] {} lines := by
  obtain ⟨t, others, hparts, hmembers⟩ := exists_paragraphs hlines [] {}
  have hfilter : ∀ parts : List Text, (parts.filter fun p => !p.allBlank).flatMap (membersBehind [] {}) =
      parts.flatMap (membersBehind [] {}) := by
    intro parts
    induction parts with
    | nil => rfl
    | cons part parts ih =>
      by_cases hpart : part.allBlank = true
      · rw [List.filter_cons_of_neg (by simp [hpart]), ih, List.flatMap_cons,
          membersBehind_of_allBlank hpart, List.nil_append]
      · rw [List.filter_cons_of_pos (by simp [hpart]), List.flatMap_cons, List.flatMap_cons, ih]
  rw [membersOf_eq, paragraphs, hfilter, ← hmembers]
  exact congrArg (List.flatMap (membersBehind [] {})) hparts

/-- The paragraph in front of what stands behind the lines, and what is known behind it. -/
def behindLines (front : Text) (state : LineState) : List Text → Text × LineState
  | [] => (front, state)
  | [line] => (front ++ (line ++ ['\n']), state.next (line ++ ['\n']))
  | line :: next :: lines =>
    if isEmptyLine next then behindLines [] {} lines
    else behindLines (front ++ (line ++ ['\n'])) (state.next (line ++ ['\n'])) (next :: lines)

/-- Lines behind others add what they add behind the paragraph and the state that these leave. -/
theorem membersFrom_append (h : isEmptyLine line = false) (front : Text) (state : LineState)
    (lines rest : List Text) : membersFrom front state (lines ++ line :: rest) =
      membersFrom front state lines ++
        membersFrom (behindLines front state lines).1 (behindLines front state lines).2 (line :: rest) := by
  fun_induction membersFrom front state lines with
  | case1 front state => rfl
  | case2 front state last => rw [List.singleton_append, membersFrom, if_neg (by simp [h]), behindLines]
  | case3 front state last next lines ih ih' =>
    rw [List.cons_append, List.cons_append, membersFrom, behindLines, List.append_assoc]
    by_cases hempty : isEmptyLine next = true
    · rw [if_pos hempty, if_pos hempty, if_pos hempty, ih]
    · rw [if_neg hempty, if_neg hempty, if_neg hempty, ← List.cons_append, ih']

theorem behindLines_isSuffix (front : Text) (state : LineState) (lines : List Text) :
    (behindLines front state lines).1 <:+ front ++ laid lines := by
  fun_induction behindLines front state lines with
  | case1 front state => rw [laid_nil, List.append_nil]
  | case2 front state line => rw [laid_cons, laid_nil]
  | case3 front state line next lines hempty ih =>
    exact ih.trans ⟨front ++ (line ++ '\n' :: (next ++ ['\n'])), by simp⟩
  | case4 front state line next lines hempty ih =>
    have hshape : front ++ laid (line :: next :: lines) = front ++ (line ++ ['\n']) ++ laid (next :: lines) := by
      simp
    rw [hshape]
    exact ih

/-- A blank line at the end declares nothing. -/
theorem membersFrom_concat (hblank : last.allBlank = true) (front : Text) (state : LineState)
    (lines : List Text) : membersFrom front state (lines ++ [last]) = membersFrom front state lines := by
  fun_induction membersFrom front state lines with
  | case1 front state => exact members_of_allBlank hblank front state
  | case2 front state line =>
    rw [List.singleton_append, membersFrom, membersFrom, membersFrom, members_of_allBlank hblank, ite_self,
      List.append_nil]
  | case3 front state line next rest ih ih' =>
    rw [List.cons_append, List.cons_append, membersFrom, ih, ← List.cons_append, ih']

/-- The lines of a body with a line feed behind each; `last` is what stands behind the last line feed. -/
theorem membersOf_laid (hlines : ∀ line ∈ lines, Unbroken line) (hlast : Unbroken last)
    (hblank : last.allBlank = true) : membersOf (laid lines ++ last) = membersFrom [] {} lines := by
  have hshape : laid lines ++ last = join ['\n'] (lines ++ [last]) := by
    rw [join_append_cons, join_singleton, laid]
  rw [hshape, membersOf_join, membersFrom_concat hblank]
  exact List.forall_mem_append.2 ⟨hlines, List.forall_mem_singleton.2 hlast⟩

end ComponentBook.InterfaceDeclaration
