import ComponentBook.Proofs.Script.Bracket

/-! # A comment and a blank in its place

What a text is cut into is told by the lexemes alone: they are the lexemes of their own text (**`Lexed`**),
and so is every stretch of them. A blank in the place of a comment leaves the lexemes in front of the comment
and behind it as they are (**`Lexed.blank`**).

Brackets and separators are found in the same places: whether lexemes are well bracketed depends on the
brackets among them only (**`WellBracketed.of_map_eq`**), and the part of a text in which a comment stands is
the only one that is not the same with a blank there (**`exists_part_around`**). -/

namespace ComponentBook.Script

open Text

variable {isSeparator : Char → Bool} {depth : Nat} {c : Char} {b : Bracket} {t comment : Text}
  {l m : Lexeme} {ls ms front behind : List Lexeme}

/-! ## Lexemes and their text -/

/-- Lexemes that are those of their own text. -/
def Lexed (ls : List Lexeme) : Prop := lexemes (textOf ls) = ls

theorem lexed_lexemes (t : Text) : Lexed (lexemes t) := by rw [Lexed, textOf_lexemes]

/-- Lexemes behind others are those of their own text. -/
theorem Lexed.right (h : Lexed (ls ++ ms)) : Lexed ms := by
  have hsplit := (scansTo_of_lexemes h).lexemes_eq
  rw [h] at hsplit
  exact (List.append_cancel_left hsplit).symm

/-- Lexemes in front of others are those of their own text. -/
theorem Lexed.left (h : Lexed (ls ++ ms)) : Lexed ls := by
  have hscan := ((scansTo_of_lexemes h).congr_rest (replaces_nil _)).lexemes_eq
  rwa [List.append_nil, lexemes, List.append_nil] at hscan

/-- Lexemes behind those that are passed over are those of their own text. -/
theorem Lexed.dropWhile (h : Lexed ls) (p : Lexeme → Bool) : Lexed (ls.dropWhile p) := by
  rw [← List.takeWhile_append_dropWhile (p := p) (l := ls)] at h
  exact h.right

theorem Lexed.tail (h : Lexed ([l] ++ ls)) : Lexed ls := h.right

/-- The first lexeme is read first. -/
theorem Lexed.next (h : Lexed (l :: ls)) : ∃ c t, l.text ++ textOf ls = c :: t ∧
    nextLexeme c t = (l, textOf ls) := by
  rw [Lexed, textOf_cons] at h
  cases htext : l.text ++ textOf ls with
  | nil =>
    rw [htext, lexemes] at h
    cases h
  | cons c t =>
    rw [htext, lexemes] at h
    obtain ⟨hl, -⟩ := List.cons.inj h
    have happ := nextLexeme_append c t
    rw [hl, ← htext] at happ
    exact ⟨c, t, rfl, Prod.ext hl (List.append_cancel_left happ)⟩

/-- A comment is read as one. -/
theorem Lexed.comment? (h : Lexed (.comment comment :: ls)) :
    comment? (comment ++ textOf ls) = some (comment, textOf ls) := by
  obtain ⟨c, t, htext, hnext⟩ := h.next
  unfold nextLexeme at hnext
  split at hnext
  · cases (Prod.mk.inj hnext).1
  · split at hnext
    · next hcomment =>
      obtain ⟨hl, rfl⟩ := Prod.mk.inj hnext
      obtain rfl := Lexeme.comment.inj hl
      rw [← hcomment, ← htext]
      rfl
    · cases (Prod.mk.inj hnext).1

/-- A literal starts with a quote. -/
theorem Lexed.head_literal {a : Text} (h : Lexed (.literal a :: ls)) :
    ∃ quote tail, a = quote :: tail ∧ isQuote quote = true := by
  obtain ⟨c, t, -, hnext⟩ := h.next
  unfold nextLexeme at hnext
  split at hnext
  · next hquote => exact ⟨c, _, (Lexeme.literal.inj (Prod.mk.inj hnext).1).symm, hquote⟩
  · split at hnext <;> cases (Prod.mk.inj hnext).1

/-- No comment starts at a single character. -/
theorem Lexed.comment?_mark (h : Lexed (.mark c :: ls)) : Script.comment? (c :: textOf ls) = none := by
  obtain ⟨c', t, htext, hnext⟩ := h.next
  obtain ⟨rfl, rfl⟩ := List.cons.inj htext
  unfold nextLexeme at hnext
  split at hnext
  · cases (Prod.mk.inj hnext).1
  · split at hnext
    · cases (Prod.mk.inj hnext).1
    · assumption

/-- A comment starts with a slash. -/
theorem Lexed.head_comment (h : Lexed (.comment comment :: ls)) : ∃ body, comment = '/' :: body := by
  have hread := h.comment?
  unfold Script.comment? at hread
  split at hread
  · obtain ⟨rfl, -⟩ := Prod.mk.inj (Option.some.inj hread)
    exact ⟨_, rfl⟩
  · split at hread <;>
      obtain ⟨rfl, -⟩ := Prod.mk.inj (Option.some.inj hread) <;> exact ⟨_, rfl⟩
  · cases hread

/-- **A blank in place of a comment** leaves the other lexemes as they are. -/
theorem Lexed.blank (h : Lexed (front ++ .comment comment :: behind)) :
    Lexed (front ++ .mark ' ' :: behind) := by
  obtain ⟨body, rfl⟩ := h.right.head_comment
  have hreplaces : Replaces (' ' :: textOf behind) (textOf (.comment ('/' :: body) :: behind)) := by
    intro e he
    obtain rfl : ' ' = e := Option.some.inj he
    exact .inr ⟨⟨'/', rfl, by decide⟩, by decide⟩
  have hscan := ((scansTo_of_lexemes h).congr_rest hreplaces).lexemes_eq
  have hblank : lexemes (' ' :: textOf behind) = .mark ' ' :: lexemes (textOf behind) :=
    lexemes_mark (by decide) (apart_of_getLast? (by decide))
  rw [hblank, h.right.tail] at hscan
  rw [Lexed, textOf_append, textOf_cons]
  exact hscan

/-! ## Brackets -/

/-- The character of a bracket. -/
def Lexeme.bracket? : Lexeme → Option Char
  | .mark c => if (Bracket.ofOpening? c).isSome || (Bracket.ofClosing? c).isSome then some c else none
  | _ => none

theorem Lexeme.bracket?_eq_none_iff : l.bracket? = none ↔ l.IsPlain := by
  cases l with
  | literal t => exact ⟨fun _ => trivial, fun _ => rfl⟩
  | comment t => exact ⟨fun _ => trivial, fun _ => rfl⟩
  | mark c => simp [bracket?, IsPlain]

theorem Lexeme.eq_mark_of_bracket? (h : l.bracket? = some c) : l = .mark c := by
  cases l with
  | literal t => cases h
  | comment t => cases h
  | mark d =>
    rw [bracket?, Option.ite_none_right_eq_some] at h
    rw [Option.some.inj h.2]

@[simp] theorem Lexeme.bracket?_opening (b : Bracket) : (mark b.opening).bracket? = some b.opening := by
  simp [bracket?]

@[simp] theorem Lexeme.bracket?_closing (b : Bracket) : (mark b.closing).bracket? = some b.closing := by
  simp [bracket?]

/-- Only the brackets have a part in whether lexemes are well bracketed. -/
theorem WellBracketed.of_map_eq (h : WellBracketed ls)
    (hms : ms.map Lexeme.bracket? = ls.map Lexeme.bracket?) : WellBracketed ms := by
  induction h generalizing ms with
  | nil =>
    obtain rfl := List.map_eq_nil_iff.1 hms
    exact .nil
  | @plain l ls hl _ ih =>
    obtain ⟨m, ms, rfl, hm, hrest⟩ := List.map_eq_cons_iff.1 hms
    rw [Lexeme.bracket?_eq_none_iff.2 hl] at hm
    exact .plain (Lexeme.bracket?_eq_none_iff.1 hm) (ih hrest)
  | @block b body ls _ _ ihBody ih =>
    rw [List.cons_append, List.map_cons, List.map_append, List.map_cons, Lexeme.bracket?_opening,
      Lexeme.bracket?_closing] at hms
    obtain ⟨m, ms, rfl, hm, hrest⟩ := List.map_eq_cons_iff.1 hms
    obtain ⟨body', rest, rfl, hbody, hbehind⟩ := List.map_eq_append_iff.1 hrest
    obtain ⟨n, rest, rfl, hn, hlater⟩ := List.map_eq_cons_iff.1 hbehind
    rw [Lexeme.eq_mark_of_bracket? hm, Lexeme.eq_mark_of_bracket? hn]
    exact .block b (ihBody hbody) (ih hlater)

/-- Lexemes that are no brackets stand for one another. -/
theorem WellBracketed.exchange (hl : l.IsPlain) (hm : m.IsPlain)
    (h : WellBracketed (front ++ l :: behind)) : WellBracketed (front ++ m :: behind) := by
  refine h.of_map_eq ?_
  simp [Lexeme.bracket?_eq_none_iff.2 hl, Lexeme.bracket?_eq_none_iff.2 hm]

/-- Where a place stands among well-bracketed lexemes, with those in front of it and those behind it. -/
inductive WellBracketed.Cut : List Lexeme → List Lexeme → Prop where
  /-- In front of all of them. -/
  | start {ms : List Lexeme} : WellBracketed ms → Cut [] ms
  /-- Behind a lexeme that is no bracket. -/
  | plain {l : Lexeme} {ls ms : List Lexeme} : l.IsPlain → Cut ls ms → Cut (l :: ls) ms
  /-- Inside a bracket. -/
  | inside (b : Bracket) {ls ms rest : List Lexeme} : Cut ls ms → WellBracketed rest →
      Cut (.mark b.opening :: ls) (ms ++ .mark b.closing :: rest)
  /-- Behind a bracket. -/
  | behind (b : Bracket) {body ls ms : List Lexeme} : WellBracketed body → Cut ls ms →
      Cut (.mark b.opening :: (body ++ .mark b.closing :: ls)) ms

/-- Well-bracketed lexemes can be cut at every place. -/
theorem WellBracketed.cut (h : WellBracketed (ls ++ ms)) : Cut ls ms := by
  generalize hshape : ls ++ ms = all at h
  induction h generalizing ls ms with
  | nil =>
    obtain ⟨rfl, rfl⟩ := List.append_eq_nil_iff.1 hshape
    exact .start .nil
  | @plain l rest hl hrest ih =>
    cases ls with
    | nil =>
      obtain rfl : ms = l :: rest := hshape
      exact .start (.plain hl hrest)
    | cons f ls =>
      obtain ⟨rfl, hlater⟩ := List.cons.inj hshape
      exact .plain hl (ih hlater)
  | @block b body rest hbody hrest ihBody ih =>
    cases ls with
    | nil =>
      obtain rfl : ms = .mark b.opening :: body ++ .mark b.closing :: rest := hshape
      exact .start (.block b hbody hrest)
    | cons f ls =>
      obtain ⟨rfl, hlater⟩ := List.cons.inj hshape
      -- the place stands inside the block, or behind its closing bracket
      rcases List.append_eq_append_iff.1 hlater with ⟨more, rfl, rfl⟩ | ⟨later, rfl, hbehind⟩
      · exact .inside b (ihBody rfl) hrest
      · cases later with
        | nil =>
          obtain rfl : .mark b.closing :: rest = ms := hbehind
          have hend : Cut (.mark b.opening :: body) ([] ++ .mark b.closing :: rest) :=
            .inside b (ihBody (List.append_nil body)) hrest
          rwa [List.append_nil]
        | cons m later =>
          obtain ⟨rfl, rfl⟩ := List.cons.inj hbehind
          exact .behind b hbody (ih rfl)

theorem Bracket.closing_ne_opening (b b' : Bracket) : b.closing ≠ b'.opening := by
  cases b <;> cases b' <;> decide

/-- A bracket that is opened among well-bracketed lexemes is closed there. -/
theorem WellBracketed.exists_closing (h : WellBracketed (front ++ .mark b.opening :: ms)) :
    ∃ body rest, WellBracketed body ∧ ms = body ++ .mark b.closing :: rest := by
  have hcut := h.cut
  clear h
  generalize hshape : .mark b.opening :: ms = behind at hcut
  induction hcut generalizing ms with
  | @start behind hbehind =>
    cases hbehind with
    | nil => cases hshape
    | plain hl _ =>
      obtain ⟨rfl, -⟩ := List.cons.inj hshape
      have hopen := hl.1
      rw [Bracket.ofOpening?_opening] at hopen
      cases hopen
    | @block b' body rest hbody _ =>
      obtain ⟨hopen, rfl⟩ := List.cons.inj hshape
      have hsame := congrArg Bracket.ofOpening? (Lexeme.mark.inj hopen)
      rw [Bracket.ofOpening?_opening, Bracket.ofOpening?_opening] at hsame
      obtain rfl := Option.some.inj hsame
      exact ⟨body, rest, hbody, rfl⟩
  | plain _ _ ih => exact ih hshape
  | @inside b' _ inner rest _ _ ih =>
    cases inner with
    | nil => exact absurd (Lexeme.mark.inj (List.cons.inj hshape).1).symm (b'.closing_ne_opening b)
    | cons i inner =>
      obtain ⟨rfl, rfl⟩ := List.cons.inj hshape
      obtain ⟨body, more, hbody, rfl⟩ := ih rfl
      exact ⟨body, more ++ .mark b'.closing :: rest, hbody, by simp⟩
  | behind _ _ _ ih => exact ih hshape

/-! ## Parts -/

/-- The number of open brackets behind some lexemes. -/
def depthBehind (depth : Nat) (ls : List Lexeme) : Nat := ls.foldl Lexeme.depthAfter depth

@[simp] theorem depthBehind_cons (depth : Nat) (l : Lexeme) (ls : List Lexeme) :
    depthBehind depth (l :: ls) = depthBehind (l.depthAfter depth) ls := rfl

@[simp] theorem depthBehind_append (depth : Nat) (ls ms : List Lexeme) :
    depthBehind depth (ls ++ ms) = depthBehind (depthBehind depth ls) ms := List.foldl_append

@[simp] theorem Lexeme.depthAfter_opening (b : Bracket) (depth : Nat) :
    (mark b.opening).depthAfter depth = depth + 1 := by simp [depthAfter]

@[simp] theorem Lexeme.depthAfter_closing (b : Bracket) (depth : Nat) :
    (mark b.closing).depthAfter (depth + 1) = depth := by simp [depthAfter]

theorem WellBracketed.depthBehind_eq (h : WellBracketed ls) : depthBehind depth ls = depth := by
  induction h generalizing depth with
  | nil => rfl
  | plain hl _ ih => rw [depthBehind_cons, hl.depthAfter, ih]
  | block b _ _ ihBody ih => simp [ihBody, ih]

/-- In front of a place among well-bracketed lexemes no bracket is closed that was open before. -/
theorem WellBracketed.Cut.le_depthBehind (h : Cut ls ms) : depth ≤ depthBehind depth ls := by
  induction h generalizing depth with
  | start _ => exact le_rfl
  | plain hl _ ih =>
    rw [depthBehind_cons, hl.depthAfter]
    exact ih
  | inside b _ _ ih =>
    rw [depthBehind_cons, Lexeme.depthAfter_opening]
    exact (Nat.le_succ depth).trans ih
  | behind b hbody _ ih =>
    rw [depthBehind_cons, Lexeme.depthAfter_opening, depthBehind_append, hbody.depthBehind_eq, depthBehind_cons,
      Lexeme.depthAfter_closing]
    exact ih

theorem WellBracketed.le_depthBehind (h : WellBracketed (ls ++ ms)) : depth ≤ depthBehind depth ls :=
  h.cut.le_depthBehind

/-- The last part of some lexemes goes on in the first part of those behind them. -/
theorem partsTopLevel_append {init later : List Text} {last first : Text}
    (hls : partsTopLevel isSeparator depth ls = init ++ [last])
    (hms : partsTopLevel isSeparator (depthBehind depth ls) ms = first :: later) :
    partsTopLevel isSeparator depth (ls ++ ms) = init ++ (last ++ first) :: later := by
  induction ls generalizing depth init last with
  | nil =>
    obtain ⟨rfl, hlast⟩ | ⟨_, -, hnil⟩ := List.append_eq_cons_iff.1 hls.symm
    · obtain rfl := List.head_eq_of_cons_eq hlast
      exact hms
    · exact absurd hnil (by simp)
  | cons l ls ih =>
    by_cases hsep : l.separates isSeparator depth = true
    · -- the first lexeme separates, in front of the same parts as before
      have hdepth : l.depthAfter depth = depth := (Lexeme.separates_iff.1 hsep).2.1.depthAfter
      rw [depthBehind_cons, hdepth] at hms
      rw [partsTopLevel_separates hsep] at hls
      rw [List.cons_append, partsTopLevel_separates hsep]
      cases init with
      | nil => exact absurd (List.tail_eq_of_cons_eq hls) (partsTopLevel_ne_nil _ _ _)
      | cons i init =>
        obtain ⟨rfl, hrest⟩ := List.cons.inj hls
        rw [ih hrest hms]
        rfl
    · -- the first lexeme belongs to the first part, which may be the last one too
      rw [Bool.not_eq_true] at hsep
      rw [depthBehind_cons] at hms
      rw [partsTopLevel_cons hsep] at hls
      rw [List.cons_append, partsTopLevel_cons hsep]
      obtain ⟨part, parts, hparts⟩ :=
        List.exists_cons_of_ne_nil (partsTopLevel_ne_nil isSeparator (l.depthAfter depth) ls)
      rw [hparts] at hls
      cases init with
      | nil =>
        obtain ⟨rfl, rfl⟩ := List.cons.inj hls
        rw [@ih _ [] _ hparts hms, List.nil_append, List.nil_append, List.append_assoc]
        rfl
      | cons i init =>
        obtain ⟨rfl, rfl⟩ := List.cons.inj hls
        rw [@ih _ (part :: init) _ hparts hms]
        rfl

/-- The last part is the text of the last lexemes. -/
theorem exists_last_part (isSeparator : Char → Bool) (depth : Nat) (ls : List Lexeme) :
    ∃ init before inside, ls = before ++ inside ∧ (init = [] → before = []) ∧
      partsTopLevel isSeparator depth ls = init ++ [textOf inside] := by
  induction ls generalizing depth with
  | nil => exact ⟨[], [], [], rfl, fun _ => rfl, rfl⟩
  | cons l ls ih =>
    by_cases hsep : l.separates isSeparator depth = true
    · obtain ⟨init, before, inside, rfl, -, hparts⟩ := ih depth
      refine ⟨[] :: init, l :: before, inside, rfl, by simp, ?_⟩
      rw [partsTopLevel_separates hsep, hparts]
      rfl
    · obtain ⟨init, before, inside, rfl, hinit, hparts⟩ := ih (l.depthAfter depth)
      rw [partsTopLevel_cons (by simpa using hsep), hparts]
      cases init with
      | nil =>
        obtain rfl := hinit rfl
        exact ⟨[], [], l :: inside, rfl, fun _ => rfl, by rw [textOf_cons]; rfl⟩
      | cons i init => exact ⟨(l.text ++ i) :: init, l :: before, inside, rfl, by simp, rfl⟩

/-- The first part is the text of the first lexemes, up to a separator. -/
theorem exists_first_part (isSeparator : Char → Bool) (depth : Nat) (ls : List Lexeme) :
    ∃ inside after later, ls = inside ++ after ∧
      (∀ m ∈ after.head?, m.separates isSeparator (depthBehind depth inside) = true) ∧
      partsTopLevel isSeparator depth ls = textOf inside :: later := by
  induction ls generalizing depth with
  | nil => exact ⟨[], [], [], rfl, by simp, rfl⟩
  | cons l ls ih =>
    by_cases hsep : l.separates isSeparator depth = true
    · refine ⟨[], l :: ls, partsTopLevel isSeparator depth ls, rfl, ?_, ?_⟩
      · intro m hm
        obtain rfl := Option.some.inj hm
        exact hsep
      · rw [partsTopLevel_separates hsep]
        rfl
    · obtain ⟨inside, after, later, rfl, hafter, hparts⟩ := ih (l.depthAfter depth)
      refine ⟨l :: inside, after, later, rfl, hafter, ?_⟩
      rw [partsTopLevel_cons (by simpa using hsep), hparts, textOf_cons]
      rfl

/-- The part around a place in a sequence of lexemes: `inFront` are its lexemes in front of the place and
`inBack` those behind it, `earlier` are the parts in front of it and `later` those behind it. A lexeme at
the place that is no bracket and no separator belongs to the part. -/
structure IsPartAround (isSeparator : Char → Bool) (front behind : List Lexeme) (earlier : List Text)
    (inFront inBack : List Lexeme) (later : List Text) : Prop where
  /-- The part starts in front of the place. -/
  front_eq : inFront <:+ front
  /-- It ends behind the place, at a separator or with the text. -/
  behind_eq : ∃ after, behind = inBack ++ after ∧
    ∀ m ∈ after.head?, m.separates isSeparator (depthBehind 0 (front ++ inBack)) = true
  /-- What is in front of the place are the earlier parts and the start of this one. -/
  parts_front : partsTopLevel isSeparator 0 front = earlier ++ [textOf inFront]
  /-- The parts with a lexeme at the place. -/
  parts_eq : ∀ l : Lexeme, l.IsPlain → l.separates isSeparator (depthBehind 0 front) = false →
    partsTopLevel isSeparator 0 (front ++ l :: behind) = earlier ++ textOf (inFront ++ l :: inBack) :: later

/-- Around every place stands a part. -/
theorem exists_part_around (isSeparator : Char → Bool) (front behind : List Lexeme) :
    ∃ earlier inFront inBack later,
      IsPartAround isSeparator front behind earlier inFront inBack later := by
  obtain ⟨earlier, before, inFront, hfront, -, hparts⟩ := exists_last_part isSeparator 0 front
  obtain ⟨inBack, after, later, hbehind, hafter, hfirst⟩ :=
    exists_first_part isSeparator (depthBehind 0 front) behind
  refine ⟨earlier, inFront, inBack, later, ⟨before, hfront.symm⟩, ⟨after, hbehind, ?_⟩, hparts, ?_⟩
  · intro m hm
    rw [depthBehind_append]
    exact hafter m hm
  · intro l hl hsep
    have hrest : partsTopLevel isSeparator (depthBehind 0 front) (l :: behind) =
        (l.text ++ textOf inBack) :: later := by
      rw [partsTopLevel_plain hl hsep, hfirst]
      rfl
    rw [partsTopLevel_append hparts hrest, textOf_append, textOf_cons]

/-- A bracket that a part opens in front of a place is closed in the same part. -/
theorem IsPartAround.exists_closing {earlier later : List Text} {inBack opened : List Lexeme}
    (h : IsPartAround isSeparator front behind earlier (ls ++ .mark b.opening :: opened) inBack later)
    (hl : l.IsPlain) (hall : WellBracketed (front ++ l :: behind)) :
    ∃ body rest, WellBracketed body ∧ opened ++ l :: inBack = body ++ .mark b.closing :: rest := by
  obtain ⟨before, hfront⟩ := h.front_eq
  obtain ⟨after, hbehind, hafter⟩ := h.behind_eq
  have hshape : front ++ l :: behind =
      (before ++ ls) ++ .mark b.opening :: ((opened ++ l :: inBack) ++ after) := by
    rw [← hfront, hbehind]
    simp
  rw [hshape] at hall
  obtain ⟨body, rest, hbody, hclosing⟩ := hall.exists_closing
  have hinside (later' : List Lexeme) (hlater : body = (opened ++ l :: inBack) ++ later') :
      after = [] := by
    -- where the part ends the bracket is still open, so that nothing separates there
    rw [hlater] at hbody
    have hopen : depthBehind 0 (before ++ ls) + 1 ≤
        depthBehind (depthBehind 0 (before ++ ls) + 1) (opened ++ l :: inBack) := hbody.le_depthBehind
    cases after with
    | nil => rfl
    | cons m after =>
      have hsep := hafter m rfl
      have hdepth : depthBehind 0 (front ++ inBack) =
          depthBehind (depthBehind 0 (before ++ ls) + 1) (opened ++ l :: inBack) := by
        rw [← hfront]
        simp [hl.depthAfter]
      have hzero : depthBehind 0 (front ++ inBack) = 0 := (Lexeme.separates_iff.1 hsep).1
      omega
  rcases List.append_eq_append_iff.1 hclosing with ⟨later', hlater, hrest⟩ | ⟨later', hlater, hrest⟩
  · rw [hinside later' hlater] at hrest
    cases later' <;> cases hrest
  · cases later' with
    | nil =>
      rw [hinside [] (by rw [hlater]; simp)] at hrest
      cases hrest
    | cons m later' =>
      obtain ⟨rfl, -⟩ := List.cons.inj hrest
      exact ⟨body, later', hbody, hlater⟩

end ComponentBook.Script
