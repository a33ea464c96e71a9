import ComponentBook.Proofs.Property.CommentedLines
import ComponentBook.Proofs.Script.Depth

/-! # Bodies laid out on lines

What is known of open braces and comments is told line by line, from the braces of a line and from how it
starts, and is forgotten behind an empty line. It is right for a body in which no string literal, no
parenthesis and no square bracket is open at the end of a line, block comments of several lines stand on lines
of their own, no line inside braces is empty, and a line that starts with a comment or an asterisk leaves as
many braces open as there were (**`Laid`**). -/

namespace ComponentBook.InterfaceDeclaration

open Script Text

variable {front line t rest : Text} {ls lines : List Text} {depth stop : Nat}

/-! ## Lines -/

/-- A line at whose end no string literal and no comment goes on, and on which as many parentheses and square
brackets are closed as are opened. -/
structure IsClosedLine (line : Text) : Prop where
  unbroken : Unbroken line
  lexemes_eq : lexemes (line ++ ['\n']) = lexemes line ++ [.mark '\n']
  even : ∀ b, b ≠ Bracket.curly → b.delta (lexemes line) = 0

instance (line : Text) : Decidable (IsClosedLine line) :=
  decidable_of_iff (Unbroken line ∧ lexemes (line ++ ['\n']) = lexemes line ++ [.mark '\n'] ∧
      Bracket.round.delta (lexemes line) = 0 ∧ Bracket.square.delta (lexemes line) = 0)
    ⟨fun ⟨hunbroken, hlexemes, hround, hsquare⟩ => ⟨hunbroken, hlexemes, fun b hb => by
        cases b with
        | round => exact hround
        | square => exact hsquare
        | curly => exact absurd rfl hb⟩,
      fun ⟨hunbroken, hlexemes, heven⟩ =>
        ⟨hunbroken, hlexemes, heven .round (by decide), heven .square (by decide)⟩⟩

/-- Whether a line starts with a comment or like a line inside of one. -/
def startsLikeComment (line : Text) : Bool := line.strip.startsWith "/*" || line.strip.startsWith "*"

/-- Lines in front of which `depth` braces are open, and behind which `stop` braces are. -/
inductive Laid (stop : Nat) : Nat → List Text → Prop where
  /-- No line. -/
  | nil : Laid stop stop []
  /-- A line. -/
  | line {depth : Nat} {l : Text} {ls : List Text} : IsClosedLine l → (isEmptyLine l = true → depth = 0) →
      (startsLikeComment l = true → braceDelta l = 0) →
      Laid stop ((depth : Int) + braceDelta l).toNat ls → Laid stop depth (l :: ls)
  /-- A block comment on lines of its own. -/
  | comment {depth : Nat} {ls : List Text} (comment : BlockLines) : Laid stop depth ls →
      Laid stop depth (comment.lines ++ ls)

theorem Laid.unbroken (h : Laid stop depth ls) : ∀ l ∈ ls, Unbroken l := by
  induction h with
  | nil => exact nofun
  | line hl _ _ _ ih => exact List.forall_mem_cons.2 ⟨hl.unbroken, ih⟩
  | comment comment _ ih => exact List.forall_mem_append.2 ⟨comment.unbroken_lines, ih⟩

theorem Laid.cons (next : Nat) (hline : IsClosedLine line) (hempty : isEmptyLine line = true → depth = 0)
    (hcomment : startsLikeComment line = true → braceDelta line = 0)
    (hnext : ((depth : Int) + braceDelta line).toNat = next) (h : Laid stop next ls) : Laid stop depth (line :: ls) :=
  .line hline hempty hcomment (hnext ▸ h)

theorem bracketDelta_line (h : IsClosedLine line) : bracketDelta (lexemes line) = braceDelta line := by
  rw [bracketDelta, h.even .round (by decide), h.even .square (by decide), braceDelta_eq]
  omega

/-! ## The state along the lines -/

theorem strip_feed (line : Text) : (line ++ ['\n']).strip = line.strip := strip_append_blank (by decide) line

/-- A line that starts with a comment closes it. -/
theorem IsClosedLine.contains_closing (h : IsClosedLine line) (hstart : line.strip.startsWith "/*" = true) :
    contains line.strip "*/" = true := by
  obtain ⟨u, hu⟩ := startsWith_eq_true_iff.1 hstart
  obtain ⟨a, b, hline⟩ := exists_eq_strip line
  by_contra hno
  rw [contains_eq_true_iff] at hno
  -- else the comment goes on to the end of the text, and the line feed is part of it
  have hcut : cut? "*/" (u ++ (b.1 ++ ['\n'])) = none := by
    rw [cut?_eq_none_iff]
    intro hin
    have hblank : allBlank (b.1 ++ ['\n']) = true := by
      rw [allBlank_append, b.2]
      decide
    have hstop : ∀ d, (b.1 ++ ['\n']).head? = some d → d ∉ ['/'] := by
      intro d hd
      simpa using (ObjectDeclaration.not_slash_of_isBlank
        (allBlank_eq_true_iff.1 hblank d (List.mem_of_head? hd))).1
    rcases infix_or_infix_of_infix_append hstop hin with hin | hin
    · exact hno (hin.trans ⟨['/', '*'], [], by rw [← hu]; simp⟩)
    · have hstar := allBlank_eq_true_iff.1 hblank '*' (hin.subset List.mem_cons_self)
      exact absurd hstar (by decide)
  have hcomment : lexemes ('/' :: '*' :: (u ++ (b.1 ++ ['\n']))) =
      [.comment ('/' :: '*' :: (u ++ (b.1 ++ ['\n'])))] := by
    rw [lexemes, nextLexeme, comment?, hcut]
    simp [isQuote, backquote, lexemes]
  have hshape : line ++ ['\n'] = a.1 ++ '/' :: '*' :: (u ++ (b.1 ++ ['\n'])) := by
    conv_lhs => rw [hline, ← hu]
    simp
  have hblank : Code true (fun _ => false) a.1 := code_allBlank a.2
  have hlexemes := h.lexemes_eq
  have hapart : Apart a.1 ('/' :: '*' :: (u ++ (b.1 ++ ['\n']))) := apart_of_getLast? fun hlast =>
    absurd (allBlank_eq_true_iff.1 a.2 '/' (List.mem_of_getLast? hlast)) (by decide)
  rw [hshape, hblank.lexemes_append hapart, hcomment] at hlexemes
  have hlast := congrArg List.getLast? hlexemes
  rw [List.getLast?_concat, List.getLast?_concat] at hlast
  cases hlast

/-- The braces of a line count. -/
theorem IsClosedLine.next (h : IsClosedLine line)
    (hcomment : startsLikeComment line = true → braceDelta line = 0) (depth : Nat) :
    ({ depth } : LineState).next (line ++ ['\n']) = { depth := ((depth : Int) + braceDelta line).toNat } := by
  have hdelta : braceDelta (line ++ ['\n']) = braceDelta line := by
    rw [braceDelta_eq, h.lexemes_eq, braceDelta_eq]
    simp [Bracket.delta, Bracket.opening, Bracket.closing]
  have hopen : ({ depth } : LineState).commentAfter (line ++ ['\n']) = false := by
    by_cases hstart : line.strip.startsWith "/*" = true
    · simp only [LineState.commentAfter, strip_feed, hstart, h.contains_closing hstart]
      rfl
    · rw [Bool.not_eq_true] at hstart
      simp only [LineState.commentAfter, strip_feed, hstart]
      rfl
  -- the braces of a line that looks like one of a comment are not counted, which is right when they are even
  rw [LineState.next, hopen, strip_feed, hdelta]
  by_cases hlike : startsLikeComment line = true
  · have hzero := hcomment hlike
    rw [startsLikeComment, Bool.or_eq_true] at hlike
    simp only [Bool.false_or, Bool.or_eq_true, if_pos hlike, hzero]
    simp
  · rw [startsLikeComment, Bool.or_eq_true] at hlike
    simp only [Bool.false_or, Bool.or_eq_true, if_neg hlike]

/-! ## The scan along the lines -/

/-- A scan goes over a line and arrives behind its line feed. -/
theorem IsClosedLine.scansTo (h : IsClosedLine line) (rest : Text) :
    ScansTo (line ++ '\n' :: rest) (lexemes line ++ [.mark '\n']) rest := by
  have hline := (scansTo_of_lexemes h.lexemes_eq).congr_rest (replaces_cons '\n' [] rest)
  rw [textOf_lexemes] at hline
  exact hline.append (.next rfl (.here rest))

theorem isPlain_blank {c : Char} (h : isBlank c = true) : Lexeme.IsPlain (.mark c) := by
  have hne : ∀ d, isBlank d = false → c ≠ d := by
    rintro d hd rfl
    rw [h] at hd
    cases hd
  simp [Lexeme.IsPlain, Bracket.ofOpening?, Bracket.ofClosing?, hne '(' (by decide), hne '[' (by decide),
    hne '{' (by decide), hne ')' (by decide), hne ']' (by decide), hne '}' (by decide)]

/-- Blank characters are scanned one by one. -/
theorem scansTo_blank (h : t.allBlank = true) (rest : Text) : ScansTo (t ++ rest) (t.map .mark) rest := by
  induction t with
  | nil => exact .here rest
  | cons c t ih =>
    rw [allBlank_cons, Bool.and_eq_true] at h
    have hquote : isQuote c = false := by
      rw [Bool.eq_false_iff]
      intro hquote
      rw [ObjectDeclaration.not_blank_of_isQuote hquote] at h
      cases h.1
    have hapart : Apart [c] (t ++ rest) :=
      apart_of_getLast? (by simpa using (ObjectDeclaration.not_slash_of_isBlank h.1).1)
    have hnext : nextLexeme c (t ++ rest) = (.mark c, t ++ rest) := by
      rw [nextLexeme, comment?_eq_none hapart]
      simp [hquote]
    exact .next hnext (ih h.2)

theorem depthBehind_of_plain {lexemes : List Lexeme} (h : ∀ l ∈ lexemes, l.IsPlain) (depth : Nat) :
    depthBehind depth lexemes = depth := by
  induction lexemes with
  | nil => rfl
  | cons l ls ih =>
    obtain ⟨hl, hls⟩ := List.forall_mem_cons.1 h
    rw [depthBehind_cons, hl.depthAfter, ih hls]

/-- A scan goes over a block comment and arrives behind its last line feed, with no bracket in what it has
read. -/
theorem BlockLines.exists_scansTo (comment : BlockLines) (rest : Text) :
    ∃ read, ScansTo (laid comment.lines ++ rest) read rest ∧ ∀ l ∈ read, l.IsPlain := by
  have hbody : ¬ "*/".toList <:+: linesText comment.first comment.further :=
    fun hin => comment.no_closing (hin.trans (List.suffix_cons _ _).isInfix)
  have hbehind : allBlank (comment.behind.1 ++ ['\n']) = true := by
    rw [allBlank_append, comment.behind.2.1]
    decide
  have hshape : laid comment.lines ++ rest = comment.indent.1 ++ ('/' :: '*' ::
      (linesText comment.first comment.further ++ '*' :: '/' :: (comment.behind.1 ++ ['\n'] ++ rest))) := by
    rw [comment.laid_lines, text]
    simp
  have hread := lexemes_blockComment hbody (comment.behind.1 ++ ['\n'] ++ rest)
  have hcomment := scansTo_of_lexemes (hread.trans (List.singleton_append).symm)
  rw [textOf_lexemes] at hcomment
  refine ⟨_, hshape ▸ (scansTo_blank comment.indent.2.1 _).append
    (hcomment.append (scansTo_blank hbehind rest)), fun l hl => ?_⟩
  have hblank {t : Text} (ht : t.allBlank = true) (hl : l ∈ t.map Lexeme.mark) : l.IsPlain := by
    obtain ⟨c, hc, rfl⟩ := List.mem_map.1 hl
    exact isPlain_blank (allBlank_eq_true_iff.1 ht c hc)
  rcases List.mem_append.1 hl with hl | hl
  · exact hblank comment.indent.2.1 hl
  · rcases List.mem_append.1 hl with hl | hl
    · obtain rfl := List.mem_singleton.1 hl
      trivial
    · exact hblank hbehind hl

end ComponentBook.InterfaceDeclaration
