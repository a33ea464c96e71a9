import ComponentBook.Proofs.Text.Search
import ComponentBook.Script.Segment

/-! # Code whose brackets and literals are closed

**`Code`** says of a text, apart from any scan, that its string literals, brackets and comments are closed
and that no separator stands outside of them. For such a text the scans of a script go through:

* it is cut into lexemes whatever follows (**`Code.lexemes_append`**), unless a slash at its end and what
  follows open a comment (`Apart`);
* its brackets are closed in order (**`Code.wellBracketed`**), so that a bracket around it is found
  (**`balancedBlock?_code`**) and as many braces are opened as are closed (**`Code.braceDelta`**);
* texts of that kind with separators between them are split at these and nowhere else
  (**`partsTopLevel_join`**). -/

namespace ComponentBook.Script

open Text

variable {k : Bool} {isSeparator : Char → Bool} {c d quote : Char} {a b t tail body rest : Text}
  {ls : List Lexeme}

/-! ## The shape of code -/

/-- The text of a string literal behind its opening quote, the closing quote included. A backslash keeps
the next character from closing the literal; only template literals go on behind a line feed. -/
inductive LiteralTail (quote : Char) : Text → Prop where
  /-- The closing quote. -/
  | close : LiteralTail quote [quote]
  /-- A backslash and any character. -/
  | escape (c : Char) {t : Text} : LiteralTail quote t → LiteralTail quote ('\\' :: c :: t)
  /-- Any other character. -/
  | char {c : Char} {t : Text} : c ≠ '\\' → c ≠ quote → (c = '\n' → quote = backquote) →
      LiteralTail quote t → LiteralTail quote (c :: t)

/-- A literal ends with its quote. -/
theorem LiteralTail.exists_concat (h : LiteralTail c t) : ∃ inner, t = inner ++ [c] := by
  induction h with
  | close => exact ⟨[], rfl⟩
  | escape d _ ih =>
    obtain ⟨inner, rfl⟩ := ih
    exact ⟨'\\' :: d :: inner, rfl⟩
  | @char d t _ _ _ _ ih =>
    obtain ⟨inner, rfl⟩ := ih
    exact ⟨d :: inner, rfl⟩

/-- Characters without a backslash, a line feed and the quote are the inside of a string literal. -/
theorem LiteralTail.of_plain (h : ∀ c ∈ t, c ≠ '\\' ∧ c ≠ quote ∧ c ≠ '\n') :
    LiteralTail quote (t ++ [quote]) := by
  induction t with
  | nil => exact .close
  | cons c t ih =>
    obtain ⟨hslash, hquote, hline⟩ := h c List.mem_cons_self
    exact .char hslash hquote (fun he => absurd he hline) (ih fun d hd => h d (List.mem_cons_of_mem _ hd))

/-- No comment is opened where `a` and `b` meet. -/
def Apart (a b : Text) : Prop :=
  a.getLast? = some '/' → ∀ d, b.head? = some d → d ≠ '/' ∧ d ≠ '*'

/-- Text with closed string literals and brackets, without a separator outside of them. `commented` says
whether there may be comments, which are closed: a line comment by a line feed. -/
inductive Code (commented : Bool) : (Char → Bool) → Text → Prop where
  /-- Nothing at all. -/
  | nil {isSeparator : Char → Bool} : Code commented isSeparator []
  /-- A character that is neither a quote nor a bracket nor a separator and opens no comment. -/
  | char {isSeparator : Char → Bool} {c : Char} {t : Text} :
      isQuote c = false → Bracket.ofOpening? c = none → Bracket.ofClosing? c = none →
      isSeparator c = false → Apart [c] t → Code commented isSeparator t →
      Code commented isSeparator (c :: t)
  /-- A string literal. -/
  | literal {isSeparator : Char → Bool} {quote : Char} {tail t : Text} :
      isQuote quote = true → LiteralTail quote tail → Code commented isSeparator t →
      Code commented isSeparator (quote :: (tail ++ t))
  /-- A bracket around code, in which separators may stand. -/
  | block {isSeparator : Char → Bool} (b : Bracket) {body t : Text} :
      Code commented (fun _ => false) body → Code commented isSeparator t →
      Code commented isSeparator (b.opening :: (body ++ b.closing :: t))
  /-- A block comment. -/
  | blockComment {isSeparator : Char → Bool} {body t : Text} :
      commented = true → ¬ "*/".toList <:+: body → Code commented isSeparator t →
      Code commented isSeparator ('/' :: '*' :: (body ++ '*' :: '/' :: t))
  /-- A line comment and the line feed that ends it. -/
  | lineComment {isSeparator : Char → Bool} {body t : Text} :
      commented = true → '\n' ∉ body → Code commented isSeparator ('\n' :: t) →
      Code commented isSeparator ('/' :: '/' :: (body ++ '\n' :: t))

theorem apart_of_getLast? (h : a.getLast? ≠ some '/') : Apart a b :=
  fun hlast => absurd hlast h

theorem apart_of_head (h : d ≠ '/' ∧ d ≠ '*') : Apart a (d :: t) := by
  intro _ e he
  obtain rfl : d = e := Option.some.inj he
  exact h

theorem Apart.of_append (h : Apart (a ++ b) t) : Apart b t := by
  intro hlast
  apply h
  rw [List.getLast?_append, hlast]
  rfl

theorem apart_append_right (hab : Apart a b) (hat : b = [] → Apart a t) : Apart a (b ++ t) := by
  cases b with
  | nil => exact hat rfl
  | cons d b => exact hab

/-- Code that starts with a quote starts with a literal. -/
theorem Code.exists_literal (h : Code k isSeparator (c :: t)) (hquote : isQuote c = true) :
    ∃ tail rest, t = tail ++ rest ∧ LiteralTail c tail ∧ Code k isSeparator rest := by
  generalize hshape : c :: t = u at h
  cases h with
  | nil => cases hshape
  | char hno =>
    obtain ⟨rfl, -⟩ := List.cons.inj hshape
    rw [hno] at hquote
    cases hquote
  | literal _ htail hrest =>
    obtain ⟨rfl, rfl⟩ := List.cons.inj hshape
    exact ⟨_, _, rfl, htail, hrest⟩
  | block b =>
    obtain ⟨rfl, -⟩ := List.cons.inj hshape
    cases b <;> exact absurd hquote (by decide)
  | blockComment =>
    obtain ⟨rfl, -⟩ := List.cons.inj hshape
    exact absurd hquote (by decide)
  | lineComment =>
    obtain ⟨rfl, -⟩ := List.cons.inj hshape
    exact absurd hquote (by decide)

/-- Code without comments does not start with one. -/
theorem not_code_lineComment (t : Text) : ¬ Code false isSeparator ('/' :: '/' :: t) := by
  intro h
  generalize hu : '/' :: '/' :: t = u at h
  cases h with
  | nil => cases hu
  | char _ _ _ _ hapart _ =>
    obtain ⟨rfl, rfl⟩ := List.cons.inj hu
    exact (hapart rfl '/' rfl).1 rfl
  | literal hquote _ _ =>
    obtain ⟨rfl, -⟩ := List.cons.inj hu
    exact absurd hquote (by decide)
  | block b _ _ =>
    have hopening := (List.cons.inj hu).1
    cases b <;> exact absurd hopening (by decide)
  | blockComment hcommented _ _ => cases hcommented
  | lineComment hcommented _ _ => cases hcommented

/-! ## The lexemes of code -/

theorem comment?_eq_none (h : Apart [c] t) : comment? (c :: t) = none := by
  unfold comment?
  split
  · next he =>
    obtain ⟨rfl, rfl⟩ := List.cons.inj he
    exact absurd rfl (h rfl '/' rfl).1
  · next he =>
    obtain ⟨rfl, rfl⟩ := List.cons.inj he
    exact absurd rfl (h rfl '*' rfl).2
  · rfl

theorem lexemes_mark (hquote : isQuote c = false) (h : Apart [c] t) :
    lexemes (c :: t) = .mark c :: lexemes t := by
  rw [lexemes, nextLexeme, comment?_eq_none h]
  simp [hquote]

theorem literalTail_append_of (hquote : quote ≠ '\\') (h : LiteralTail quote tail) (rest : Text) :
    literalTail quote (tail ++ rest) = (tail, rest) := by
  induction h with
  | close => simp [literalTail, hquote]
  | escape c _ ih => simp [literalTail, ih]
  | @char c t hc hne hline _ ih =>
    have hstop : ¬ (c = '\n' && quote ≠ backquote) = true := by
      simpa using hline
    rw [List.cons_append, literalTail]
    · rw [if_neg hne, if_neg hstop, ih]
    · exact fun d u he => absurd he hc

theorem isQuote_ne_backslash (h : isQuote quote = true) : quote ≠ '\\' :=
  ne_of_apply_ne isQuote (by rw [h]; decide)

theorem lexemes_literal (hquote : isQuote quote = true) (h : LiteralTail quote tail) (t : Text) :
    lexemes (quote :: (tail ++ t)) = .literal (quote :: tail) :: lexemes t := by
  rw [lexemes, nextLexeme, if_pos hquote, literalTail_append_of (isQuote_ne_backslash hquote) h]

theorem lexemes_blockComment (h : ¬ "*/".toList <:+: body) (t : Text) :
    lexemes ('/' :: '*' :: (body ++ '*' :: '/' :: t)) =
      .comment ('/' :: '*' :: (body ++ "*/")) :: lexemes t := by
  have hcut : cut? "*/" (body ++ '*' :: '/' :: t) = some (body, t) := cut?_of_absent (by decide) h t
  rw [lexemes, nextLexeme, comment?, hcut]
  simp [isQuote, backquote]

theorem lexemes_lineComment (h : '\n' ∉ body) (ht : ∀ d, t.head? = some d → d = '\n') :
    lexemes ('/' :: '/' :: (body ++ t)) = .comment ('/' :: '/' :: body) :: lexemes t := by
  have hbody : ∀ c ∈ body, decide (c ≠ '\n') = true := by
    intro c hc
    simpa using ne_of_mem_of_not_mem hc h
  have hstop : ∀ d, t.head? = some d → decide (d ≠ '\n') = false := by
    intro d hd
    simpa using ht d hd
  rw [lexemes, nextLexeme, comment?, takeWhile_append_of_stop hbody hstop,
    dropWhile_append_of_stop hbody hstop]
  simp [isQuote, backquote]

@[simp] theorem Bracket.isQuote_opening (b : Bracket) : isQuote b.opening = false := by
  cases b <;> decide

@[simp] theorem Bracket.isQuote_closing (b : Bracket) : isQuote b.closing = false := by
  cases b <;> decide

@[simp] theorem Bracket.ofOpening?_closing (b : Bracket) : ofOpening? b.closing = none := by
  cases b <;> decide

@[simp] theorem Bracket.ofClosing?_opening (b : Bracket) : ofClosing? b.opening = none := by
  cases b <;> decide

theorem Bracket.closing_ne (b : Bracket) : b.closing ≠ '/' ∧ b.closing ≠ '*' := by
  cases b <;> decide

theorem lexemes_opening (b : Bracket) (t : Text) :
    lexemes (b.opening :: t) = .mark b.opening :: lexemes t :=
  lexemes_mark b.isQuote_opening (apart_of_getLast? (by cases b <;> decide))

theorem lexemes_closing (b : Bracket) (t : Text) :
    lexemes (b.closing :: t) = .mark b.closing :: lexemes t :=
  lexemes_mark b.isQuote_closing (apart_of_getLast? (by cases b <;> decide))

/-- Code is cut into its own lexemes when it opens no comment with what follows. -/
theorem Code.lexemes_append (h : Code k isSeparator t) (hrest : Apart t rest) :
    lexemes (t ++ rest) = lexemes t ++ lexemes rest := by
  induction h generalizing rest with
  | nil => simp [lexemes]
  | @char _ c t hquote _ _ _ hc _ ih =>
    have ht : Apart [c] (t ++ rest) := by
      refine apart_append_right hc ?_
      rintro rfl
      exact hrest
    rw [List.cons_append, lexemes_mark hquote ht, lexemes_mark hquote hc,
      ih (Apart.of_append (a := [c]) hrest), List.cons_append]
  | @literal _ quote tail t hquote htail _ ih =>
    have ht : Apart t rest := Apart.of_append (a := quote :: tail) (by simpa using hrest)
    have hshape : quote :: (tail ++ t) ++ rest = quote :: (tail ++ (t ++ rest)) := by simp
    rw [hshape, lexemes_literal hquote htail, lexemes_literal hquote htail, ih ht, List.cons_append]
  | @block _ b body t _ _ ihBody ih =>
    have ht : Apart t rest := Apart.of_append (a := b.opening :: (body ++ [b.closing])) (by simpa using hrest)
    have hshape : b.opening :: (body ++ b.closing :: t) ++ rest =
        b.opening :: (body ++ b.closing :: (t ++ rest)) := by simp
    -- the body is followed by its closing bracket both times, with which it opens no comment
    rw [hshape, lexemes_opening, lexemes_opening, ihBody (apart_of_head b.closing_ne),
      ihBody (apart_of_head b.closing_ne), lexemes_closing, lexemes_closing, ih ht]
    simp
  | @blockComment _ body t _ hbody _ ih =>
    have ht : Apart t rest :=
      Apart.of_append (a := '/' :: '*' :: (body ++ "*/")) (by simpa using hrest)
    have hshape : '/' :: '*' :: (body ++ '*' :: '/' :: t) ++ rest =
        '/' :: '*' :: (body ++ '*' :: '/' :: (t ++ rest)) := by simp
    rw [hshape, lexemes_blockComment hbody, lexemes_blockComment hbody, ih ht, List.cons_append]
  | @lineComment _ body t _ hbody _ ih =>
    have ht : Apart ('\n' :: t) rest :=
      Apart.of_append (a := '/' :: '/' :: body) (by simpa using hrest)
    have hshape : '/' :: '/' :: (body ++ '\n' :: t) ++ rest =
        '/' :: '/' :: (body ++ ('\n' :: t ++ rest)) := by simp
    rw [hshape, lexemes_lineComment hbody (by simp), lexemes_lineComment hbody (by simp), ih ht,
      List.cons_append]

/-! ## Brackets -/

theorem WellBracketed.append (ha : WellBracketed ls) {ms : List Lexeme} (hb : WellBracketed ms) :
    WellBracketed (ls ++ ms) := by
  induction ha with
  | nil => exact hb
  | plain hl _ ih => exact .plain hl ih
  | @block b body ls hbody _ _ ih =>
    have hshape : .mark b.opening :: body ++ .mark b.closing :: ls ++ ms =
        .mark b.opening :: body ++ .mark b.closing :: (ls ++ ms) := by simp
    rw [hshape]
    exact .block b hbody ih

/-- The brackets of code are closed in order. -/
theorem Code.wellBracketed (h : Code k isSeparator t) : WellBracketed (lexemes t) := by
  induction h with
  | nil =>
    rw [lexemes]
    exact .nil
  | char hquote hopen hclose _ hc _ ih =>
    rw [lexemes_mark hquote hc]
    exact .plain ⟨hopen, hclose⟩ ih
  | literal hquote htail _ ih =>
    rw [lexemes_literal hquote htail]
    exact .plain trivial ih
  | @block _ b body t hbody _ ihBody ih =>
    rw [lexemes_opening, hbody.lexemes_append (apart_of_head b.closing_ne), lexemes_closing]
    exact .block b ihBody ih
  | blockComment _ hbody _ ih =>
    rw [lexemes_blockComment hbody]
    exact .plain trivial ih
  | lineComment _ hbody _ ih =>
    rw [lexemes_lineComment hbody (by simp)]
    exact .plain trivial ih

/-- Lexemes whose brackets are closed are passed over in the search for the end of a bracket. -/
theorem blockTail?_append (h : WellBracketed ls) (inner : Bracket) (around : List Bracket)
    (ms : List Lexeme) :
    blockTail? inner around (ls ++ ms) =
      (blockTail? inner around ms).map fun found => (ls ++ found.1, found.2) := by
  induction h generalizing inner around ms with
  | nil => simp
  | @plain l ls hl _ ih =>
    cases l with
    | literal t => simp [blockTail?, ih, Function.comp_def]
    | comment t => simp [blockTail?, ih, Function.comp_def]
    | mark c => simp [blockTail?, hl.1, hl.2, ih, Function.comp_def]
  | @block b body ls _ _ ihBody ih =>
    have hshape : .mark b.opening :: body ++ .mark b.closing :: ls ++ ms =
        .mark b.opening :: (body ++ .mark b.closing :: (ls ++ ms)) := by simp
    rw [hshape]
    simp [blockTail?, ihBody, ih, Function.comp_def]

/-- A bracket around code is found. -/
theorem balancedBlock?_code (h : Code k (fun _ => false) t) (b : Bracket) (rest : Text) :
    balancedBlock? (b.opening :: (t ++ b.closing :: rest)) = some (t, rest) := by
  have hend : blockTail? b [] (.mark b.closing :: lexemes rest) = some ([], lexemes rest) := by
    simp [blockTail?]
  rw [balancedBlock?, Bracket.ofOpening?_opening, h.lexemes_append (apart_of_head b.closing_ne),
    lexemes_closing]
  simp [blockTail?_append h.wellBracketed, hend, textOf_lexemes]

/-- Well-bracketed lexemes open as many braces as they close. -/
theorem WellBracketed.count_braces (h : WellBracketed ls) :
    ls.count (.mark '{') = ls.count (.mark '}') := by
  induction h with
  | nil => rfl
  | @plain l ls hl _ ih =>
    have hopen : l ≠ .mark '{' := by
      rintro rfl
      exact absurd hl.1 (by decide)
    have hclose : l ≠ .mark '}' := by
      rintro rfl
      exact absurd hl.2 (by decide)
    rw [List.count_cons_of_ne hopen, List.count_cons_of_ne hclose, ih]
  | @block b body ls _ _ ihBody ih =>
    simp only [List.cons_append, List.count_cons, List.count_append, ihBody, ih]
    cases b <;> simp [Bracket.opening, Bracket.closing]
    omega

theorem Code.braceDelta (h : Code k isSeparator t) : braceDelta t = 0 := by
  simp [Script.braceDelta, h.wellBracketed.count_braces]

/-! ## Separators -/

/-- The parts of a text with `s` in front. -/
def prepend (s : Text) : List Text → List Text
  | [] => [s]
  | part :: parts => (s ++ part) :: parts

theorem prepend_append (a b : Text) (parts : List Text) :
    prepend (a ++ b) parts = prepend a (prepend b parts) := by
  cases parts <;> simp [prepend]

theorem partsTopLevel_ne_nil (isSeparator : Char → Bool) (depth : Nat) (ls : List Lexeme) :
    partsTopLevel isSeparator depth ls ≠ [] := by
  cases ls with
  | nil => simp [partsTopLevel]
  | cons l ls =>
    rw [partsTopLevel]
    split
    · simp
    · split <;> simp

theorem prepend_nil (isSeparator : Char → Bool) (depth : Nat) (ls : List Lexeme) :
    prepend [] (partsTopLevel isSeparator depth ls) = partsTopLevel isSeparator depth ls := by
  cases h : partsTopLevel isSeparator depth ls with
  | nil => exact absurd h (partsTopLevel_ne_nil _ _ _)
  | cons part parts => rfl

theorem Lexeme.IsPlain.depthAfter {depth : Nat} {l : Lexeme} (hl : l.IsPlain) : l.depthAfter depth = depth := by
  cases l with
  | literal t => rfl
  | comment t => rfl
  | mark c => simp [Lexeme.depthAfter, hl.1, hl.2]

/-- Only a character separates, outside all brackets, and it is no bracket itself. -/
theorem Lexeme.separates_iff {depth : Nat} {l : Lexeme} : l.separates isSeparator depth = true ↔
    depth = 0 ∧ l.IsPlain ∧ ∃ c, l = .mark c ∧ isSeparator c = true := by
  cases l with
  | literal t => simp [separates]
  | comment t => simp [separates]
  | mark c => simp [separates, IsPlain, and_assoc, and_left_comm, and_comm]

/-- A lexeme that separates starts a new part. -/
theorem partsTopLevel_separates {depth : Nat} {l : Lexeme} (h : l.separates isSeparator depth = true) :
    partsTopLevel isSeparator depth (l :: ls) = [] :: partsTopLevel isSeparator depth ls := by
  rw [partsTopLevel, if_pos h]

theorem partsTopLevel_cons {depth : Nat} {l : Lexeme} (h : l.separates isSeparator depth = false) :
    partsTopLevel isSeparator depth (l :: ls) =
      prepend l.text (partsTopLevel isSeparator (l.depthAfter depth) ls) := by
  rw [partsTopLevel, if_neg (by simp [h])]
  cases partsTopLevel isSeparator (l.depthAfter depth) ls <;> rfl

/-- A lexeme that is no bracket and does not separate. -/
theorem partsTopLevel_plain {depth : Nat} {l : Lexeme} (hl : l.IsPlain)
    (h : l.separates isSeparator depth = false) :
    partsTopLevel isSeparator depth (l :: ls) = prepend l.text (partsTopLevel isSeparator depth ls) := by
  rw [partsTopLevel_cons h, hl.depthAfter]

theorem partsTopLevel_opening (b : Bracket) (depth : Nat) :
    partsTopLevel isSeparator depth (.mark b.opening :: ls) =
      prepend [b.opening] (partsTopLevel isSeparator (depth + 1) ls) := by
  rw [partsTopLevel_cons] <;> simp [Lexeme.separates, Lexeme.depthAfter, Lexeme.text]

theorem partsTopLevel_closing (b : Bracket) (depth : Nat) :
    partsTopLevel isSeparator (depth + 1) (.mark b.closing :: ls) =
      prepend [b.closing] (partsTopLevel isSeparator depth ls) := by
  rw [partsTopLevel_cons] <;> simp [Lexeme.separates, Lexeme.depthAfter, Lexeme.text]

/-- Inside a bracket nothing separates. -/
theorem partsTopLevel_inside (h : WellBracketed ls) (depth : Nat) (ms : List Lexeme) :
    partsTopLevel isSeparator (depth + 1) (ls ++ ms) =
      prepend (textOf ls) (partsTopLevel isSeparator (depth + 1) ms) := by
  induction h generalizing depth ms with
  | nil => exact (prepend_nil _ _ _).symm
  | @plain l ls hl _ ih =>
    have hkeep : l.separates isSeparator (depth + 1) = false := by
      cases l <;> simp [Lexeme.separates]
    rw [List.cons_append, partsTopLevel_plain hl hkeep, ih, textOf_cons, prepend_append]
  | @block b body ls _ _ ihBody ih =>
    have hshape : .mark b.opening :: body ++ .mark b.closing :: ls ++ ms =
        .mark b.opening :: (body ++ .mark b.closing :: (ls ++ ms)) := by simp
    have htext : textOf (.mark b.opening :: body ++ .mark b.closing :: ls) =
        [b.opening] ++ (textOf body ++ ([b.closing] ++ textOf ls)) := by simp [Lexeme.text]
    rw [hshape, partsTopLevel_opening, ihBody, partsTopLevel_closing, ih, htext, prepend_append,
      prepend_append, prepend_append]

/-- No separator stands in code at the top level. -/
theorem Code.partsTopLevel_append (h : Code k isSeparator t) (ms : List Lexeme) :
    partsTopLevel isSeparator 0 (lexemes t ++ ms) = prepend t (partsTopLevel isSeparator 0 ms) := by
  induction h generalizing ms with
  | nil =>
    rw [lexemes]
    exact (prepend_nil _ _ _).symm
  | @char isSeparator c t hquote hopen hclose hsep hc _ ih =>
    have hkeep : (Lexeme.mark c).separates isSeparator 0 = false := by simp [Lexeme.separates, hsep]
    have hplain : (Lexeme.mark c).IsPlain := ⟨hopen, hclose⟩
    rw [lexemes_mark hquote hc, List.cons_append, partsTopLevel_plain hplain hkeep, ih,
      ← prepend_append]
    rfl
  | @literal _ quote tail t hquote htail _ ih =>
    have hplain : (Lexeme.literal (quote :: tail)).IsPlain := trivial
    rw [lexemes_literal hquote htail, List.cons_append, partsTopLevel_plain hplain rfl, ih,
      ← prepend_append]
    rfl
  | @block _ b body t hbody ht ihBody ih =>
    have htext : b.opening :: (body ++ b.closing :: t) = [b.opening] ++ (body ++ ([b.closing] ++ t)) := by
      simp
    rw [lexemes_opening, hbody.lexemes_append (apart_of_head b.closing_ne), lexemes_closing,
      List.cons_append, List.append_assoc, List.cons_append, partsTopLevel_opening,
      partsTopLevel_inside hbody.wellBracketed, textOf_lexemes, partsTopLevel_closing, ih, htext,
      prepend_append, prepend_append, prepend_append]
  | @blockComment _ body t _ hbody _ ih =>
    have hplain : (Lexeme.comment ('/' :: '*' :: (body ++ "*/"))).IsPlain := trivial
    rw [lexemes_blockComment hbody, List.cons_append, partsTopLevel_plain hplain rfl, ih,
      ← prepend_append]
    simp [Lexeme.text]
  | @lineComment _ body t _ hbody _ ih =>
    have hplain : (Lexeme.comment ('/' :: '/' :: body)).IsPlain := trivial
    rw [lexemes_lineComment hbody (by simp), List.cons_append, partsTopLevel_plain hplain rfl, ih,
      ← prepend_append]
    simp [Lexeme.text]

/-- A character that separates and plays no other part. -/
structure IsSeparator (isSeparator : Char → Bool) (c : Char) : Prop where
  separates : isSeparator c = true
  no_quote : isQuote c = false
  no_opening : Bracket.ofOpening? c = none
  no_closing : Bracket.ofClosing? c = none
  no_comment : c ≠ '/' ∧ c ≠ '*'

/-- A separator starts a new part. -/
theorem IsSeparator.partsTopLevel_cons (hc : IsSeparator isSeparator c) (ht : Code k isSeparator t)
    (rest : Text) :
    partsTopLevel isSeparator 0 (lexemes (t ++ c :: rest)) =
      t :: partsTopLevel isSeparator 0 (lexemes rest) := by
  have hsep : (Lexeme.mark c).separates isSeparator 0 = true :=
    Lexeme.separates_iff.2 ⟨rfl, ⟨hc.no_opening, hc.no_closing⟩, c, rfl, hc.separates⟩
  have hapart : Apart [c] rest := apart_of_getLast? (by simpa using hc.no_comment.1)
  rw [ht.lexemes_append (apart_of_head hc.no_comment), ht.partsTopLevel_append,
    lexemes_mark hc.no_quote hapart, partsTopLevel_separates hsep]
  simp [prepend]

theorem Code.partsTopLevel_eq (ht : Code k isSeparator t) :
    partsTopLevel isSeparator 0 (lexemes t) = [t] := by
  have h := ht.partsTopLevel_append []
  simpa [partsTopLevel, prepend] using h

/-- Nothing separates in a line comment. -/
theorem Code.partsTopLevel_lineComment (h : Code k isSeparator t) (hlast : t.getLast? ≠ some '/')
    (hbody : '\n' ∉ body) : partsTopLevel isSeparator 0 (lexemes (t ++ '/' :: '/' :: body)) =
      [t ++ '/' :: '/' :: body] := by
  have hcomment : lexemes ('/' :: '/' :: body) = [.comment ('/' :: '/' :: body)] := by
    have h := lexemes_lineComment (t := []) hbody (by simp)
    rwa [List.append_nil, lexemes] at h
  have hplain : (Lexeme.comment ('/' :: '/' :: body)).IsPlain := trivial
  rw [h.lexemes_append (apart_of_getLast? hlast), hcomment, h.partsTopLevel_append,
    partsTopLevel_plain hplain rfl, partsTopLevel]
  simp [prepend, Lexeme.text]

/-- Code with separators between its parts is split at these. -/
theorem partsTopLevel_join (hc : IsSeparator isSeparator c) {parts : List Text} (hne : parts ≠ [])
    (h : ∀ part ∈ parts, Code k isSeparator part) :
    partsTopLevel isSeparator 0 (lexemes (join [c] parts)) = parts := by
  induction parts with
  | nil => exact absurd rfl hne
  | cons part parts ih =>
    have hpart := h part List.mem_cons_self
    cases parts with
    | nil => exact hpart.partsTopLevel_eq
    | cons next parts =>
      have hrest := ih (by simp) fun p hp => h p (List.mem_cons_of_mem _ hp)
      rw [join_cons_cons, List.append_assoc, List.singleton_append, hc.partsTopLevel_cons hpart, hrest]

theorem map_text_placeParts (offset : Nat) (parts : List Text) :
    (placeParts offset parts).map Segment.text = parts := by
  induction parts generalizing offset with
  | nil => rfl
  | cons part parts ih => rw [placeParts, List.map_cons, ih]

/-- The texts of the segments are the parts that are not blank, as they stand in the text. -/
theorem map_text_splitTopLevel (isSeparator : Char → Bool) (t : Text) :
    (splitTopLevel isSeparator t).map Segment.text =
      (partsTopLevel isSeparator 0 (lexemes t)).filter fun part => !part.allBlank := by
  have h := List.filter_map (p := fun part => !allBlank part) (f := Segment.text)
    (l := placeParts 0 (partsTopLevel isSeparator 0 (lexemes t)))
  rw [map_text_placeParts] at h
  exact h.symm

/-- What is looked for in no blank part is looked for in all parts, in order. -/
theorem findSome?_splitTopLevel {α : Type} {f : Text → Option α}
    (hf : ∀ part, allBlank part = true → f part = none) (isSeparator : Char → Bool) (t : Text) :
    ((splitTopLevel isSeparator t).findSome? fun segment => f segment.text) =
      (partsTopLevel isSeparator 0 (lexemes t)).findSome? f := by
  have hmap := List.findSome?_map (f := Segment.text) (p := f) (l := splitTopLevel isSeparator t)
  refine hmap.symm.trans ?_
  rw [map_text_splitTopLevel]
  generalize partsTopLevel isSeparator 0 (lexemes t) = parts
  induction parts with
  | nil => rfl
  | cons part parts ih =>
    by_cases hblank : part.allBlank = true
    · rw [List.filter_cons_of_neg (by simp [hblank]), ih, List.findSome?_cons, hf part hblank]
    · rw [List.filter_cons_of_pos (by simpa using hblank), List.findSome?_cons, List.findSome?_cons, ih]

/-- The segments of parts with separators between them are the parts that are not blank. -/
theorem map_text_splitTopLevel_join (hc : IsSeparator isSeparator c) {parts : List Text}
    (h : ∀ part ∈ parts, Code k isSeparator part) :
    (splitTopLevel isSeparator (join [c] parts)).map Segment.text =
      parts.filter fun part => !part.allBlank := by
  rw [map_text_splitTopLevel]
  by_cases hne : parts = []
  · rw [hne, join_nil, lexemes]
    rfl
  · rw [partsTopLevel_join hc hne h]

/-! ## Putting code together -/

theorem Code.append (ha : Code k isSeparator a) (hb : Code k isSeparator b) (h : Apart a b) :
    Code k isSeparator (a ++ b) := by
  induction ha with
  | nil => exact hb
  | @char _ c t hquote hopen hclose hsep hc _ ih =>
    have ht : Apart [c] (t ++ b) := by
      refine apart_append_right hc ?_
      rintro rfl
      exact h
    exact .char hquote hopen hclose hsep ht (ih hb (Apart.of_append (a := [c]) h))
  | @literal _ quote tail t hquote htail _ ih =>
    have ht : Apart t b := Apart.of_append (a := quote :: tail) (by simpa using h)
    have hshape : quote :: (tail ++ t) ++ b = quote :: (tail ++ (t ++ b)) := by simp
    rw [hshape]
    exact .literal hquote htail (ih hb ht)
  | @block _ bracket body t hbody _ _ ih =>
    have ht : Apart t b :=
      Apart.of_append (a := bracket.opening :: (body ++ [bracket.closing])) (by simpa using h)
    have hshape : bracket.opening :: (body ++ bracket.closing :: t) ++ b =
        bracket.opening :: (body ++ bracket.closing :: (t ++ b)) := by simp
    rw [hshape]
    exact .block bracket hbody (ih hb ht)
  | @blockComment _ body t hk hbody _ ih =>
    have ht : Apart t b :=
      Apart.of_append (a := '/' :: '*' :: (body ++ "*/")) (by simpa using h)
    have hshape : '/' :: '*' :: (body ++ '*' :: '/' :: t) ++ b =
        '/' :: '*' :: (body ++ '*' :: '/' :: (t ++ b)) := by simp
    rw [hshape]
    exact .blockComment hk hbody (ih hb ht)
  | @lineComment _ body t hk hbody _ ih =>
    have ht : Apart ('\n' :: t) b := Apart.of_append (a := '/' :: '/' :: body) (by simpa using h)
    have hshape : '/' :: '/' :: (body ++ '\n' :: t) ++ b =
        '/' :: '/' :: (body ++ '\n' :: (t ++ b)) := by simp
    rw [hshape]
    exact .lineComment hk hbody (ih hb ht)

/-- Fewer separators and more comments are allowed. -/
theorem Code.mono {k' : Bool} {isSeparator' : Char → Bool} (h : Code k isSeparator t)
    (hk : k = true → k' = true) (hsep : ∀ c, isSeparator c = false → isSeparator' c = false) :
    Code k' isSeparator' t := by
  induction h generalizing isSeparator' with
  | nil => exact .nil
  | char hquote hopen hclose hno hc _ ih => exact .char hquote hopen hclose (hsep _ hno) hc (ih hsep)
  | literal hquote htail _ ih => exact .literal hquote htail (ih hsep)
  | block bracket _ _ ihBody ih => exact .block bracket (ihBody fun _ h => h) (ih hsep)
  | blockComment h hbody _ ih => exact .blockComment (hk h) hbody (ih hsep)
  | lineComment h hbody _ ih => exact .lineComment (hk h) hbody (ih hsep)

/-- The characters that play a part in a script. -/
def specialChars : List Char := ['\'', '"', '\x60', '(', ')', '[', ']', '{', '}', '/']

/-- A character that plays no part separates the parts between its places. -/
theorem isSeparator_of_inert (h : c ∉ '*' :: specialChars) : IsSeparator (· == c) c := by
  simp only [specialChars, List.mem_cons, List.not_mem_nil, or_false, not_or] at h
  exact {
    separates := by simp
    no_quote := by simp [isQuote, backquote, h]
    no_opening := by simp [Bracket.ofOpening?, h]
    no_closing := by simp [Bracket.ofClosing?, h]
    no_comment := by simp [h] }

/-- Characters that play no part are code. -/
theorem Code.of_inert (h : ∀ c ∈ t, c ∉ specialChars ∧ isSeparator c = false) :
    Code k isSeparator t := by
  induction t with
  | nil => exact .nil
  | cons c t ih =>
    obtain ⟨hc, hsep⟩ := h c List.mem_cons_self
    simp only [specialChars, List.mem_cons, List.not_mem_nil, or_false, not_or] at hc
    have hapart : Apart [c] t := apart_of_getLast? (by simp [hc])
    refine .char ?_ ?_ ?_ hsep hapart (ih fun d hd => h d (List.mem_cons_of_mem _ hd))
    · simp [isQuote, backquote, hc]
    · simp [Bracket.ofOpening?, hc]
    · simp [Bracket.ofClosing?, hc]

theorem apart_of_inert (h : ∀ c ∈ a, c ∉ specialChars) : Apart a b := by
  apply apart_of_getLast?
  intro hlast
  exact h '/' (List.mem_of_getLast? hlast) (by decide)

/-- Code behind characters that play no part. -/
theorem Code.inert_append (ha : ∀ c ∈ a, c ∉ specialChars ∧ isSeparator c = false)
    (hb : Code k isSeparator b) : Code k isSeparator (a ++ b) :=
  (Code.of_inert ha).append hb (apart_of_inert fun c hc => (ha c hc).1)

/-- A class of characters of which none plays a part. -/
theorem not_mem_specialChars {p : Char → Bool} (hp : specialChars.all fun s => !p s) (hc : p c = true) :
    c ∉ specialChars := by
  intro hin
  simpa [hc] using List.all_eq_true.1 hp c hin

theorem not_mem_specialChars_of_isBlank (h : isBlank c = true) : c ∉ specialChars :=
  not_mem_specialChars (p := isBlank) (by decide) h

/-- Blank text is code. -/
theorem Code.of_allBlank (hsep : ∀ c, isBlank c = true → isSeparator c = false)
    (h : t.allBlank = true) : Code k isSeparator t := by
  refine .of_inert fun c hc => ?_
  have hblank : isBlank c = true := List.all_eq_true.1 h c hc
  exact ⟨not_mem_specialChars_of_isBlank hblank, hsep c hblank⟩

/-- Code with separators between its parts is code in which no separator is looked for. -/
theorem code_join {parts : List Text} (hc : IsSeparator isSeparator c)
    (h : ∀ part ∈ parts, Code k isSeparator part) : Code k (fun _ => false) (join [c] parts) := by
  have hfree (part : Text) (hpart : Code k isSeparator part) : Code k (fun _ => false) part :=
    hpart.mono id fun _ _ => rfl
  induction parts with
  | nil => exact .nil
  | cons part parts ih =>
    have hpart := hfree part (h part List.mem_cons_self)
    cases parts with
    | nil => exact hpart
    | cons next parts =>
      have hrest := ih fun p hp => h p (List.mem_cons_of_mem _ hp)
      rw [join_cons_cons, List.append_assoc]
      refine hpart.append ?_ (apart_of_head hc.no_comment)
      exact .char hc.no_quote hc.no_opening hc.no_closing rfl
        (apart_of_getLast? (by simpa using hc.no_comment.1)) hrest

end ComponentBook.Script
