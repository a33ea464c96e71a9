import ComponentBook.Text.Basic

/-! # Lexemes of a script

For the purposes of finding brackets and separators a script is a sequence of string literals,
comments and single characters. **`lexemes`** cuts a text into them; nothing is lost
(`textOf_lexemes`). A literal that is not closed on its line ends before the line feed, unless it is
a template literal; an unclosed comment runs to the end of the text. -/

namespace ComponentBook.Script

/-- The quote of template literals, which may run over several lines. -/
def backquote : Char := '\x60'

/-- A character that opens a string literal. -/
def isQuote (c : Char) : Bool := c = '\'' || c = '"' || c = backquote

/-- A string literal, a comment, or any other character. -/
inductive Lexeme where
  /-- A string literal with its quotes. -/
  | literal (text : Text)
  /-- A comment with its delimiters; a line comment is without the line feed that ends it. -/
  | comment (text : Text)
  /-- A character outside literals and comments. -/
  | mark (c : Char)
  deriving DecidableEq, Repr

/-- The text that a lexeme was read from. -/
def Lexeme.text : Lexeme → Text
  | .literal t => t
  | .comment t => t
  | .mark c => [c]

/-- The text of a sequence of lexemes. -/
def textOf (ls : List Lexeme) : Text := ls.flatMap Lexeme.text

@[simp] theorem textOf_nil : textOf [] = [] := rfl

@[simp] theorem textOf_cons (l : Lexeme) (ls : List Lexeme) :
    textOf (l :: ls) = l.text ++ textOf ls := by simp [textOf]

@[simp] theorem textOf_append (ls ms : List Lexeme) :
    textOf (ls ++ ms) = textOf ls ++ textOf ms := by simp [textOf]

/-- The rest of a string literal behind its opening quote, and the text after the literal. A
backslash keeps the next character from closing the literal. -/
def literalTail (quote : Char) : Text → Text × Text
  | [] => ([], [])
  | '\\' :: c :: t =>
    let (tail, rest) := literalTail quote t
    ('\\' :: c :: tail, rest)
  | c :: t =>
    if c = quote then ([c], t)
    -- only a template literal goes on over the end of a line
    else if c = '\n' && quote ≠ backquote then ([], c :: t)
    else
      let (tail, rest) := literalTail quote t
      (c :: tail, rest)

theorem literalTail_append (quote : Char) (t : Text) :
    (literalTail quote t).1 ++ (literalTail quote t).2 = t := by
  fun_induction literalTail quote t <;> simp_all

/-- A comment at the start of a text and the text after it. -/
def comment? : Text → Option (Text × Text)
  | '/' :: '/' :: t =>
    some ('/' :: '/' :: t.takeWhile (· ≠ '\n'), t.dropWhile (· ≠ '\n'))
  | '/' :: '*' :: t =>
    match Text.cut? "*/" t with
    | some (body, rest) => some ('/' :: '*' :: body ++ "*/", rest)
    -- a comment that is not closed runs to the end of the text
    | none => some ('/' :: '*' :: t, [])
  | _ => none

theorem append_of_comment? {t a b : Text} (h : comment? t = some (a, b)) : a ++ b = t := by
  unfold comment? at h
  split at h
  · obtain ⟨rfl, rfl⟩ := Prod.mk.inj (Option.some.inj h)
    simp
  · split at h
    · next body rest hc =>
      obtain ⟨rfl, rfl⟩ := Prod.mk.inj (Option.some.inj h)
      simp [Text.eq_append_of_cut? hc]
    · obtain ⟨rfl, rfl⟩ := Prod.mk.inj (Option.some.inj h)
      simp
  · simp at h

theorem ne_nil_of_comment? {t a b : Text} (h : comment? t = some (a, b)) : a ≠ [] := by
  unfold comment? at h
  split at h
  · cases h; simp
  · split at h <;> (cases h; simp)
  · simp at h

/-- The lexeme at the start of the text `c :: t`, and the text after it. -/
def nextLexeme (c : Char) (t : Text) : Lexeme × Text :=
  if isQuote c then (.literal (c :: (literalTail c t).1), (literalTail c t).2)
  else match comment? (c :: t) with
    | some (a, rest) => (.comment a, rest)
    | none => (.mark c, t)

theorem nextLexeme_append (c : Char) (t : Text) :
    (nextLexeme c t).1.text ++ (nextLexeme c t).2 = c :: t := by
  unfold nextLexeme
  split
  · simp [Lexeme.text, literalTail_append]
  · split
    · next h => exact append_of_comment? h
    · rfl

theorem nextLexeme_text_ne_nil (c : Char) (t : Text) : (nextLexeme c t).1.text ≠ [] := by
  unfold nextLexeme
  split
  · simp [Lexeme.text]
  · split
    · next a b h => exact ne_nil_of_comment? h
    · simp [Lexeme.text]

/-- A scan always advances. -/
theorem length_nextLexeme (c : Char) (t : Text) : (nextLexeme c t).2.length ≤ t.length := by
  have happ := congrArg List.length (nextLexeme_append c t)
  have hne := List.length_pos_iff.2 (nextLexeme_text_ne_nil c t)
  simp only [List.length_append, List.length_cons] at happ
  omega

/-- The literals, comments and other characters of a text, in order. -/
def lexemes : Text → List Lexeme
  | [] => []
  | c :: t => (nextLexeme c t).1 :: lexemes (nextLexeme c t).2
termination_by t => t.length
decreasing_by
  have := length_nextLexeme c t
  simp only [List.length_cons]
  omega

/-- The lexemes of a text make up the text. -/
theorem textOf_lexemes (t : Text) : textOf (lexemes t) = t := by
  fun_induction lexemes t with
  | case1 => rfl
  | case2 c t ih => rw [textOf_cons, ih, nextLexeme_append]

end ComponentBook.Script
