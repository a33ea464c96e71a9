import ComponentBook.Script.Lexeme

/-! # Brackets

**`balancedBlock?`** reads the text between an opening bracket and the bracket that closes it, the
brackets inside string literals and comments left aside. What it accepts is stated apart from the
scan by **`WellBracketed`**. -/

namespace ComponentBook.Script

/-- The three kinds of brackets. -/
inductive Bracket where
  /-- Parentheses. -/
  | round
  /-- Square brackets. -/
  | square
  /-- Braces. -/
  | curly
  deriving DecidableEq, Repr

/-- The character that opens a bracket. -/
def Bracket.opening : Bracket → Char
  | .round => '('
  | .square => '['
  | .curly => '{'

/-- The character that closes a bracket. -/
def Bracket.closing : Bracket → Char
  | .round => ')'
  | .square => ']'
  | .curly => '}'

/-- The bracket that a character opens. -/
def Bracket.ofOpening? (c : Char) : Option Bracket :=
  if c = '(' then some .round else if c = '[' then some .square
  else if c = '{' then some .curly else none

/-- The bracket that a character closes. -/
def Bracket.ofClosing? (c : Char) : Option Bracket :=
  if c = ')' then some .round else if c = ']' then some .square
  else if c = '}' then some .curly else none

@[simp] theorem Bracket.ofOpening?_opening (b : Bracket) : ofOpening? b.opening = some b := by
  cases b <;> decide

@[simp] theorem Bracket.ofClosing?_closing (b : Bracket) : ofClosing? b.closing = some b := by
  cases b <;> decide

theorem Bracket.eq_opening_of_ofOpening? {c : Char} {b : Bracket} (h : ofOpening? c = some b) :
    c = b.opening := by
  unfold ofOpening? at h
  split at h
  · cases h; assumption
  · split at h
    · cases h; assumption
    · split at h
      · cases h; assumption
      · simp at h

theorem Bracket.eq_closing_of_ofClosing? {c : Char} {b : Bracket} (h : ofClosing? c = some b) :
    c = b.closing := by
  unfold ofClosing? at h
  split at h
  · cases h; assumption
  · split at h
    · cases h; assumption
    · split at h
      · cases h; assumption
      · simp at h

/-- A lexeme that is neither an opening nor a closing bracket. -/
def Lexeme.IsPlain : Lexeme → Prop
  | .literal _ => True
  | .comment _ => True
  | .mark c => Bracket.ofOpening? c = none ∧ Bracket.ofClosing? c = none

/-- Lexemes whose brackets are closed in order, each by its own closing character. -/
inductive WellBracketed : List Lexeme → Prop where
  /-- Nothing at all. -/
  | nil : WellBracketed []
  /-- A lexeme that is no bracket, and what follows. -/
  | plain {l : Lexeme} {ls : List Lexeme} : l.IsPlain → WellBracketed ls → WellBracketed (l :: ls)
  /-- A closed bracket around a well-bracketed part, and what follows. -/
  | block (b : Bracket) {body ls : List Lexeme} : WellBracketed body → WellBracketed ls →
      WellBracketed (.mark b.opening :: body ++ .mark b.closing :: ls)

/-- The lexemes up to the closing character of the outermost open bracket, and the lexemes after
it. The innermost open bracket is given apart from the open brackets around it. -/
def blockTail? (inner : Bracket) (around : List Bracket) :
    List Lexeme → Option (List Lexeme × List Lexeme)
  | [] => none
  | .mark c :: ls =>
    match Bracket.ofOpening? c with
    | some b => (blockTail? b (inner :: around) ls).map fun (body, rest) => (.mark c :: body, rest)
    | none =>
      match Bracket.ofClosing? c with
      | none => (blockTail? inner around ls).map fun (body, rest) => (.mark c :: body, rest)
      | some b =>
        -- brackets are closed in the order in which they were opened; any other one ends the search
        if b = inner then
          match around with
          | [] => some ([], ls)
          | inner' :: around' =>
            (blockTail? inner' around' ls).map fun (body, rest) => (.mark c :: body, rest)
        else none
  | l :: ls => (blockTail? inner around ls).map fun (body, rest) => (l :: body, rest)

/-- The text inside the bracket that `t` starts with, and the text after the bracket; `none` when
`t` starts with no opening bracket or the bracket is not closed in order. -/
def balancedBlock? : Text → Option (Text × Text)
  | [] => none
  | c :: t =>
    match Bracket.ofOpening? c with
    | none => none
    | some b => (blockTail? b [] (lexemes t)).map fun (body, rest) => (textOf body, textOf rest)

/-- The number of opening braces of a text less the number of closing ones. -/
def braceDelta (t : Text) : Int :=
  let ls := lexemes t
  (ls.count (.mark '{') : Int) - (ls.count (.mark '}') : Int)

end ComponentBook.Script
