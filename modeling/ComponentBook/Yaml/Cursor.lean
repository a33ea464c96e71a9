import ComponentBook.Text.Basic
import ComponentBook.Yaml.Fault

/-! # Reading a document

A **`Cursor`** stands at a place of a document: it holds the text from there on, the column, the line
and the number of characters in front of it. Documents are read with line feeds as their line ends;
three further characters end a line as well. Reading ends with a **`Problem`** when the document is
malformed or names a character that does not exist. -/

namespace ComponentBook.Yaml

/-- Why a document cannot be read. -/
inductive Problem where
  /-- It is not well written. -/
  | malformed
  /-- It names a value that does not exist. -/
  | fault (cause : Fault)
  deriving DecidableEq, Repr

/-- A result of reading. -/
abbrev Reading (α : Type) := Except Problem α

/-- A character that ends a line. -/
def isBreak (c : Char) : Bool := c = '\n' || c = '\u0085' || c = '\u2028' || c = '\u2029'

/-- A character that ends a line, or the end of the document. -/
def endsLine : Option Char → Bool
  | none => true
  | some c => isBreak c

/-- A blank, a character that ends a line, or the end of the document. -/
def endsWord : Option Char → Bool
  | none => true
  | some c => c = ' ' || c = '\t' || isBreak c

/-- A space, a character that ends a line, or the end of the document. -/
def endsSpaced : Option Char → Bool
  | none => true
  | some c => c = ' ' || isBreak c

/-- A letter, a digit, a hyphen or an underscore of ASCII. -/
def isNameChar (c : Char) : Bool := c.isAlphanum || c = '-' || c = '_'

/-- A place of a document. -/
structure Cursor where
  /-- The text from the place on. -/
  rest : Text
  column : Nat := 0
  line : Nat := 0
  /-- The number of characters in front of the place. -/
  index : Nat := 0
  deriving DecidableEq, Repr

namespace Cursor

/-- The character at a place. -/
def peek (c : Cursor) : Option Char := c.rest.head?

/-- The character so many places further on. -/
def peekAt (c : Cursor) (n : Nat) : Option Char := (c.rest.drop n).head?

/-- The character at a place is `x`. -/
def sees (c : Cursor) (x : Char) : Bool := c.peek = some x

/-- The next place. A mark of byte order takes no column. -/
def next (c : Cursor) : Cursor :=
  match c.rest with
  | [] => c
  | x :: rest =>
    if isBreak x then { rest, column := 0, line := c.line + 1, index := c.index + 1 }
    else { c with rest, column := if x = '\uFEFF' then c.column else c.column + 1
                  index := c.index + 1 }

/-- The place so many characters further on. -/
def skip (c : Cursor) : Nat → Cursor
  | 0 => c
  | n + 1 => c.next.skip n

/-- The characters with `p` from a place on, and the place behind them. -/
def takeWhile (p : Char → Bool) (c : Cursor) : Text × Cursor :=
  let t := c.rest.takeWhile p
  (t, c.skip t.length)

/-- The place behind the characters with `p`. -/
def skipWhile (p : Char → Bool) (c : Cursor) : Cursor := (c.takeWhile p).2

/-- The place behind the spaces. -/
def skipSpaces (c : Cursor) : Cursor := c.skipWhile (· = ' ')

/-- The place behind the spaces in front of a column. -/
def skipIndent (c : Cursor) (column : Nat) : Cursor :=
  c.skip (c.rest.takeWhile (· = ' ') |>.take (column - c.column)).length

/-- The end of a line as it counts in a text, and the place behind it. -/
def lineBreak? (c : Cursor) : Option (Char × Cursor) :=
  match c.peek with
  | some x =>
    if isBreak x then some (if x = '\u2028' ∨ x = '\u2029' then x else '\n', c.next) else none
  | none => none

/-- The place behind the end of a line, if there is one. -/
def skipBreak (c : Cursor) : Cursor := ((c.lineBreak?).map Prod.snd).getD c

/-- Three hyphens, or three dots, stand at a place as a word. -/
def seesMark (c : Cursor) (x : Char) : Bool :=
  c.rest.take 3 = [x, x, x] && endsWord (c.peekAt 3)

/-- A mark between documents stands at a place. -/
def seesDocumentMark (c : Cursor) : Bool := c.seesMark '-' || c.seesMark '.'

/-- The place behind the rest of a line that holds at most a comment. -/
def skipRestOfLine (c : Cursor) : Reading Cursor :=
  let c := c.skipSpaces
  let c := if c.sees '#' then c.skipWhile (!isBreak ·) else c
  if endsLine c.peek then .ok c.skipBreak else .error .malformed

theorem length_next_le (c : Cursor) : c.next.rest.length ≤ c.rest.length := by
  unfold next
  split
  · exact Nat.le_refl _
  · next x rest h => split <;> simp [h]

theorem length_next_lt (c : Cursor) (h : c.rest ≠ []) : c.next.rest.length < c.rest.length := by
  unfold next
  split
  · next h' => exact absurd h' h
  · next x rest h => split <;> simp [h]

theorem length_skip_le (c : Cursor) (n : Nat) : (c.skip n).rest.length ≤ c.rest.length := by
  induction n generalizing c with
  | zero => exact Nat.le_refl _
  | succ n ih => exact Nat.le_trans (ih c.next) c.length_next_le

theorem length_skipSpaces_le (c : Cursor) : c.skipSpaces.rest.length ≤ c.rest.length :=
  c.length_skip_le _

theorem length_skipIndent_le (c : Cursor) (column : Nat) :
    (c.skipIndent column).rest.length ≤ c.rest.length :=
  c.length_skip_le _

theorem length_of_lineBreak? {c c' : Cursor} {x : Char} (h : c.lineBreak? = some (x, c')) :
    c'.rest.length < c.rest.length := by
  unfold lineBreak? at h
  split at h
  · next y hy =>
    split at h
    · obtain ⟨-, rfl⟩ := Prod.mk.inj (Option.some.inj h)
      apply length_next_lt
      intro he
      simp [peek, he] at hy
    · simp at h
  · simp at h

end Cursor

end ComponentBook.Yaml
