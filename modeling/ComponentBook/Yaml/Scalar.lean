import ComponentBook.Text.Digit
import ComponentBook.Text.Utf8
import ComponentBook.Yaml.Cursor

/-! # Scalars

A scalar is written plainly, in quotes, or as a block of lines. Line ends inside it are folded: a
single one counts as a space, and of several the first does not count. **`plainScalar`**,
**`singleQuoted`**, **`doubleQuoted`** and **`blockScalar`** read one from its first character on. An
escape by the number of half a surrogate pair, which is no character, gives the character with the
number 0 (**`escapedChar`**). -/

namespace ComponentBook.Yaml

/-- What line ends count as: a line feed alone is a space unless further line ends follow. -/
def folded (first : Char) (further : Text) : Text :=
  if first ≠ '\n' then first :: further
  else if further.isEmpty then [' '] else further

/-! ## Quoted scalars -/

/-- Further line ends inside a quoted scalar, with the blanks around them. A mark between documents
may not stand at the start of a line. -/
def quotedBreaks (c : Cursor) : Reading (Text × Cursor) :=
  if c.seesDocumentMark then .error .malformed else
  let c' := c.skipWhile fun x => x = ' ' || x = '\t'
  match _ : c'.lineBreak? with
  | none => .ok ([], c')
  | some (x, c'') => do
    let (breaks, rest) ← quotedBreaks c''
    return (x :: breaks, rest)
termination_by c.rest.length
decreasing_by
  have := Cursor.length_of_lineBreak? ‹Cursor.lineBreak? _ = _›
  have : c'.rest.length ≤ c.rest.length := c.length_skip_le _
  omega

/-- What blanks inside a quoted scalar count as; line ends among them are folded. -/
def quotedBlanks (c : Cursor) : Reading (Text × Cursor) :=
  let (blanks, c) := c.takeWhile fun x => x = ' ' || x = '\t'
  match c.peek, c.lineBreak? with
  | none, _ => .error .malformed
  | some _, none => .ok (blanks, c)
  | some _, some (x, c) => do
    let (breaks, rest) ← quotedBreaks c
    return (folded x breaks, rest)

/-- A scalar in single quotes, from behind the first quote on. Two quotes stand for one. -/
def singleQuotedFrom : (steps : Nat) → Cursor → Reading (Text × Cursor)
  | 0, _ => .error .malformed
  | steps + 1, c =>
    match c.peek with
    | none => .error .malformed
    | some '\'' =>
      if c.peekAt 1 = some '\'' then do
        let (t, rest) ← singleQuotedFrom steps (c.skip 2)
        return ('\'' :: t, rest)
      else .ok ([], c.next)
    | some x => do
      if endsWord (some x) then
        let (blanks, c) ← quotedBlanks c
        let (t, rest) ← singleQuotedFrom steps c
        return (blanks ++ t, rest)
      else
        let (t, rest) ← singleQuotedFrom steps c.next
        return (x :: t, rest)

/-- A scalar in single quotes. -/
def singleQuoted (c : Cursor) : Reading (Text × Cursor) :=
  singleQuotedFrom (c.rest.length + 1) c.next

/-- The character that a letter behind a backslash stands for. -/
def escapes : List (Char × Char) := [
  ('0', '\x00'), ('a', '\x07'), ('b', '\x08'), ('t', '\t'), ('\t', '\t'), ('n', '\n'), ('v', '\x0b'),
  ('f', '\x0c'), ('r', '\r'), ('e', '\x1b'), (' ', ' '), ('"', '"'), ('\\', '\\'), ('/', '/'),
  ('N', '\u0085'), ('_', '\u00a0'), ('L', '\u2028'), ('P', '\u2029')]

/-- The number of hexadecimal digits behind a letter behind a backslash. -/
def escapeLengths : List (Char × Nat) := [('x', 2), ('u', 4), ('U', 8)]

/-- The largest number of a word of four bytes with a sign. -/
def wordLimit : Nat := 0x7fffffff

/-- The character whose number hexadecimal digits write. -/
def escapedChar (length : Nat) (c : Cursor) : Reading Char :=
  let digits := c.rest.take length
  if digits.length < length then .error .malformed else
  match Text.hexValue? digits with
  | none => .error .malformed
  | some n =>
    if n < 0x110000 then .ok (Char.ofNat n)
    else .error (.fault (if n ≤ wordLimit then .noCharacter else .characterTooLarge))

/-- What a backslash and what follows it stand for. -/
def escape (c : Cursor) : Reading (Text × Cursor) :=
  match c.next.peek with
  | none => .error .malformed
  | some x =>
    match escapes.lookup x, escapeLengths.lookup x with
    | some y, _ => .ok ([y], c.skip 2)
    | none, some length => do return ([← escapedChar length (c.skip 2)], c.skip (2 + length))
    | none, none => if isBreak x then quotedBreaks c.next.skipBreak else .error .malformed

/-- A scalar in double quotes, from behind the first quote on. -/
def doubleQuotedFrom : (steps : Nat) → Cursor → Reading (Text × Cursor)
  | 0, _ => .error .malformed
  | steps + 1, c =>
    match c.peek with
    | none => .error .malformed
    | some '"' => .ok ([], c.next)
    | some x => do
      let (part, c) ←
        if x = '\\' then escape c
        else if endsWord (some x) then quotedBlanks c
        else .ok ([x], c.next)
      let (t, rest) ← doubleQuotedFrom steps c
      return (part ++ t, rest)

/-- A scalar in double quotes. -/
def doubleQuoted (c : Cursor) : Reading (Text × Cursor) :=
  doubleQuotedFrom (c.rest.length + 1) c.next

/-! ## Plain scalars -/

/-- A character ends the part of a plain scalar on one line. In a flow collection more characters do
so than outside. -/
def endsPlain (inFlow : Bool) (x : Char) (next : Option Char) : Bool :=
  endsWord (some x) ||
  x = ':' && (endsWord next || inFlow && next.any fun y => [',', '[', ']', '{', '}'].contains y) ||
  inFlow && [',', '?', '[', ']', '{', '}'].contains x

/-- The length of the part of a plain scalar at the start of a text. -/
def plainLength (inFlow : Bool) : Text → Nat
  | [] => 0
  | x :: t => if endsPlain inFlow x t.head? then 0 else plainLength inFlow t + 1

/-- Line ends behind a part of a plain scalar, with the spaces around them; nothing when a mark
between documents stands at the start of a line. -/
def plainBreaks (c : Cursor) : Option Text × Cursor :=
  let c' := c.skipSpaces
  match _ : c'.lineBreak? with
  | none => (some [], c')
  | some (x, c'') =>
    if c''.seesDocumentMark then (none, c'') else
    let (breaks, rest) := plainBreaks c''
    (breaks.map (x :: ·), rest)
termination_by c.rest.length
decreasing_by
  have := Cursor.length_of_lineBreak? ‹Cursor.lineBreak? _ = _›
  have : c'.rest.length ≤ c.rest.length := c.length_skipSpaces_le
  omega

/-- What the blanks behind a part of a plain scalar count as, nothing when the scalar ends with
them, and whether they hold a line end. -/
def plainBlanks (c : Cursor) : Text × Bool × Cursor :=
  let (blanks, c) := c.takeWhile (· = ' ')
  match c.lineBreak? with
  | none => (blanks, false, c)
  | some (x, c) =>
    if c.seesDocumentMark then ([], true, c) else
    match plainBreaks c with
    | (none, rest) => ([], true, rest)
    | (some breaks, rest) => (folded x breaks, true, rest)

/-- What a plain scalar says, where it ends, and whether a line ends there. -/
structure PlainScalar where
  text : Text
  after : Cursor
  brokenLine : Bool

/-- A plain scalar in a collection of some indentation, `blanks` being in front of its next part. -/
def plainScalarFrom (inFlow : Bool) (indent : Nat) (blanks : Text) (broken : Bool) :
    (steps : Nat) → Cursor → PlainScalar
  | 0, c => ⟨[], c, broken⟩
  | steps + 1, c =>
    -- a comment has to stand behind a blank, which is why it is looked for between parts only
    if c.sees '#' then ⟨[], c, broken⟩ else
    let part := c.rest.take (plainLength inFlow c.rest)
    if part.isEmpty then ⟨[], c, broken⟩ else
    let (further, brokenNow, rest) := plainBlanks (c.skip part.length)
    if further.isEmpty || rest.sees '#' || !inFlow && rest.column < indent then
      ⟨blanks ++ part, rest, brokenNow⟩
    else
      let more := plainScalarFrom inFlow indent further brokenNow steps rest
      { more with text := blanks ++ part ++ more.text }

/-- A plain scalar in a collection of some indentation. -/
def plainScalar (inFlow : Bool) (indent : Nat) (c : Cursor) : PlainScalar :=
  plainScalarFrom inFlow indent [] false (c.rest.length + 1) c

/-! ## Block scalars -/

/-- What becomes of the line ends behind a block. -/
inductive Chomping where
  /-- None of them counts. -/
  | strip
  /-- The first one counts. -/
  | clip
  /-- All of them count. -/
  | keep
  deriving DecidableEq, Repr

/-- The digit that gives the indentation of a block, if there is one. -/
def indentDigit (c : Cursor) : Reading (Option Nat × Cursor) :=
  match c.peek with
  | some x =>
    if x.isDigit then
      if x = '0' then .error .malformed else .ok (some (x.toNat - '0'.toNat), c.next)
    else .ok (none, c)
  | none => .ok (none, c)

/-- The sign that says what becomes of the line ends behind a block. -/
def chompingSign (c : Cursor) : Chomping × Cursor :=
  if c.sees '+' then (.keep, c.next) else if c.sees '-' then (.strip, c.next) else (.clip, c)

/-- The sign and the digit in front of a block, in either order. -/
def blockHeader (c : Cursor) : Reading (Chomping × Option Nat × Cursor) := do
  let (chomping, signed) := chompingSign c
  if chomping = .clip then
    let (indent, c) ← indentDigit c
    let (chomping, c) := if indent.isSome then chompingSign c else (chomping, c)
    if endsSpaced c.peek then return (chomping, indent, c) else throw .malformed
  else
    let (indent, c) ← indentDigit signed
    if endsSpaced c.peek then return (chomping, indent, c) else throw .malformed

/-- The line ends at the start of a block whose indentation is not given, the indentation that the
spaces around them reach, and the place behind them. -/
def blockStart (reached : Nat) (c : Cursor) : Text × Nat × Cursor :=
  let c' := c.skipSpaces
  let reached := max reached c'.column
  match _ : c'.lineBreak? with
  | none => ([], reached, c')
  | some (x, c'') =>
    let (breaks, reached, rest) := blockStart reached c''
    (x :: breaks, reached, rest)
termination_by c.rest.length
decreasing_by
  have := Cursor.length_of_lineBreak? ‹Cursor.lineBreak? _ = _›
  have : c'.rest.length ≤ c.rest.length := c.length_skipSpaces_le
  omega

/-- The line ends in front of the next line of a block. -/
def blockBreaks (indent : Nat) (c : Cursor) : Text × Cursor :=
  let c' := c.skipIndent indent
  match _ : c'.lineBreak? with
  | none => ([], c')
  | some (x, c'') =>
    let (breaks, rest) := blockBreaks indent c''
    (x :: breaks, rest)
termination_by c.rest.length
decreasing_by
  have := Cursor.length_of_lineBreak? ‹Cursor.lineBreak? _ = _›
  have : c'.rest.length ≤ c.rest.length := c.length_skipIndent_le _
  omega

/-- A line of a block starts with a blank. -/
def startsBlank (c : Cursor) : Bool := c.sees ' ' || c.sees '\t'

/-- The lines of a block from a line on, with `breaks` in front of it; what a block ends with is
treated by its chomping. -/
def blockLines (fold : Bool) (chomping : Chomping) (indent : Nat) :
    (steps : Nat) → (breaks : Text) → Cursor → Text × Cursor
  | 0, _, c => ([], c)
  | steps + 1, breaks, c =>
    let (line, c') := c.takeWhile (!isBreak ·)
    let (lineBreak, c') : Text × Cursor :=
      match c'.lineBreak? with
      | some (x, c'') => ([x], c'')
      | none => ([], c')
    let (further, next) := blockBreaks indent c'
    if next.column = indent ∧ next.peek.isSome then
      let joint :=
        if fold ∧ lineBreak = ['\n'] ∧ !startsBlank c ∧ !startsBlank next then
          if further.isEmpty then [' '] else []
        else lineBreak
      let (t, rest) := blockLines fold chomping indent steps further next
      (breaks ++ line ++ joint ++ t, rest)
    else
      let tail := match chomping with
        | .strip => []
        | .clip => lineBreak
        | .keep => lineBreak ++ further
      (breaks ++ line ++ tail, next)

/-- A block scalar whose lines are kept or folded, in a collection of some indentation. -/
def blockScalar (fold : Bool) (indent : Nat) (c : Cursor) : Reading (Text × Cursor) := do
  let (chomping, given, c) ← blockHeader c.next
  let c ← c.skipRestOfLine
  -- the least column of the lines, from which a given indentation counts
  let least := max indent 1
  let (breaks, indent, c) := match given with
    | some n =>
      let (breaks, c) := blockBreaks (least + n - 1) c
      (breaks, least + n - 1, c)
    | none =>
      let (breaks, reached, c) := blockStart 0 c
      (breaks, max least reached, c)
  if c.column = indent ∧ c.peek.isSome then
    return blockLines fold chomping indent (c.rest.length + 1) breaks c
  else return (if chomping = .keep then breaks else [], c)

end ComponentBook.Yaml
