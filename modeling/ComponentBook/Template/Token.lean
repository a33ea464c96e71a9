import ComponentBook.Template.Basic
import ComponentBook.Text.Identifier
import ComponentBook.Text.Lines

/-! # Tokens of a template

**`tokens`** cuts a template into texts, outputs and statements; comments are left out. The line
end behind a statement or a comment is dropped, and so are the blanks between the start of a line
and a statement or a comment. A hyphen inside a tag drops all blank characters on its side, a plus
sign keeps them. A tag may be cut short, by the end of the template or by a fault; it is then the
last token, since a template is refused for the first thing that is wrong with it. -/

namespace ComponentBook.Template

/-- A word of an output or a statement. -/
inductive Word where
  /-- A name. -/
  | name (name : Text)
  /-- A text in quotes. -/
  | text (t : Text)
  /-- A number. -/
  | number (n : Nat)
  /-- A sign. -/
  | sign (s : Text)
  deriving DecidableEq, Repr

/-- How the words of a tag end. -/
inductive Ending where
  /-- The tag is closed. -/
  | closed
  /-- The template ends. -/
  | cut
  /-- What follows is no word. -/
  | fault (f : SyntaxFault)
  deriving DecidableEq, Repr

/-- A part of a template. -/
inductive Token where
  /-- A text that is written as it stands. -/
  | data (t : Text)
  /-- The words between double braces. -/
  | output (words : List Word) (ending : Ending)
  /-- The words between a brace and a percent sign. -/
  | statement (words : List Word) (ending : Ending)
  /-- The template cannot be read further. -/
  | fault (f : SyntaxFault)
  deriving DecidableEq, Repr

/-- The three kinds of tags. -/
inductive TagKind where
  /-- A value to be written. -/
  | output
  /-- A statement. -/
  | statement
  /-- A comment. -/
  | comment
  deriving DecidableEq, Repr

/-- The kind of tag that a brace and the character behind it open. -/
def TagKind.ofChar? (c : Char) : Option TagKind :=
  if c = '{' then some .output else if c = '%' then some .statement
  else if c = '#' then some .comment else none

/-- The characters that end a tag. -/
def TagKind.closing : TagKind → Text
  | .output => ['}', '}']
  | .statement => ['%', '}']
  | .comment => ['#', '}']

/-- The text behind the end of a tag, when the text starts with it: without blank characters after a
hyphen, without a line end after a plain statement or comment. -/
def dropClosing? (kind : TagKind) (t : Text) : Option Text :=
  match t with
  | '-' :: u =>
    (Text.dropPrefix? kind.closing u).map Text.stripLeft
  | '+' :: u => if kind = .output then none else Text.dropPrefix? kind.closing u
  | t =>
    match Text.dropPrefix? kind.closing t, kind with
    | some ('\n' :: rest), .statement => some rest
    | some ('\n' :: rest), .comment => some rest
    | rest, _ => rest

/-! ## Words -/

/-- The text up to a quote that no backslash stands in front of. -/
def quotedText? (quote : Char) : Text → Option Text
  | [] => none
  | '\\' :: c :: t => (quotedText? quote t).map fun q => '\\' :: c :: q
  | c :: t => if c = quote then some [] else (quotedText? quote t).map (c :: ·)

/-- The digits at the start of a text, each behind an underscore or not, and their length. -/
def digitRun (digit : Char → Option Nat) : Text → List Nat × Nat
  | [] => ([], 0)
  | '_' :: c :: t =>
    match digit c with
    | some d => let (ds, n) := digitRun digit t; (d :: ds, n + 2)
    | none => ([], 0)
  | c :: t =>
    match digit c with
    | some d => let (ds, n) := digitRun digit t; (d :: ds, n + 1)
    | none => ([], 0)

/-- The number that digits write. -/
def ofDigits (base : Nat) (digits : List Nat) : Nat := digits.foldl (fun n d => n * base + d) 0

/-- A digit in a base; those of base sixteen and ten are of any script. -/
def digitOf (base : Nat) (c : Char) : Option Nat :=
  let value := if base < 10 then Text.hexDigit? c
    else (Text.digitValue? c).or (if base = 16 then Text.hexDigit? c else none)
  value.filter (· < base)

/-- The base that a letter behind a zero announces. -/
def announcedBase? (c : Char) : Option Nat :=
  if c = 'b' || c = 'B' then some 2
  else if c = 'o' || c = 'O' then some 8
  else if c = 'x' || c = 'X' then some 16
  else none

/-- The number that starts with the digit `c`, and how many characters of the text behind `c` belong
to it. -/
def number (c : Char) (t : Text) : Nat × Nat :=
  if c = '0' then
    let announced : Option (Nat × Nat) := do
      let base ← t.head?.bind announcedBase?
      let (digits, length) := digitRun (digitOf base) t.tail
      if digits.isEmpty then none else some (ofDigits base digits, length + 1)
    -- zeros may follow a zero, but no other digit
    announced.getD (0, (digitRun (digitOf 1) t).2)
  else
    let (digits, length) := digitRun (digitOf 10) t
    (ofDigits 10 ((c.toNat - '0'.toNat) :: digits), length)

/-- The signs of two characters. -/
def doubleSigns : List Text :=
  ["//".toList, "**".toList, "==".toList, "!=".toList, ">=".toList, "<=".toList]

/-- The signs of one character. -/
def singleSigns : Text := "+-/*%~[]()\x7b\x7d><=.:|,;".toList

/-- The word that starts with `c`, and how many characters of the text behind `c` belong to it.
`place` is where `c` stands. -/
def wordAt (place : Nat) (c : Char) (t : Text) : Except SyntaxFault (Word × Nat) :=
  if '0' ≤ c && c ≤ '9' then
    let (n, length) := number c t
    .ok (.number n, length)
  else if Text.isNameLike c then
    let word := t.takeWhile Text.isNameLike
    if Text.isIdentifier (c :: word) then .ok (.name (c :: word), word.length) else .error .badName
  else
    match if c = '\'' || c = '"' then quotedText? c t else none with
    | some q =>
      match unescape q with
      | .ok text => .ok (.text text, q.length + 1)
      | .error fault => .error (.badText fault)
    | none =>
      if doubleSigns.contains (c :: t.take 1) then .ok (.sign (c :: t.take 1), 1)
      else if singleSigns.any (· = c) then .ok (.sign [c], 0)
      else .error (.strangeCharacter c place)

/-- The bracket that closes an opening one. -/
def closingBracket? (c : Char) : Option Char :=
  if c = '{' then some '}' else if c = '(' then some ')' else if c = '[' then some ']' else none

/-- The brackets that are still to be closed behind a word, the innermost first. -/
def Word.brackets (w : Word) (opened : List Char) : Except SyntaxFault (List Char) :=
  match w with
  | .sign [c] =>
    match closingBracket? c with
    | some closing => .ok (closing :: opened)
    | none =>
      if c = '}' || c = ')' || c = ']' then
        match opened with
        | [] => .error (.strayBracket c)
        | wanted :: opened => if c = wanted then .ok opened else .error (.otherBracket c wanted)
      else .ok opened
  | _ => .ok opened

/-! ## Tags -/

/-- The words of a tag, how they end and the text behind the tag. `opened` are the brackets to be
closed before the tag can end, `length` is the length of the template. -/
def tagWords (kind : TagKind) (length : Nat) (opened : List Char) (t : Text) :
    List Word × Ending × Text :=
  match if opened.isEmpty then dropClosing? kind t else none with
  | some rest => ([], .closed, rest)
  | none =>
    match t with
    | [] => ([], .cut, [])
    | c :: t =>
      if Text.isBlank c then tagWords kind length opened t
      else
        match wordAt (length - (t.length + 1)) c t with
        | .error f => ([], .fault f, [])
        | .ok (word, n) =>
          match word.brackets opened with
          | .error f => ([], .fault f, [])
          | .ok opened =>
            let (words, ending, rest) := tagWords kind length opened (t.drop n)
            (word :: words, ending, rest)
termination_by t.length
decreasing_by
  · simp
  · simp only [List.length_drop, List.length_cons]; omega

/-- The text behind the end of a comment. -/
def afterComment? : Text → Option Text
  | [] => dropClosing? .comment []
  | c :: t => (dropClosing? .comment (c :: t)).or (afterComment? t)

/-- A text in front of a tag that starts with `sign`, without the blanks that the tag drops.
`lineStart` tells whether the text starts a line. -/
def trimBefore (kind : TagKind) (sign : Option Char) (lineStart : Bool) (t : Text) : Text :=
  if sign = some '-' then t.stripRight
  else if sign = some '+' || kind = .output then t
  else
    let head := t.dropRightWhile (· ≠ '\n')
    let last := t.drop head.length
    if (lineStart || !head.isEmpty) && Text.allBlank last then head else t

/-- The tag at the start of a text: its kind, its sign and the text behind the sign. -/
def openTag? (t : Text) : Option (TagKind × Option Char × Text) :=
  match t with
  | '{' :: c :: t =>
    match TagKind.ofChar? c, t with
    | none, _ => none
    | some kind, '-' :: t => some (kind, some '-', t)
    | some kind, '+' :: t => some (kind, some '+', t)
    | some kind, t => some (kind, none, t)
  | _ => none

/-- Whether the part of `t` in front of its end `rest` ends a line. -/
def endsLine (t rest : Text) : Bool := (t.take (t.length - rest.length)).getLast? = some '\n'

/-- The tokens of a text that starts a line or does not, at the end of a template of some length. A
comment that the template ends with right behind its first signs needs no end. -/
def tokensFrom (length : Nat) (lineStart : Bool) (t : Text) : List Token :=
  match Text.search (fun _ u => openTag? u) none t with
  | none => [.data t]
  | some (before, kind, sign, inner) =>
    let (tag, rest) : List Token × Option Text :=
      match kind with
      | .comment =>
        match afterComment? inner with
        | some rest => ([], some rest)
        | none => (if inner.isEmpty then [] else [.fault .openComment], none)
      | .output =>
        match tagWords .output length [] inner with
        | (words, .closed, rest) => ([.output words .closed], some rest)
        | (words, ending, _) => ([.output words ending], none)
      | .statement =>
        match tagWords .statement length [] inner with
        | (words, .closed, rest) => ([.statement words .closed], some rest)
        | (words, ending, _) => ([.statement words ending], none)
    .data (trimBefore kind sign lineStart before) :: tag ++
      match rest with
      | some rest =>
        if rest.length < t.length then tokensFrom length (endsLine inner rest) rest else []
      | none => []
termination_by t.length

/-- A template's text with line feeds for line ends and without its last one. -/
def sourceText (t : Text) : Text :=
  let t := t.unifyNewlines
  if t.getLast? = some '\n' then t.dropLast else t

/-- The tokens of a template. -/
def tokens (t : Text) : List Token :=
  let source := sourceText t
  tokensFrom source.length true source

end ComponentBook.Template
