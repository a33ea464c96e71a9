import ComponentBook.Number.Reading
import ComponentBook.Yaml.Scalar

/-! # Tokens of a document

A document is a row of tokens: marks between documents, the brackets and separators of collections,
names for nodes, tags and scalars. Collections that are written by indentation get brackets of their
own, and a key that is only known as a key at the colon behind it gets its mark in front. The state
of reading (**`Reader`**) holds the columns of the open blocks and the places at which a key may have
started. **`TokenRow.ofText`** reads the tokens of a text up to the first problem: what comes behind a
problem does not matter to a document that is refused for what stands in front of it. -/

namespace ComponentBook.Yaml

/-- A tag as it is written: a handle, unless the tag is written in full, and what follows it. -/
structure WrittenTag where
  handle : Option Text
  suffix : Text
  deriving DecidableEq, Repr

/-- A token. -/
inductive Token where
  /-- The version of the language. -/
  | version (major minor : Nat)
  /-- What a tag handle stands for. -/
  | handle (handle stands : Text)
  /-- An instruction that is not known. -/
  | otherDirective
  | documentStart
  | documentEnd
  | blockSequenceStart
  | blockMappingStart
  | blockEnd
  | flowSequenceStart
  | flowSequenceEnd
  | flowMappingStart
  | flowMappingEnd
  | blockEntry
  | flowEntry
  | key
  | value
  /-- A node that has been named before. -/
  | alias (name : Text)
  /-- A name for the next node. -/
  | anchor (name : Text)
  | tag (tag : WrittenTag)
  | scalar (plain : Bool) (text : Text)
  | streamEnd
  deriving DecidableEq, Repr

/-! ## Names, tags and directives -/

/-- A name behind its first character, and the place behind it. -/
def anchorName (c : Cursor) : Reading (Text × Cursor) :=
  let (name, c) := c.next.takeWhile isNameChar
  let ends := endsWord c.peek ||
    c.peek.any fun x => ['?', ':', ',', ']', '}', '%', '@', '\x60'].contains x
  if name ≠ [] ∧ ends then .ok (name, c) else .error .malformed

/-- A character that may stand in a tag. -/
def isTagChar (c : Char) : Bool := c.isAlphanum || "-;/?:@&=+$,_.!~*'()[]%".toList.contains c

/-- The bytes that percent signs and hexadecimal digits write. -/
def percentBytes : (steps : Nat) → Cursor → Reading (List UInt8 × Cursor)
  | 0, c => .ok ([], c)
  | steps + 1, c =>
    if c.sees '%' then
      let digits := c.next.rest.take 2
      match digits.length, Text.hexValue? digits with
      | 2, some n => do
        let (bytes, rest) ← percentBytes steps (c.skip 3)
        return (UInt8.ofNat n :: bytes, rest)
      | _, _ => .error .malformed
    else .ok ([], c)

/-- The characters of a tag from a place on. -/
def tagText : (steps : Nat) → Cursor → Reading (Text × Cursor)
  | 0, c => .ok ([], c)
  | steps + 1, c =>
    if c.sees '%' then do
      let (bytes, c) ← percentBytes c.rest.length c
      match Text.ofUtf8 bytes with
      | .error _ => throw .malformed
      | .ok part =>
        let (t, rest) ← tagText steps c
        return (part ++ t, rest)
    else
      let (part, c') := c.takeWhile fun x => isTagChar x && x ≠ '%'
      if part.isEmpty then .ok ([], c) else do
        let (t, rest) ← tagText steps c'
        return (part ++ t, rest)

/-- The characters of a tag, of which there is at least one. -/
def tagSuffix (c : Cursor) : Reading (Text × Cursor) :=
  if c.peek.any isTagChar then tagText (c.rest.length + 1) c else .error .malformed

/-- A handle: an exclamation mark alone, or two with a name between them. -/
def tagHandle (c : Cursor) : Reading (Text × Cursor) :=
  if !c.sees '!' then .error .malformed
  else if c.peekAt 1 = some ' ' then .ok (['!'], c.next)
  else
    let (name, c) := c.next.takeWhile isNameChar
    if c.sees '!' then .ok ('!' :: name ++ ['!'], c.next) else .error .malformed

/-- A tag from its exclamation mark on. -/
def writtenTag (c : Cursor) : Reading (WrittenTag × Cursor) := do
  let (tag, c) ←
    if c.peekAt 1 = some '<' then do
      let (suffix, c) ← tagSuffix (c.skip 2)
      if c.sees '>' then pure (⟨none, suffix⟩, c.next) else throw .malformed
    else if endsWord (c.peekAt 1) then pure (⟨none, ['!']⟩, c.next)
    else
      -- a second mark in the word tells that it starts with a handle
      let word := c.next.rest.takeWhile fun x => !endsSpaced (some x)
      let (handle, c) ← if word.contains '!' then tagHandle c else pure (['!'], c.next)
      let (suffix, c) ← tagSuffix c
      pure (⟨some handle, suffix⟩, c)
  if endsSpaced c.peek then return (tag, c) else throw .malformed

/-- A number of a version. -/
def versionNumber (c : Cursor) : Reading (Nat × Cursor) :=
  let (digits, c) := c.takeWhile Char.isDigit
  if digits.isEmpty then .error .malformed
  else if Number.digitLimit < digits.length then
    .error (.fault (.tooManyDigits Number.digitLimit digits.length))
  else .ok (digits.foldl (fun n d => n * 10 + (d.toNat - '0'.toNat)) 0, c)

/-- The version behind the name of its directive. -/
def versionDirective (c : Cursor) : Reading (Token × Cursor) := do
  let (major, c) ← versionNumber c.skipSpaces
  if !c.sees '.' then throw .malformed
  let (minor, c) ← versionNumber c.next
  if endsSpaced c.peek then return (.version major minor, c) else throw .malformed

/-- The handle behind the name of its directive, and what it stands for. -/
def handleDirective (c : Cursor) : Reading (Token × Cursor) := do
  let (handle, c) ← tagHandle c.skipSpaces
  if !c.sees ' ' then throw .malformed
  let (stands, c) ← tagSuffix c.skipSpaces
  if endsSpaced c.peek then return (.handle handle stands, c) else throw .malformed

/-- A directive from its percent sign on. -/
def directive (c : Cursor) : Reading (Token × Cursor) := do
  let (name, c) := c.next.takeWhile isNameChar
  if name.isEmpty || !endsSpaced c.peek then throw .malformed
  let (token, c) ←
    if name = "YAML".toList then versionDirective c
    else if name = "TAG".toList then handleDirective c
    else pure (.otherDirective, c.skipWhile (!isBreak ·))
  return (token, ← c.skipRestOfLine)

/-! ## Reading -/

/-- A place at which a key may have started. -/
structure KeyPlace where
  /-- The number of tokens in front of it. -/
  tokens : Nat
  /-- There must be a key. -/
  required : Bool
  cursor : Cursor

/-- A state of reading. -/
structure Reader where
  /-- The place reached. -/
  cursor : Cursor
  /-- The number of open flow collections. -/
  flow : Nat := 0
  /-- The column of the innermost open block, and of those around it; -1 outside all blocks. -/
  indent : Int := -1
  outer : List Int := []
  /-- A key may start at the place reached. -/
  keyAllowed : Bool := true
  /-- The places at which a key may have started, by the number of open flow collections. -/
  keyPlaces : List (Nat × KeyPlace) := []
  /-- The tokens so far, the last one first. -/
  tokens : List Token := []
  /-- The number of tokens so far. -/
  count : Nat := 0
  /-- All tokens have been read. -/
  finished : Bool := false

namespace Reader

/-- A token behind the tokens so far. -/
def push (r : Reader) (t : Token) : Reader :=
  { r with tokens := t :: r.tokens, count := r.count + 1 }

/-- A token in front of the tokens from a number on. -/
def insert (r : Reader) (n : Nat) (t : Token) : Reader :=
  let behind := r.count - n
  { r with
    tokens := r.tokens.take behind ++ t :: r.tokens.drop behind
    count := r.count + 1 }

/-- The column of the next block that is deeper than the innermost open one. -/
def deeper (r : Reader) : Nat := (r.indent + 1).toNat

/-- The blocks deeper than a column are closed. Flow collections are not bound to columns. -/
def closeBlocks (r : Reader) (column : Int) : Reader :=
  if r.flow ≠ 0 then r else
  let deeper := (r.indent :: r.outer).takeWhile (column < ·)
  let left := (r.indent :: r.outer).dropWhile (column < ·)
  { r with
    indent := left.headD (-1)
    outer := left.drop 1
    tokens := List.replicate deeper.length .blockEnd ++ r.tokens
    count := r.count + deeper.length }

/-- A block is opened at a column if it is deeper than the innermost open one; whether it was. -/
def openBlock (r : Reader) (column : Nat) : Bool × Reader :=
  if r.indent < column then (true, { r with indent := column, outer := r.indent :: r.outer })
  else (false, r)

/-- The place at which a key may have started among the open flow collections is given up. -/
def dropKeyPlace (r : Reader) : Reading Reader :=
  match r.keyPlaces.lookup r.flow with
  | some place =>
    if place.required then .error .malformed
    else .ok { r with keyPlaces := r.keyPlaces.filter (·.1 ≠ r.flow) }
  | none => .ok r

/-- The place reached is marked as one at which a key may have started. -/
def markKeyPlace (r : Reader) : Reading Reader := do
  if !r.keyAllowed then return r
  let required : Bool := r.flow = 0 && r.indent = r.cursor.column
  let r ← r.dropKeyPlace
  let place : KeyPlace := { tokens := r.count, required, cursor := r.cursor }
  return { r with keyPlaces := (r.flow, place) :: r.keyPlaces }

/-- The most characters between the start of a key and the colon behind it. -/
def keyLimit : Nat := 1024

/-- The places of keys that are on another line, or too far back, are given up. -/
def dropStaleKeyPlaces (r : Reader) : Reading Reader :=
  let isStale (place : KeyPlace) : Bool :=
    place.cursor.line ≠ r.cursor.line || keyLimit < r.cursor.index - place.cursor.index
  if r.keyPlaces.any fun (_, place) => isStale place && place.required then .error .malformed
  else .ok { r with keyPlaces := r.keyPlaces.filter fun (_, place) => !isStale place }

/-- The place of the next token, behind spaces, comments and line ends. A key may start on a new
line. -/
def toNextToken : (steps : Nat) → Reader → Reader
  | 0, r => r
  | steps + 1, r =>
    let c := r.cursor.skipSpaces
    let c := if c.sees '#' then c.skipWhile (!isBreak ·) else c
    match c.lineBreak? with
    | some (_, c) =>
      toNextToken steps { r with cursor := c, keyAllowed := r.keyAllowed || r.flow = 0 }
    | none => { r with cursor := c }

/-- Everything is closed in front of a mark between documents or the end. -/
def closeAll (r : Reader) : Reading Reader := do
  let r ← (r.closeBlocks (-1)).dropKeyPlace
  return { r with keyAllowed := false }

/-- A token of so many characters behind the tokens so far. -/
def pushSkip (r : Reader) (t : Token) (n : Nat) : Reader :=
  { r.push t with cursor := r.cursor.skip n }

/-- An opening bracket. -/
def openFlow (r : Reader) (t : Token) : Reading Reader := do
  let r ← r.markKeyPlace
  return { r.pushSkip t 1 with flow := r.flow + 1, keyAllowed := true }

/-- A closing bracket. -/
def closeFlow (r : Reader) (t : Token) : Reading Reader := do
  if r.flow = 0 then throw .malformed
  let r ← r.dropKeyPlace
  return { r.pushSkip t 1 with flow := r.flow - 1, keyAllowed := false }

/-- A comma. -/
def flowEntry (r : Reader) : Reading Reader := do
  let r ← { r with keyAllowed := true }.dropKeyPlace
  return r.pushSkip .flowEntry 1

/-- A block opened at a column with a token of its own, if it is a new one. Outside of flow
collections a key must be allowed at the place. -/
def startBlock (r : Reader) (t : Token) : Reading Reader :=
  if r.flow ≠ 0 then .ok r
  else if !r.keyAllowed then .error .malformed
  else
    let (new, r) := r.openBlock r.cursor.column
    .ok (if new then r.push t else r)

/-- The hyphen of an entry. -/
def blockEntry (r : Reader) : Reading Reader := do
  let r ← r.startBlock .blockSequenceStart
  let r ← { r with keyAllowed := true }.dropKeyPlace
  return r.pushSkip .blockEntry 1

/-- The question mark of a key. -/
def key (r : Reader) : Reading Reader := do
  let r ← r.startBlock .blockMappingStart
  let r ← { r with keyAllowed := r.flow = 0 }.dropKeyPlace
  return r.pushSkip .key 1

/-- The colon of a value. The key in front of it, if it has no mark of its own, gets one. -/
def value (r : Reader) : Reading Reader := do
  match r.keyPlaces.lookup r.flow with
  | some place =>
    let r := { r with keyPlaces := r.keyPlaces.filter (·.1 ≠ r.flow) }
    -- what stands in front has been read before it was known to be a key
    let r := r.insert place.tokens .key
    let r :=
      if r.flow = 0 then
        let (new, r) := r.openBlock place.cursor.column
        if new then r.insert place.tokens .blockMappingStart else r
      else r
    return { r.pushSkip .value 1 with keyAllowed := false }
  | none =>
    let r ← r.startBlock .blockMappingStart
    let r ← { r with keyAllowed := r.flow = 0 }.dropKeyPlace
    return r.pushSkip .value 1

/-- A token that may start a key, read from the place reached. -/
def mayStartKey (r : Reader) (read : Cursor → Reading (Token × Cursor)) : Reading Reader := do
  let r ← r.markKeyPlace
  let (token, cursor) ← read r.cursor
  return { r.push token with cursor, keyAllowed := false }

/-- A plain scalar. -/
def plain (r : Reader) : Reading Reader := do
  let r ← r.markKeyPlace
  let s := plainScalar (r.flow ≠ 0) r.deeper r.cursor
  return { r.push (.scalar true s.text) with cursor := s.after, keyAllowed := s.brokenLine }

/-- A block of lines. -/
def block (r : Reader) (fold : Bool) : Reading Reader := do
  let r ← { r with keyAllowed := true }.dropKeyPlace
  let (t, cursor) ← blockScalar fold r.deeper r.cursor
  return { r.push (.scalar false t) with cursor }

/-- A plain scalar may start at a place. -/
def startsPlain (c : Cursor) (inFlow : Bool) : Bool :=
  match c.peek with
  | none => false
  | some x =>
    !endsWord (some x) && !"-?:,[]{}#&*!|>'\"%@\x60".toList.contains x ||
    !endsWord (c.peekAt 1) && (x = '-' || !inFlow && (x = '?' || x = ':'))

/-- The token at the place reached. -/
def token (r : Reader) : Reading Reader := do
  let c := r.cursor
  let inFlow : Bool := r.flow ≠ 0
  let isWord := endsWord (c.peekAt 1)
  let map {α : Type} (f : α → Token) (x : Reading (α × Cursor)) : Reading (Token × Cursor) :=
    x.map fun (a, c) => (f a, c)
  match c.peek with
  | none =>
    let r ← r.closeAll
    return { r.push .streamEnd with finished := true }
  | some x =>
    if x = '%' ∧ c.column = 0 then
      let r ← r.closeAll
      let (t, cursor) ← directive c
      return { r.push t with cursor }
    else if x = '-' ∧ c.column = 0 ∧ c.seesMark '-' then
      return (← r.closeAll).pushSkip .documentStart 3
    else if x = '.' ∧ c.column = 0 ∧ c.seesMark '.' then
      return (← r.closeAll).pushSkip .documentEnd 3
    else if x = '[' then r.openFlow .flowSequenceStart
    else if x = '{' then r.openFlow .flowMappingStart
    else if x = ']' then r.closeFlow .flowSequenceEnd
    else if x = '}' then r.closeFlow .flowMappingEnd
    else if x = ',' then r.flowEntry
    else if x = '-' ∧ isWord then r.blockEntry
    else if x = '?' ∧ (inFlow ∨ isWord) then r.key
    else if x = ':' ∧ (inFlow ∨ isWord) then r.value
    else if x = '*' then r.mayStartKey fun c => map .alias (anchorName c)
    else if x = '&' then r.mayStartKey fun c => map .anchor (anchorName c)
    else if x = '!' then r.mayStartKey fun c => map .tag (writtenTag c)
    else if x = '|' ∧ !inFlow then r.block false
    else if x = '>' ∧ !inFlow then r.block true
    else if x = '\'' then r.mayStartKey fun c => map (.scalar false) (singleQuoted c)
    else if x = '"' then r.mayStartKey fun c => map (.scalar false) (doubleQuoted c)
    else if startsPlain c inFlow then r.plain
    else throw .malformed

/-- One token more. Places of keys are given up both in front of it and behind it. -/
def step (r : Reader) : Reading Reader := do
  let r ← (r.toNextToken (r.cursor.rest.length + 1)).dropStaleKeyPlaces
  (← (r.closeBlocks r.cursor.column).token).dropStaleKeyPlaces

/-- The number of tokens that will not change any more: no key can start in front of them. -/
def settled (r : Reader) : Nat :=
  r.keyPlaces.foldl (fun n (_, place) => min n place.tokens) r.count

end Reader

/-- The tokens of a text up to the first problem. -/
structure TokenRow where
  tokens : List Token
  /-- Why the text cannot be read behind the tokens. -/
  problem : Option Problem := none

/-- All tokens from a state on. -/
def Reader.rowFrom : (steps : Nat) → Reader → TokenRow
  | 0, r => { tokens := r.tokens.reverse, problem := some .malformed }
  | steps + 1, r =>
    match r.step with
    | .error problem =>
      -- tokens in front of which a key might still have started are never handed out
      { tokens := (r.tokens.drop (r.count - r.settled)).reverse, problem := some problem }
    | .ok r => if r.finished then { tokens := r.tokens.reverse } else rowFrom steps r

/-- A character that may stand in a document. -/
def isDocumentChar (c : Char) : Bool :=
  let n := c.toNat
  n = 9 || n = 10 || n = 13 || 0x20 ≤ n && n ≤ 0x7e || n = 0x85 || 0xa0 ≤ n && n ≤ 0xd7ff ||
    0xe000 ≤ n && n ≤ 0xfffd || 0x10000 ≤ n

/-- The tokens of a text. A mark of byte order in front is no part of it. -/
def TokenRow.ofText (t : Text) : TokenRow :=
  if !t.all isDocumentChar then { tokens := [], problem := some .malformed } else
  let start : Cursor := { rest := t }
  let r : Reader := { cursor := if start.sees '\uFEFF' then start.next else start }
  r.rowFrom (t.length + 2)

end ComponentBook.Yaml
