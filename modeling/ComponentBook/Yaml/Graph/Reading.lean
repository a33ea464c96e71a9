import ComponentBook.Yaml.Graph.Basic
import ComponentBook.Yaml.Token

/-! # Reading the nodes of a document

Tokens are read from the front, and a collection is a node before what it consists of is read: it may
stand within itself. A problem behind the tokens shows when a token is looked for there.
**`Graph.ofText`** reads the nodes of a text. Collections stand within each other up to a fixed depth
(**`nestingLimit`**), where a reader that calls itself would run out of room at a depth that hangs on
what else is being done. -/

namespace ComponentBook.Yaml.Graph

/-- What has been read of a document. -/
structure Draft where
  graph : Graph := {}
  /-- What tag handles stand for. -/
  handles : List (Text × Text) := [(['!'], ['!']), (['!', '!'], tagStart)]
  /-- The numbers of the named nodes. -/
  anchors : List (Text × Nat) := []
  /-- The number of open collections. -/
  depth : Nat := 0

/-- A way of reading tokens. -/
abbrev Reader (α : Type) := StateT Draft (StateT TokenRow Reading) α

/-- The next token. -/
def peek : Reader Token := do
  let row ← getThe TokenRow
  match row.tokens, row.problem with
  | t :: _, _ => return t
  | [], some problem => throw problem
  | [], none => return .streamEnd

/-- The next token, left behind. -/
def advance : Reader Token := do
  let t ← peek
  modifyThe TokenRow fun row => { row with tokens := row.tokens.drop 1 }
  return t

/-- Whether the next token is one of some. -/
def sees (ts : List Token) : Reader Bool := do return ts.contains (← peek)

/-- The next token left behind if it is `t`; whether it was. -/
def take? (t : Token) : Reader Bool := do
  if (← peek) = t then
    let _ ← advance
    return true
  else return false

/-- The next token left behind; it must be `t`. -/
def expect (t : Token) : Reader Unit := do
  if !(← take? t) then throw .malformed

/-- A further node. -/
def addNode (tag : Tag) (content : Content) : Reader Nat :=
  modifyGet fun d =>
    let (n, graph) := d.graph.add { tag, content }
    (n, { d with graph })

/-- A scalar that is not written. -/
def missing : Reader Nat := addNode .null (.scalar [])

/-- The name and the tag in front of a node, in either order. -/
def properties : Reader (Option Text × Option WrittenTag) := do
  match ← peek with
  | .anchor name =>
    let _ ← advance
    match ← peek with
    | .tag t =>
      let _ ← advance
      return (some name, some t)
    | _ => return (some name, none)
  | .tag t =>
    let _ ← advance
    match ← peek with
    | .anchor name =>
      let _ ← advance
      return (some name, some t)
    | _ => return (none, some t)
  | _ => return (none, none)

/-- The full name of a tag. -/
def fullName (t : WrittenTag) : Reader Text := do
  match t.handle with
  | none => return t.suffix
  | some handle =>
    match (← get).handles.lookup handle with
    | some stands => return stands ++ t.suffix
    | none => throw .malformed

/-- The kind that a tag gives to a node, none when the node has the kind that it shows. -/
def kindOf (t : Option WrittenTag) : Reader (Option Tag) := do
  match t with
  | none => return none
  | some t =>
    let name ← fullName t
    return if name = ['!'] then none else some (Tag.ofName name)

/-- A further node, under a name when it has one; the name must be new. -/
def addNamed (name : Option Text) (tag : Tag) (content : Content) : Reader Nat := do
  match name with
  | none => addNode tag content
  | some name =>
    if ((← get).anchors.lookup name).isSome then throw .malformed
    let n ← addNode tag content
    modify fun d => { d with anchors := (name, n) :: d.anchors }
    return n

/-- The node with a number consists of something else, as has been read now. -/
def fill (n : Nat) (content : Content) : Reader Nat := do
  modify fun d => { d with graph := d.graph.setContent n content }
  return n

/-- The most collections that may stand within each other. -/
def nestingLimit : Nat := 485

/-- What is read inside of one more collection. -/
def within {α : Type} (read : Reader α) : Reader α := do
  if nestingLimit ≤ (← get).depth then throw (.fault .tooDeep)
  modify fun d => { d with depth := d.depth + 1 }
  let a ← read
  modify fun d => { d with depth := d.depth - 1 }
  return a

/-- The node that is meant by a name. -/
def named (name : Text) : Reader Nat := do
  match (← get).anchors.lookup name with
  | some n => return n
  | none => throw .malformed

/-- Where a node stands. -/
inductive Place where
  /-- In a flow collection. -/
  | flow
  /-- In a block or at the top. -/
  | block
  /-- In a mapping that is a block: a sequence there needs no deeper column. -/
  | blockEntry
  deriving DecidableEq, Repr

/-- The tag of a scalar. -/
def scalarTag (tag : Option WrittenTag) (kind : Option Tag) (plain : Bool) (t : Text) : Tag :=
  match kind, tag with
  | some kind, _ => kind
  | none, some _ => plainTag t
  | none, none => if plain then plainTag t else .text

mutual

/-- A node at a place. -/
def readNode (place : Place) : (steps : Nat) → Reader Nat
  | 0 => throw .malformed
  | steps + 1 => do
    match ← peek with
    | .alias name =>
      let _ ← advance
      named name
    | _ =>
      let (name, tag) ← properties
      let kind ← kindOf tag
      -- a collection has its number before its entries are read, as these may name it
      let openSequence : Reader Nat := addNamed name (kind.getD .sequence) (.sequence [])
      let openMapping : Reader Nat := addNamed name (kind.getD .mapping) (.mapping [])
      if place = .blockEntry ∧ (← peek) = .blockEntry then
        let n ← openSequence
        fill n (.sequence (← within (indentless steps)))
      else match ← peek with
        | .scalar plain t =>
          let _ ← advance
          addNamed name (scalarTag tag kind plain t) (.scalar t)
        | .flowSequenceStart =>
          let _ ← advance
          let n ← openSequence
          fill n (.sequence (← within (flowSequence true steps)))
        | .flowMappingStart =>
          let _ ← advance
          let n ← openMapping
          fill n (.mapping (← within (flowMapping true steps)))
        | t =>
          if t = .blockSequenceStart ∧ place ≠ .flow then
            let _ ← advance
            let n ← openSequence
            fill n (.sequence (← within (blockSequence steps)))
          else if t = .blockMappingStart ∧ place ≠ .flow then
            let _ ← advance
            let n ← openMapping
            fill n (.mapping (← within (blockMapping steps)))
          else if name.isSome ∨ tag.isSome then addNamed name (kind.getD .null) (.scalar [])
          else throw .malformed

/-- A node, or nothing in front of one of some tokens. -/
def nodeBefore (ends : List Token) (place : Place) : (steps : Nat) → Reader Nat
  | 0 => throw .malformed
  | steps + 1 => do
    if ← sees ends then missing else readNode place steps

/-- The entries of a sequence that is a block. -/
def blockSequence : (steps : Nat) → Reader (List Nat)
  | 0 => throw .malformed
  | steps + 1 => do
    if ← take? .blockEntry then
      let item ← nodeBefore [.blockEntry, .blockEnd] .block steps
      return item :: (← blockSequence steps)
    else
      expect .blockEnd
      return []

/-- The entries of a sequence without a column of its own. -/
def indentless : (steps : Nat) → Reader (List Nat)
  | 0 => throw .malformed
  | steps + 1 => do
    if ← take? .blockEntry then
      let item ← nodeBefore [.blockEntry, .key, .value, .blockEnd] .block steps
      return item :: (← indentless steps)
    else return []

/-- The entries of a mapping that is a block. -/
def blockMapping : (steps : Nat) → Reader (List (Nat × Nat))
  | 0 => throw .malformed
  | steps + 1 => do
    if ← take? .key then
      let key ← nodeBefore [.key, .value, .blockEnd] .blockEntry steps
      let value ← blockValue steps
      return (key, value) :: (← blockMapping steps)
    else
      expect .blockEnd
      return []

/-- The value behind a key of a mapping that is a block. -/
def blockValue : (steps : Nat) → Reader Nat
  | 0 => throw .malformed
  | steps + 1 => do
    if ← take? .value then nodeBefore [.key, .value, .blockEnd] .blockEntry steps
    else missing

/-- The entries of a sequence in brackets. -/
def flowSequence (first : Bool) : (steps : Nat) → Reader (List Nat)
  | 0 => throw .malformed
  | steps + 1 => do
    if ← take? .flowSequenceEnd then return []
    if !first then expect .flowEntry
    if ← take? .key then
      -- a single entry with a key is a mapping of its own
      let pair ← addNode .mapping (.mapping [])
      let key ← nodeBefore [.value, .flowEntry, .flowSequenceEnd] .flow steps
      let value ← flowValue .flowSequenceEnd steps
      let pair ← fill pair (.mapping [(key, value)])
      return pair :: (← flowSequence false steps)
    else if ← take? .flowSequenceEnd then return []
    else
      let item ← readNode .flow steps
      return item :: (← flowSequence false steps)

/-- The value behind a key in brackets. -/
def flowValue (close : Token) : (steps : Nat) → Reader Nat
  | 0 => throw .malformed
  | steps + 1 => do
    if ← take? .value then nodeBefore [.flowEntry, close] .flow steps else missing

/-- The entries of a mapping in brackets. -/
def flowMapping (first : Bool) : (steps : Nat) → Reader (List (Nat × Nat))
  | 0 => throw .malformed
  | steps + 1 => do
    if ← take? .flowMappingEnd then return []
    if !first then expect .flowEntry
    if ← take? .key then
      let key ← nodeBefore [.value, .flowEntry, .flowMappingEnd] .flow steps
      let value ← flowValue .flowMappingEnd steps
      return (key, value) :: (← flowMapping false steps)
    else if ← take? .flowMappingEnd then return []
    else
      let key ← readNode .flow steps
      return (key, ← missing) :: (← flowMapping false steps)

end

/-- The directives in front of a document. The version is told at most once and must be the first
one of the language; a handle is told at most once. -/
def directives (version : Bool) (told : List Text) : (steps : Nat) → Reader Unit
  | 0 => throw .malformed
  | steps + 1 => do
    match ← peek with
    | .version major _ =>
      let _ ← advance
      if version ∨ major ≠ 1 then throw .malformed
      directives true told steps
    | .handle handle stands =>
      let _ ← advance
      if told.contains handle then throw .malformed
      modify fun d => { d with handles := (handle, stands) :: d.handles }
      directives version (handle :: told) steps
    | .otherDirective =>
      let _ ← advance
      directives version told steps
    | _ => return

/-- Marks behind a document left behind. -/
def skipDocumentEnds : (steps : Nat) → Reader Unit
  | 0 => return
  | steps + 1 => do if ← take? .documentEnd then skipDocumentEnds steps

/-- A token that starts a directive. -/
def isDirective : Token → Bool
  | .version .. | .handle .. | .otherDirective => true
  | _ => false

/-- The one document of a text: the number of its outermost node, none when there is nothing. A
further document is refused, once its directives have been read. -/
def document (steps : Nat) : Reader (Option Nat) := do
  let t ← peek
  if t = .streamEnd then return none
  let top ←
    if isDirective t ∨ t = .documentStart then do
      directives false [] steps
      expect .documentStart
      let t ← peek
      if isDirective t ∨ t = .documentStart ∨ t = .documentEnd ∨ t = .streamEnd then missing
      else readNode .block steps
    else readNode .block steps
  skipDocumentEnds steps
  if isDirective (← peek) then
    directives false [] steps
    expect .documentStart
    throw .malformed
  expect .streamEnd
  return some top

/-- The nodes of a text, and the number of the outermost one, if there is one. -/
def ofText (t : Text) : Reading (Option Nat × Graph) := do
  let row := TokenRow.ofText t
  let ((top, draft), _) ← ((document (4 * row.tokens.length + 8)).run {}).run row
  return (top, draft.graph)

end ComponentBook.Yaml.Graph
