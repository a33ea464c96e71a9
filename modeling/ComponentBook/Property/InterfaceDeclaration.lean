import ComponentBook.Property.AssignedDefault
import ComponentBook.Text.Lines

/-! # Properties declared by an interface

A typed script declares its properties by an interface or an object type whose name ends in `Props`.
**`interfaceBlock?`** finds its body, **`membersOf`** the members that start at the top level of the
body, and **`interfaceProperties`** reads them. -/

namespace ComponentBook.InterfaceDeclaration

open Script ObjectDeclaration

/-- The kind of declaration, as properties name it. -/
def source : Text := "interface"

/-- Whether an identifier has `Props` at its end or in front of a dollar sign. -/
def namesProps (name : Text) : Bool :=
  name.head?.any isIdentifierStart &&
    -- a dollar sign may follow, as a word ends in front of it
    (Text.search (fun _ t => do
      let rest ← Text.dropPrefix? "Props" t
      guard (rest.head?.all (· = '$'))) none name).isSome

/-- The text from its opening brace on of an interface or object type at the start of a text whose
name ends in `Props`, `before` being the character in front of it. -/
def interfaceHere? (before : Option Char) (t : Text) : Option Text := do
  guard (Text.boundary before t.head?)
  (do
    let t ← Text.dropPrefix? "interface" t
    let t ← Text.dropBlanks? t
    guard (namesProps (t.takeWhile isIdentifierChar))
    -- type parameters and what the interface extends may stand in front of the brace
    let t := t.dropWhile fun c => c ≠ '{' && c ≠ ';'
    guard (t.head? = some '{')
    return t) <|>
  (do
    let t ← Text.dropPrefix? "type" t
    let t ← Text.dropBlanks? t
    let name := t.takeWhile isIdentifierChar
    guard (name.head?.any isIdentifierStart && Text.endsWith name "Props")
    let t ← Text.dropPrefix? "=" (Text.stripLeft (t.drop name.length))
    let t := Text.stripLeft t
    guard (t.head? = some '{')
    return t)

/-- A declaration found in a script. -/
structure Located where
  /-- The text between the braces. -/
  body : Text
  /-- The text in front of the declaration. -/
  before : Text
  /-- The text after the declaration. -/
  after : Text
  deriving DecidableEq, Repr

/-- The first interface of a script whose name ends in `Props`, if its braces are closed. -/
def interfaceBlock? (script : Text) : Option Located := do
  let (before, block) ← Text.search interfaceHere? none script
  let (body, after) ← balancedBlock? block
  return { body, before, after }

/-- The rest of a text behind a line that is empty but for spaces and tabs, if the text starts with
such a line. -/
def emptyLine? (t : Text) : Option Text :=
  match t.dropWhile Text.isSpaceOrTab with
  | '\r' :: '\n' :: t => some t
  | '\n' :: t => some t
  | _ => none

theorem length_emptyLine? {t r : Text} (h : emptyLine? t = some r) : r.length < t.length := by
  have hle := (List.dropWhile_sublist Text.isSpaceOrTab (l := t)).length_le
  unfold emptyLine? at h
  split at h
  · next u hu => cases h; rw [hu] at hle; simp at hle; omega
  · next u hu => cases h; rw [hu] at hle; simp at hle; omega
  · simp at h

/-- The parts of a body between its empty lines, `part` being the part of the first one already
read, last character first. -/
def paragraphsAfter (part : Text) (t : Text) : List Text :=
  match t with
  | [] => [part.reverse]
  | '\n' :: t =>
    match _ : emptyLine? t with
    -- the empty line itself belongs to neither part
    | some rest => ('\n' :: part).reverse :: paragraphsAfter [] rest
    | none => paragraphsAfter ('\n' :: part) t
  | c :: t => paragraphsAfter (c :: part) t
termination_by t.length
decreasing_by
  all_goals simp only [List.length_cons]
  · have := length_emptyLine? ‹emptyLine? t = some rest›
    omega
  · omega
  · omega

/-- The parts of a body between its empty lines that are not blank. -/
def paragraphs (body : Text) : List Text := (paragraphsAfter [] body).filter fun p => !p.allBlank

/-- What is known behind a line of a paragraph. -/
structure LineState where
  /-- The number of braces that are open. -/
  depth : Nat := 0
  /-- Whether a block comment is open. -/
  inComment : Bool := false
  deriving DecidableEq, Repr

/-- Whether a block comment is open behind a line. -/
def LineState.commentAfter (state : LineState) (line : Text) : Bool :=
  let content := line.strip
  if state.inComment || content.startsWith "/*" then !Text.contains content "*/" else false

/-- Whether a line starts at the top level: no brace and no block comment is open in front of it,
and it does not open a block comment. -/
def LineState.atTop (state : LineState) (line : Text) : Bool :=
  !state.inComment && !line.strip.startsWith "/*" && state.depth = 0

/-- The state behind a line. The braces of a line count unless it ends inside a block comment or
starts like a line of one. -/
def LineState.next (state : LineState) (line : Text) : LineState :=
  let inComment := state.commentAfter line
  let content := line.strip
  let depth :=
    -- the braces on a line of a comment open and close nothing
    if inComment || content.startsWith "/*" || content.startsWith "*" then state.depth
    else ((state.depth : Int) + braceDelta line).toNat
  { depth, inComment }

/-- The lines of a paragraph that start at the top level, each with its place. -/
def topLinesFrom (state : LineState) (offset : Nat) : List (Text × Text) → List Segment
  | [] => []
  | (line, ending) :: rest =>
    let whole := line ++ ending
    let others := topLinesFrom (state.next whole) (offset + whole.length) rest
    if state.atTop whole then
      ⟨offset, whole.dropRightWhile fun c => c = '\r' || c = '\n'⟩ :: others
    else others

/-- The lines of a paragraph that start at the top level, each with its place. -/
def topLines (paragraph : Text) : List Segment := topLinesFrom {} 0 paragraph.brokenLines

/-- The members among the segments of a line. A segment that is a line comment belongs to the member
before it. -/
def gatherMembers : List Segment → List Segment
  | [] => []
  | s :: rest =>
    let content := s.text.strip
    -- the place of the first character that is not blank, in front of which a comment may end
    let offset := s.offset + (s.text.length - (Text.stripLeft s.text).length)
    let remarks := rest.takeWhile fun r => r.text.strip.startsWith "//"
    let others := rest.dropWhile fun r => r.text.strip.startsWith "//"
    ⟨offset, content ++ remarks.flatMap fun r => ' ' :: r.text.strip⟩ :: gatherMembers others
termination_by segments => segments.length
decreasing_by
  have := (List.dropWhile_sublist (fun r : Segment => r.text.strip.startsWith "//")
    (l := rest)).length_le
  simp only [List.length_cons]
  omega

/-- The members declared on one line, each with its place. -/
def lineMembers (line : Text) : List Segment := gatherMembers (semicolonSegments line)

/-- A member of an interface as it is written. -/
structure Member where
  /-- The name of the member. -/
  name : Text
  /-- Whether the name is followed by a question mark. -/
  optional : Bool
  /-- The type of the member. -/
  type : Text
  /-- The line comment behind the member; empty when there is none. -/
  remark : Text
  deriving DecidableEq, Repr

/-- The remark behind a type, if the text between them is a separator at most: nothing or a line
comment may follow it. -/
def remarkAfter? (t : Text) : Option Text :=
  let t := Text.stripLeft t
  let t := match t with
    | ';' :: t => t
    | ',' :: t => t
    | t => t
  match Text.stripLeft t with
  | [] => some []
  | '/' :: '/' :: remark => some (Text.strip remark)
  | _ => none

/-- The shortest type, of one character at least, behind which a remark or the end of the text
follows; `read` is the part of it already read, last character first. -/
def shortestType? (read : Text) : Text → Option (Text × Text)
  | [] => none
  | c :: t =>
    match remarkAfter? t with
    | some remark => some (Text.strip (c :: read).reverse, remark)
    | none => shortestType? (c :: read) t

/-- A member `name?: type` at the start of a text. -/
def plainMember? (t : Text) : Option Member := do
  guard (t.head?.any isIdentifierStart)
  let name := t.takeWhile isIdentifierChar
  let t := t.drop name.length
  let (optional, t) := match t with
    | '?' :: t => (true, t)
    | t => (false, t)
  let t ← Text.dropPrefix? ":" (Text.stripLeft t)
  let (type, remark) ← shortestType? [] (Text.stripLeft t)
  return { name, optional, type, remark }

/-- A member, with or without `readonly` in front. -/
def member? (t : Text) : Option Member :=
  (do
    let t ← Text.dropPrefix? "readonly" t
    plainMember? (← Text.dropBlanks? t)) <|>
  -- also a member that is itself named readonly
  plainMember? t

/-- A member of an interface with the comment in front of it. -/
structure CommentedMember where
  /-- The member. -/
  member : Member
  /-- The body of the documentation comment in front of it. -/
  comment : Option Text
  deriving DecidableEq, Repr

/-- The members that start at the top level of an interface's body, in order. -/
def membersOf (body : Text) : List CommentedMember :=
  (paragraphs body).flatMap fun paragraph =>
    (topLines paragraph).flatMap fun line =>
      (lineMembers line.text).filterMap fun entry => do
        let member ← member? entry.text
        let comment := DocComment.commentBefore? (paragraph.take (line.offset + entry.offset))
        return { member, comment }

/-- The description of a member: the prose of its comment, or its remark when that is empty. -/
def CommentedMember.description (m : CommentedMember) : Text :=
  match m.comment.map DocComment.prose with
  | some (c :: t) => c :: t
  | _ => m.member.remark

/-- The default of a member: what is assigned to its name in `scope`, or what its comment says. -/
def CommentedMember.default? (m : CommentedMember) (scope : Text) : Option Text :=
  (AssignedDefault.assignedDefault? scope m.member.name).or
    (m.comment.bind (DocComment.tagValue? "default"))

/-- The property that a member declares. -/
def CommentedMember.property (m : CommentedMember) (scope : Text) : Property where
  name := m.member.name
  type := m.member.type
  required := !m.member.optional
  default := m.default? scope
  description := m.description
  source := source

/-- The properties that the first interface of a script declares, in order. -/
def interfaceProperties (script : Text) : List Property :=
  match interfaceBlock? script with
  | none => []
  | some located =>
    -- the interface itself assigns no defaults: its types are written like values
    let scope := AssignedDefault.defaultsScope (located.before ++ located.after)
    (membersOf located.body).map fun m => m.property scope

end ComponentBook.InterfaceDeclaration
