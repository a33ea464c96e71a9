import ComponentBook.Template.Token

/-! # Reading templates

**`parse`** reads a template: outputs hold an expression, statements open, divide and close loops
and branches. Reading stops at the first word that does not fit (**`Stop`**), and what should stand
there makes the message. -/

namespace ComponentBook.Template

/-- What has to stand in a place. -/
inductive Wanted where
  /-- A value. -/
  | value
  /-- A value, as the first thing in its place. -/
  | expression
  /-- The part that a dot asks for. -/
  | field
  /-- A name in front of this place. -/
  | target
  /-- A word. -/
  | word (w : Text)
  /-- The end of the tag. -/
  | closing
  /-- A statement that fits. -/
  | statement
  deriving DecidableEq, Repr

/-- A place at which something else has to stand: what, and the words from there on. -/
structure Stop where
  /-- What has to stand there. -/
  wanted : Wanted
  /-- The words of the tag from there on. -/
  rest : List Word
  deriving DecidableEq, Repr

/-- A reader of words: what it has read and the words behind it. -/
abbrev Reader (α : Type) := List Word → Except Stop (α × List Word)

/-! ## Expressions -/

/-- The value or the name that a word stands for. -/
def Expr.ofName (n : Text) : Expr :=
  if n = "true".toList || n = "True".toList then .constant (.flag true)
  else if n = "false".toList || n = "False".toList then .constant (.flag false)
  else if n = "none".toList || n = "None".toList then .constant .null
  else .name n

/-- The parts of a value that are asked for behind it. -/
def withParts (owner : Expr) : Reader Expr
  | .sign ['.'] :: .name field :: ws => withParts (.part owner field) ws
  | .sign ['.'] :: .number place :: ws => withParts (.element owner place) ws
  | .sign ['.'] :: ws => .error ⟨.field, ws⟩
  | ws => .ok (owner, ws)

/-- The texts in quotes at the start, one behind the other, and the words behind them. -/
def adjacentTexts : List Word → Text × List Word
  | .text t :: ws => let (more, ws) := adjacentTexts ws; (t ++ more, ws)
  | ws => ([], ws)

/-- A text, a number or a name. -/
def atom : Reader Expr
  | .text t :: ws => let (t, ws) := adjacentTexts (.text t :: ws); .ok (.constant (.text t), ws)
  | .number n :: ws => .ok (.constant (.number n), ws)
  | .name n :: ws => .ok (.ofName n, ws)
  | ws => .error ⟨.value, ws⟩

/-- A text, a number or a name, with the parts asked for. -/
def operand : Reader Expr := fun ws => do
  let (e, ws) ← atom ws
  withParts e ws

/-- One or more expressions with a word between each two of them. -/
def chain (between : Word) (combine : Expr → Expr → Expr) (part : Reader Expr) :
    (steps : Nat) → Reader Expr
  | 0, ws => .error ⟨.value, ws⟩
  | steps + 1, ws => do
    let (first, ws) ← part ws
    if ws.head? = some between then
      let (second, ws) ← chain between combine part steps ws.tail
      return (combine first second, ws)
    else return (first, ws)

/-- Values joined by tildes. -/
def joined : Reader Expr := fun ws => chain (.sign ['~']) .joined operand ws.length.succ ws

/-- Joined values, negated or not. -/
def negatable : Reader Expr
  | .name ['n', 'o', 't'] :: ws => do
    let (e, ws) ← negatable ws
    return (.negated e, ws)
  | ws => joined ws

/-- Values of which all have to count as true. -/
def conjunction : Reader Expr :=
  fun ws => chain (.name "and".toList) .both negatable ws.length.succ ws

/-- Values of which one has to count as true. -/
def disjunction : Reader Expr :=
  fun ws => chain (.name "or".toList) .either conjunction ws.length.succ ws

mutual

/-- A value, with conditions and other values behind it or not. -/
def choice : (steps : Nat) → Reader Expr
  | 0, ws => .error ⟨.value, ws⟩
  | steps + 1, ws => do
    let (value, ws) ← disjunction ws
    conditions steps value ws

/-- The conditions behind a value, the last one deciding first. -/
def conditions : (steps : Nat) → Expr → Reader Expr
  | steps + 1, value, .name ['i', 'f'] :: ws => do
    let (condition, ws) ← disjunction ws
    match ws with
    | .name ['e', 'l', 's', 'e'] :: ws =>
      let (otherwise, ws) ← choice steps ws
      conditions steps (.choice value condition (some otherwise)) ws
    | ws => conditions steps (.choice value condition none) ws
  | _, value, ws => .ok (value, ws)

end

/-- A whole expression, of which there has to be a first word. -/
def expression (conditional : Bool) : Reader Expr
  | [] => .error ⟨.expression, []⟩
  | ws => if conditional then choice (2 * ws.length + 1) ws else disjunction ws

/-- The tag ends here. -/
def close : List Word → Except Stop Unit
  | [] => .ok ()
  | ws => .error ⟨.closing, ws⟩

/-- The tag ends here, or behind a colon. -/
def closeColon (ws : List Word) : Except Stop Unit :=
  close (if ws.head? = some (.sign [':']) then ws.tail else ws)

/-! ## Statements -/

/-- The first words of statements. -/
inductive Keyword where
  /-- It opens a loop. -/
  | loop
  /-- It opens a branch. -/
  | branch
  /-- It divides a branch and opens another one. -/
  | otherwiseBranch
  /-- It divides a loop or a branch. -/
  | otherwise
  /-- It closes a loop. -/
  | endLoop
  /-- It closes a branch. -/
  | endBranch
  deriving DecidableEq, Repr

/-- The word. -/
def Keyword.text : Keyword → Text
  | .loop => "for"
  | .branch => "if"
  | .otherwiseBranch => "elif"
  | .otherwise => "else"
  | .endLoop => "endfor"
  | .endBranch => "endif"

/-- The keyword that a word is. -/
def Keyword.ofText? (t : Text) : Option Keyword :=
  [loop, branch, otherwiseBranch, otherwise, endLoop, endBranch].find? (·.text = t)

/-- A loop or branch that is open. -/
inductive Frame where
  /-- A loop whose body is being read. -/
  | loop (item : Text) (range : Expr) (filter : Option Expr)
  /-- A loop whose body has been read. -/
  | loopElse (item : Text) (range : Expr) (filter : Option Expr) (body : List Node)
  /-- A branch whose first part is being read. -/
  | branch (condition : Expr)
  /-- A branch whose first part has been read. -/
  | branchElse (condition : Expr) (yes : List Node)
  /-- A branch whose second part is the branch inside it, with which it is closed. -/
  | chained (condition : Expr) (yes : List Node)
  deriving Repr

/-- The word that opens a part, and the words that can close it; nothing for a part that is closed
with another one. -/
def Frame.closers? : Frame → Option (Keyword × List Keyword)
  | .loop _ _ _ => some (.loop, [.endLoop, .otherwise])
  | .loopElse _ _ _ _ => some (.loop, [.endLoop])
  | .branch _ => some (.branch, [.otherwiseBranch, .otherwise, .endBranch])
  | .branchElse _ _ => some (.branch, [.endBranch])
  | .chained _ _ => none

/-- What has been read: the parts of the innermost open frame, last part first, and the open frames
with the parts in front of each. -/
structure Reading where
  /-- The parts of the innermost frame. -/
  parts : List Node := []
  /-- The open frames, the innermost first. -/
  frames : List (Frame × List Node) := []
  /-- Whether a loop has taken the name that is kept for loops. -/
  takesLoop : Bool := false
  deriving Repr

/-- The words that open the open parts, and those that can close them. -/
def Reading.opened (r : Reading) : List (Text × List Text) :=
  r.frames.filterMap fun (frame, _) =>
    frame.closers?.map fun (word, closers) => (word.text, closers.map Keyword.text)

/-- A frame is opened. -/
def Reading.push (r : Reading) (frame : Frame) : Reading :=
  { r with parts := [], frames := (frame, r.parts) :: r.frames }

/-- The second part of the innermost frame starts; it is now `frame`, with the parts `before` it. -/
def Reading.divide (r : Reading) (frame : Frame) (before : List Node)
    (frames : List (Frame × List Node)) : Reading :=
  { r with parts := [], frames := (frame, before) :: frames }

/-- A closed branch stands behind the parts in front of it, and the branches that it is chained to
are closed with it. -/
def Reading.placeBranch (r : Reading) (node : Node) (before : List Node) :
    List (Frame × List Node) → Reading
  | (.chained condition yes, outer) :: frames =>
    r.placeBranch (.branch condition yes (before.reverse ++ [node])) outer frames
  | frames => { r with parts := node :: before, frames }

/-- What a loop names its items, and the list that it runs over with its filter. -/
def loopHead (ws : List Word) : Except Stop (Text × Expr × Option Expr) := do
  if ws.isEmpty then throw ⟨.expression, []⟩
  let (target, ws) ← atom ws
  let item ← match target with
    -- what stands here names the items, so true, false and none are refused like any constant
    | .name n => pure n
    | _ => throw ⟨.target, ws⟩
  match ws with
  | .name ['i', 'n'] :: ws =>
    let (range, ws) ← expression false ws
    match ws with
    | .name ['i', 'f'] :: ws =>
      let (filter, ws) ← choice (2 * ws.length + 1) ws
      closeColon ws
      return (item, range, some filter)
    | ws =>
      closeColon ws
      return (item, range, none)
  | ws => throw ⟨.word "in".toList, ws⟩

/-- The condition of a branch. -/
def branchHead (ws : List Word) : Except Stop Expr := do
  let (condition, ws) ← expression false ws
  closeColon ws
  return condition

/-- A statement is read: a keyword with the words `ws` behind it. -/
def Reading.statement (r : Reading) (keyword : Keyword) (ws : List Word) : Except Stop Reading :=
  match keyword, r.frames with
  | .loop, _ => do
    let (item, range, filter) ← loopHead ws
    return { r.push (.loop item range filter) with
      takesLoop := r.takesLoop || item = "loop".toList }
  | .branch, _ => do return r.push (.branch (← branchHead ws))
  | .otherwiseBranch, (.branch condition, before) :: frames => do
    let next ← branchHead ws
    return (r.divide (.chained condition r.parts.reverse) before frames).push (.branch next)
  | .otherwise, (.loop item range filter, before) :: frames => do
    closeColon ws
    return r.divide (.loopElse item range filter r.parts.reverse) before frames
  | .otherwise, (.branch condition, before) :: frames => do
    closeColon ws
    return r.divide (.branchElse condition r.parts.reverse) before frames
  | .endLoop, (.loop item range filter, before) :: frames => do
    close ws
    return { r with parts := .loop item range filter r.parts.reverse [] :: before, frames }
  | .endLoop, (.loopElse item range filter body, before) :: frames => do
    close ws
    return { r with parts := .loop item range filter body r.parts.reverse :: before, frames }
  | .endBranch, (.branch condition, before) :: frames => do
    close ws
    return r.placeBranch (.branch condition r.parts.reverse []) before frames
  | .endBranch, (.branchElse condition yes, before) :: frames => do
    close ws
    return r.placeBranch (.branch condition yes r.parts.reverse) before frames
  | keyword, _ => .error ⟨.statement, .name keyword.text :: ws⟩

/-- The words of a statement are read. -/
def Reading.words (r : Reading) : List Word → Except Stop Reading
  | .name n :: ws =>
    match Keyword.ofText? n with
    | some keyword => r.statement keyword ws
    | none => .error ⟨.statement, .name n :: ws⟩
  | ws => .error ⟨.statement, ws⟩

/-! ## Messages -/

/-- What a message calls the end of a tag. -/
def TagKind.closingName : TagKind → Text
  | .output => "end of print statement"
  | .statement => "end of statement block"
  | .comment => "end of comment"

/-- What a message calls a word. -/
def Word.description : Word → Text
  | .name n => n
  | .text _ => "string"
  | .number _ => "integer"
  | .sign s => s

/-- What a message calls the first of some words, or the end of the tag. -/
def described (kind : TagKind) (ending : Ending) : List Word → Text
  | w :: _ => w.description
  | [] => if ending = .cut then "end of template".toList else kind.closingName

/-- Why a tag that ends in some way cannot be read any further. A fault behind the last word counts
as soon as that word has been read. -/
def Stop.fault (stop : Stop) (kind : TagKind) (ending : Ending) (opened : List (Text × List Text)) :
    SyntaxFault :=
  let found := described kind ending stop.rest
  let missing (wanted : Text) : SyntaxFault :=
    if stop.rest.isEmpty && ending = .cut then .expectedAtEnd wanted else .expected wanted found
  match stop.wanted, stop.rest, ending with
  | _, [], .fault f => f
  | .field, [_], .fault f => f
  | .value, _, _ => .unexpected found
  | .expression, _, .closed => .noExpression found
  | .expression, _, _ => .unexpected found
  | .field, _, _ => .noField
  | .target, _, _ => .constantTarget
  | .word w, _, _ => missing w
  | .closing, _, _ => missing kind.closingName
  | .statement, .name n :: _, _ => .unknownStatement n opened
  | .statement, _, _ => .noStatement

/-- What a reader has found at the words of a tag. A tag that is not closed is a fault even if its
words can be read. -/
def inTag (r : Reading) (kind : TagKind) (ending : Ending) (result : Except Stop α) :
    Except SyntaxFault α :=
  match result, ending with
  | .error stop, _ => .error (stop.fault kind ending r.opened)
  | .ok a, .closed => .ok a
  | .ok _, _ => .error (Stop.fault ⟨.closing, []⟩ kind ending r.opened)

/-! ## Templates -/

/-- A token is read. -/
def Reading.token (r : Reading) : Token → Except SyntaxFault Reading
  | .data t => .ok { r with parts := if t.isEmpty then r.parts else .data t :: r.parts }
  | .output words ending =>
    inTag r .output ending do
      let (e, ws) ← expression true words
      close ws
      return { r with parts := .output e :: r.parts }
  | .statement words ending => inTag r .statement ending (r.words words)
  | .fault f => .error f

/-- The parts of a template that has been read to its end. -/
def Reading.finish (r : Reading) : Except SyntaxFault (List Node) :=
  if !r.frames.isEmpty then .error (.unclosed r.opened)
  else if r.takesLoop then .error .loopTarget
  else .ok r.parts.reverse

/-- The parts of a template. -/
def parse (t : Text) : Except Error (List Node) :=
  match do ((tokens t).foldlM Reading.token {}) >>= Reading.finish with
  | .ok parts => .ok parts
  | .error fault => .error (.unreadable fault)

end ComponentBook.Template
