import ComponentBook.Script.Lexeme
import ComponentBook.Text.Blank
import ComponentBook.Text.Lines

/-! # Canonical layout of a page

**`tidy`** lays a Markdown page out as blocks with one blank line between them. A block is a
heading, a fence, a table or a paragraph (**`Block`**); **`Block.ofLines`** reads the blocks of a
page, **`Block.lines`** gives the lines of one. The text inside a fence is kept as it is, a fence
that is left open is closed, and every row of a table ends in a pipe. -/

namespace ComponentBook.Markdown

/-- The line that closes a fence. -/
def fence : Text := [Script.backquote, Script.backquote, Script.backquote]

/-- A line opens a fence: it starts with three backquotes behind its blank characters. -/
def opensFence (line : Text) : Bool := line.strip.startsWith fence

/-- A line closes a fence: it is three backquotes or more and nothing else. -/
def closesFence (line : Text) : Bool :=
  opensFence line && line.strip.all (· = Script.backquote)

/-- What a line outside fences is. -/
inductive LineKind where
  /-- It has blank characters only. -/
  | blank
  /-- It opens a fence. -/
  | fence
  /-- It starts with a number sign. -/
  | heading
  /-- It starts with a pipe. -/
  | row
  /-- It is anything else. -/
  | prose
  deriving DecidableEq, Repr

/-- The kind of a line outside fences. -/
def LineKind.of (line : Text) : LineKind :=
  if opensFence line then .fence
  else match line.strip with
    | [] => .blank
    | c :: _ => if c = '#' then .heading else if c = '|' then .row else .prose

/-- A part of a page that stands between blank lines. -/
inductive Block where
  /-- A heading. -/
  | heading (line : Text)
  /-- A fence: its opening line and the lines inside it. -/
  | fence (opening : Text) (body : List Text)
  /-- The rows of a table. -/
  | table (rows : List Text)
  /-- The lines of a paragraph. -/
  | paragraph (lines : List Text)
  deriving DecidableEq, Repr

/-- The lines of a block. -/
def Block.lines : Block → List Text
  | .heading line => [line]
  | .fence opening body => opening :: body ++ [Markdown.fence]
  | .table rows => rows
  | .paragraph lines => lines

/-- A row with a pipe at its end that is not escaped. -/
def closeRow (row : Text) : Text :=
  if !row.endsWith ['|'] || row.endsWith ['\\', '|'] then row ++ [' ', '|'] else row

/-- The lines without the blank lines at their end. -/
def dropBlankEnd (lines : List Text) : List Text :=
  (lines.reverse.dropWhile Text.allBlank).reverse

/-- The lines inside a fence and the lines after it, when it is closed. -/
def closedFence? : List Text → Option (List Text × List Text)
  | [] => none
  | line :: rest =>
    if closesFence line then some ([], rest)
    else (closedFence? rest).map fun (body, after) => (line :: body, after)

theorem length_closedFence? {ls body rest : List Text} (h : closedFence? ls = some (body, rest)) :
    rest.length < ls.length := by
  induction ls generalizing body with
  | nil => simp [closedFence?] at h
  | cons l ls ih =>
    rw [closedFence?] at h
    split at h
    · obtain ⟨rfl, rfl⟩ := Prod.mk.inj (Option.some.inj h)
      simp
    · obtain ⟨⟨b, r⟩, hb, he⟩ := Option.map_eq_some_iff.1 h
      obtain ⟨rfl, rfl⟩ := Prod.mk.inj he
      have := ih hb
      simp only [List.length_cons]
      omega

/-- The blocks of a page that is given by its lines. -/
def Block.ofLines : List Text → List Block
  | [] => []
  | line :: rest =>
    match LineKind.of line with
    | .blank => Block.ofLines rest
    | .heading => .heading line.strip :: Block.ofLines rest
    | .fence =>
      match _ : closedFence? rest with
      | some (body, after) => .fence line.strip body :: Block.ofLines after
      | none => [.fence line.strip (dropBlankEnd rest)]
    | .row =>
      .table ((line :: rest.takeWhile fun l => LineKind.of l = .row).map fun l =>
          closeRow l.strip) ::
        Block.ofLines (rest.dropWhile fun l => LineKind.of l = .row)
    | .prose =>
      .paragraph ((line :: rest.takeWhile fun l => LineKind.of l = .prose).map Text.stripRight) ::
        Block.ofLines (rest.dropWhile fun l => LineKind.of l = .prose)
termination_by lines => lines.length
decreasing_by
  · simp
  · simp
  · have := length_closedFence? ‹closedFence? rest = some (body, after)›
    simp only [List.length_cons]
    omega
  · have := (List.dropWhile_sublist (fun l => decide (LineKind.of l = .row)) (l := rest)).length_le
    simp only [List.length_cons]
    omega
  · have := (List.dropWhile_sublist (fun l => decide (LineKind.of l = .prose)) (l := rest)).length_le
    simp only [List.length_cons]
    omega

/-- The lines of a page; its line ends are line feeds, carriage returns or both. -/
def pageLines (page : Text) : List Text := Text.fields '\n' page.unifyNewlines

/-- A page made of blocks, one blank line between them and a line feed at its end; empty when there
are no blocks. -/
def ofBlocks (blocks : List Block) : Text :=
  if blocks.isEmpty then []
  else Text.join ['\n', '\n'] (blocks.map fun b => Text.join ['\n'] b.lines) ++ ['\n']

/-- A page in canonical layout. -/
def tidy (page : Text) : Text := ofBlocks (Block.ofLines (pageLines page))

end ComponentBook.Markdown
