import ComponentBook.Text.Basic

/-! # Common indentation

**`dedent`** removes from the lines of a text the longest run of spaces and tabs that all lines with
other characters start with. Lines made of spaces and tabs alone become empty. Lines end at line
feeds only. -/

namespace ComponentBook.Text

/-- The spaces and tabs at the start of a line. -/
def indentation (line : Text) : Text := line.takeWhile isSpaceOrTab

/-- The longest text that both texts start with. -/
def commonStart : Text → Text → Text
  | a :: s, b :: t => if a = b then a :: commonStart s t else []
  | _, _ => []

/-- A line has a character other than spaces and tabs. -/
def hasContent (line : Text) : Bool := line.any fun c => !isSpaceOrTab c

/-- The indentation that all lines with content share. -/
def commonIndentation (lines : List Text) : Text :=
  match (lines.filter hasContent).map indentation with
  | [] => []
  | margin :: margins => margins.foldl commonStart margin

/-- A text without the indentation that its lines share. -/
def dedent (t : Text) : Text :=
  let lines := fields '\n' t
  let width := (commonIndentation lines).length
  join ['\n'] (lines.map fun l => if hasContent l then l.drop width else [])

end ComponentBook.Text
