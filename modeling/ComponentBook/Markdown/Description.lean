import ComponentBook.Text.Blank
import ComponentBook.Text.Lines

/-! # The description on a page

**`description?`** reads from a page what its author wrote between the title and the first
section. -/

namespace ComponentBook.Markdown

/-- The lines between the first title line and the next section line; `none` when one of the two is
missing. -/
def betweenTitleAndSection? (lines : List Text) : Option (List Text) :=
  let isTitle : Text → Bool := fun l => l.startsWith "# "
  let isSection : Text → Bool := fun l => l.startsWith "## "
  match lines.dropWhile fun l => !isTitle l with
  | [] => none
  | _ :: rest =>
    if rest.any isSection then some (rest.takeWhile fun l => !isSection l) else none

/-- The lines with text between the title of a page and its first section; `none` when there are
none. -/
def description? (page : Text) : Option Text := do
  let between ← betweenTitleAndSection? page.lines
  let kept := (between.filter fun l => !l.allBlank).map Text.strip
  guard (!kept.isEmpty)
  return Text.join ['\n'] kept

end ComponentBook.Markdown
