import ComponentBook.Index.Grouping
import ComponentBook.Markdown.Description
import ComponentBook.Markdown.Layout
import ComponentBook.Template.Render

/-! # The index page

**`indexPage`** writes the index of a set of pages: the components by category, each with a link to
its page and the description that its page gives, and the design principles. The layout is that of
a template, of which **`bundledTemplate`** is the one in use unless a project has its own. -/

namespace ComponentBook

/-- Why an index cannot be written. -/
inductive IndexError where
  /-- A rule places a component in a category that an index does not list. -/
  | unknownCategory (category : Category)
  /-- The template cannot be read or written. -/
  | template (error : Template.Error)
  deriving DecidableEq, Repr

/-- The text of an error. -/
def IndexError.message : IndexError → Text
  | .unknownCategory category => category.quoted
  | .template error => error.message

/-- The name of the file of an index template. -/
def templateName : Text := "index.md.j2".toList

/-- The text of the template that is in use unless a project has its own. -/
def bundledTemplate : Text :=
  "# \x7b\x7b title \x7d\x7d\n\n\x7b\x7b intro \x7d\x7d\n\n\x7b% for group in groups %\x7d\n".toList ++
  "## \x7b\x7b group.title \x7d\x7d\n\n\x7b% for entry in group.entries %\x7d\n".toList ++
  "- [\x7b\x7b entry.name \x7d\x7d](\x7b\x7b entry.link \x7d\x7d)".toList ++
  "\x7b\x7b \" — \" ~ entry.description if entry.description else \"\" \x7d\x7d\n".toList ++
  "\x7b% endfor %\x7d\n\n\x7b% endfor %\x7d\n## \x7b\x7b principles_title \x7d\x7d\n\n".toList ++
  "\x7b% for line in principles %\x7d\n- \x7b\x7b line \x7d\x7d\n\x7b% endfor %\x7d\n".toList

/-- An entry as a value of the template language. -/
def IndexEntry.value (e : IndexEntry) : Template.Value :=
  .record "compdoc.index.IndexEntry" [("name".toList, .text e.name), ("link".toList, .text e.link),
    ("description".toList, .text e.description)]

/-- A group as a value of the template language. -/
def IndexGroup.value (g : IndexGroup) : Template.Value :=
  .record "compdoc.index.IndexGroup" [("category".toList, .text g.category),
    ("title".toList, .text g.title), ("entries".toList, .list false (g.entries.map (·.value)))]

/-- The values that an index template can use. -/
def indexValues (locale : Locale) (groups : List IndexGroup) : Template.Scope := [
  ("title".toList, .text locale.indexTitle),
  ("intro".toList, .text locale.indexIntro),
  ("groups".toList, .list false (groups.map (·.value))),
  ("principles_title".toList, .text locale.principlesTitle),
  ("principles".toList, .list true (locale.principles.map .text)),
  -- a name that the template language adds on its own
  ("self".toList, .object "jinja2.runtime.TemplateReference".toList
    ("<TemplateReference ".toList ++ templateName.quoted ++ ['>']) [])]

/-- The description of a page for the index, on one line; empty when the page has none. -/
def flatDescription (page : Text) : Text := ((Markdown.description? page).map Text.collapse).getD []

/-- The groups of an index, written by a template and laid out. -/
def renderIndex (locale : Locale) (template : Text) (groups : List IndexGroup) :
    Except IndexError Text := do
  let written := do Template.render (← Template.parse template) (indexValues locale groups)
  match written with
  | .ok t => return Markdown.tidy t
  | .error e => throw (.template e)

/-- The index of pages that are given by their names and texts. -/
def indexPage (locale : Locale) (rules : List CategoryRule) (template : Text)
    (pages : List (Text × Text)) : Except IndexError Text :=
  let describe (name : Text) : Text := ((pages.lookup name).map flatDescription).getD []
  match groupNames locale rules (pages.map Prod.fst) describe with
  | .error category => .error (.unknownCategory category)
  | .ok groups => renderIndex locale template groups

end ComponentBook
