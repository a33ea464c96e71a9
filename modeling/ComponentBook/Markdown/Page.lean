import ComponentBook.Component.Basic
import ComponentBook.Locale
import ComponentBook.Markdown.Layout

/-! # Reference pages

**`page`** writes the reference page of a component: title, description, example, table of
properties, template and styles, in this order. Parts without content are left out, except for the
example. -/

namespace ComponentBook.Markdown

/-- Style languages that have a fence language of their own. -/
def styleLanguages : List Text := ["scss".toList, "sass".toList, "less".toList, "stylus".toList]

/-- The fence language of a style: the first of the style languages that its language or attributes
mention, else `css`. -/
def styleFenceLanguage (style : Style) : Text :=
  let mentioned := Text.lower (style.lang ++ ' ' :: style.attrs)
  (styleLanguages.find? fun l => mentioned.contains l).getD "css"

/-- A value as the cell of a table: on one line, its pipes escaped. -/
def cell (value : Text) : Text :=
  value.collapse.flatMap fun c => if c = '|' then ['\\', '|'] else [c]

/-- A row of a table. -/
def row (cells : List Text) : Text :=
  "| ".toList ++ Text.join " | ".toList cells ++ " |".toList

/-- The cells of a property: name, type, required mark, default and description. -/
def propertyCells (p : Property) : List Text :=
  let orDash (t : Text) : Text := if t.isEmpty then ['-'] else cell t
  [cell p.name,
    if p.type.isEmpty then ['-'] else Script.backquote :: cell p.type ++ [Script.backquote],
    if p.required then ['✓'] else [],
    orDash (p.default.getD []),
    orDash p.description]

/-- A heading of a section. -/
def sectionHeading (title : Text) : Text := "## ".toList ++ title

/-- The line that opens a fence. -/
def openingFence (language : Text) : Text := fence ++ language

/-- The lines of the example. -/
def exampleSection (locale : Locale) (codeLanguage usage : Text) : List Text :=
  [sectionHeading locale.exampleTitle, [], openingFence codeLanguage, usage.strip, fence, []]

/-- The lines of the table of properties. -/
def propsSection (locale : Locale) (ps : List Property) : List Text :=
  [sectionHeading locale.propsTitle, [], row locale.propsHeaders,
    "|------|------|:------:|------|------|".toList] ++
  (ps.map fun p => row (propertyCells p)) ++ [[]]

/-- The lines of the template, indented and inside template tags. -/
def templateSection (locale : Locale) (codeLanguage template : Text) : List Text :=
  [sectionHeading locale.templateTitle, [], openingFence codeLanguage, "<template>".toList] ++
  (template.strip.lines.map fun l => if l.allBlank then [] else ' ' :: ' ' :: l) ++
  ["</template>".toList, fence, []]

/-- The lines of one style: an introduction that names its attributes, and its text. -/
def styleLines (locale : Locale) (style : Style) : List Text :=
  let label := if style.attrs.allBlank then "CSS".toList else style.attrs.strip
  [locale.styleIntro.fill label, [], openingFence (styleFenceLanguage style), style.content.strip,
    fence, []]

/-- The lines of the styles. -/
def styleSection (locale : Locale) (styles : List Style) : List Text :=
  [sectionHeading locale.styleTitle, []] ++ styles.flatMap (styleLines locale)

/-- The description of a page: what a page of the component says already, else what its source
says. -/
def chosenDescription (existing : Option Text) (own : Text) : Text :=
  match existing with
  | some e => if e.allBlank then own else e
  | none => own

/-- The lines of a page before it is laid out. -/
def pageDraft (locale : Locale) (codeLanguage : Text) (existing : Option Text) (c : Component) :
    List Text :=
  let description := (chosenDescription existing c.description).strip
  [ "# ".toList ++ c.name, []] ++
  (if description.isEmpty then [] else [description, []]) ++
  exampleSection locale codeLanguage c.usage ++
  (if c.properties.isEmpty then [] else propsSection locale c.properties) ++
  (if c.template.allBlank then [] else templateSection locale codeLanguage c.template) ++
  (if c.styles.isEmpty then [] else styleSection locale c.styles)

/-- The reference page of a component. -/
def page (locale : Locale) (codeLanguage : Text) (existing : Option Text) (c : Component) : Text :=
  tidy (Text.join ['\n'] (pageDraft locale codeLanguage existing c))

end ComponentBook.Markdown
