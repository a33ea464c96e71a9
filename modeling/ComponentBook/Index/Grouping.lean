import ComponentBook.Locale

/-! # Grouping of components

An index groups components by purpose, which is read off their names. **`classify`** gives the
category of a name: that of the first rule one of whose keywords the name contains.
**`groupNames`** distributes names over the categories: each name is listed once, in the category
that the rules give it, names in ascending order and categories in their fixed order. -/

namespace ComponentBook

/-- A category and the keywords that place a name in it. -/
structure CategoryRule where
  /-- The category. -/
  category : Category
  /-- The keywords, one of which the name has to contain. -/
  keywords : List Text
  deriving DecidableEq, Repr

/-- Whether a name contains one of the keywords of a rule. -/
def CategoryRule.accepts (rule : CategoryRule) (name : Text) : Bool :=
  rule.keywords.any fun k => name.contains k

/-- The rules in the order in which they are tried. -/
def categoryRules : List CategoryRule := [
  ⟨"Base", ["Button".toList, "Icon".toList, "Link".toList, "Text".toList, "Typography".toList,
    "Divider".toList]⟩,
  ⟨"Navigation", ["Nav".toList, "Menu".toList, "Tab".toList, "Breadcrumb".toList,
    "Pagination".toList, "Steps".toList, "Dropdown".toList, "Anchor".toList]⟩,
  ⟨"Form", ["Form".toList, "Input".toList, "Select".toList, "Checkbox".toList, "Radio".toList,
    "Switch".toList, "Slider".toList, "Picker".toList, "Upload".toList, "Field".toList,
    "Rate".toList]⟩,
  ⟨"DataDisplay", ["Table".toList, "List".toList, "Card".toList, "Avatar".toList, "Badge".toList,
    "Tag".toList, "Tooltip".toList, "Tree".toList, "Image".toList, "Calendar".toList,
    "Collapse".toList]⟩,
  ⟨"Feedback", ["Alert".toList, "Message".toList, "Modal".toList, "Dialog".toList,
    "Notification".toList, "Progress".toList, "Spin".toList, "Loading".toList, "Toast".toList,
    "Drawer".toList]⟩,
  ⟨"Layout", ["Layout".toList, "Grid".toList, "Row".toList, "Col".toList, "Container".toList,
    "Space".toList, "Header".toList, "Footer".toList, "Aside".toList, "Sidebar".toList]⟩]

/-- The category of a name: that of the first rule that accepts it, else the fallback. -/
def classify (rules : List CategoryRule) (name : Text) : Category :=
  match rules.find? fun r => r.accepts name with
  | some rule => rule.category
  | none => fallbackCategory

/-- One line of an index. -/
structure IndexEntry where
  /-- The name of the component. -/
  name : Text
  /-- The address of its page, as seen from the index. -/
  link : Text
  /-- Its description on one line; may be empty. -/
  description : Text
  deriving DecidableEq, Repr

/-- The components of one category. -/
structure IndexGroup where
  /-- The category. -/
  category : Category
  /-- Its heading. -/
  title : Text
  /-- Its components in ascending order of their names. -/
  entries : List IndexEntry
  deriving DecidableEq, Repr

/-- The ending of the file of a page. -/
def pageSuffix : Text := ".md"

/-- An ascending list of texts, each listed once. -/
def dropRepeats : List Text → List Text
  | [] => []
  | [t] => [t]
  | t :: u :: ts => if t = u then dropRepeats (u :: ts) else t :: dropRepeats (u :: ts)

/-- The distinct texts of a list in ascending order. -/
def distinctSorted (ts : List Text) : List Text := dropRepeats (Text.sorted ts)

/-- The entry of a name; `describe` gives the descriptions. -/
def indexEntry (describe : Text → Text) (name : Text) : IndexEntry where
  name := name
  link := "./".toList ++ name ++ pageSuffix
  description := describe name

/-- The groups of a list of names. A rule may name a category that an index does not list; the first
name that such a rule accepts makes that category the error. -/
def groupNames (locale : Locale) (rules : List CategoryRule) (names : List Text)
    (describe : Text → Text) : Except Category (List IndexGroup) :=
  let sorted := distinctSorted names
  -- checked for all names first: one stray name leaves no index at all
  match sorted.find? fun n => !categoryOrder.contains (classify rules n) with
  | some stray => .error (classify rules stray)
  | none =>
    .ok (categoryOrder.filterMap fun category =>
      match sorted.filter fun n => classify rules n == category with
      | [] => none
      | members => some
        { category
          title := locale.categoryTitle category
          entries := members.map (indexEntry describe) })

end ComponentBook
