import ComponentBook.Component.Zones
import ComponentBook.Markup.Excerpt
import ComponentBook.Property.Extraction
import ComponentBook.Script.ComponentName
import ComponentBook.Script.DocComment
import ComponentBook.Script.Example

/-! # Components

A **`Component`** is all that a component file says about its component. **`Component.ofSource`**
reads it; a part that cannot be found is left empty, and no text is refused. -/

namespace ComponentBook

/-- A style as a page shows it. -/
structure Style where
  /-- Its text. -/
  content : Text
  /-- Its language. -/
  lang : Text := "css"
  /-- The attributes of its tag. -/
  attrs : Text := []
  deriving DecidableEq, Repr

/-- A style zone without blank characters at its ends; its language is `css` unless it declares
another. -/
def StyleZone.style (zone : StyleZone) : Style where
  content := zone.content.strip
  lang := zone.lang?.getD "css"
  attrs := zone.attrs

/-- What is known about a component. -/
structure Component where
  /-- Its name. -/
  name : Text
  /-- What it is for, on one line. -/
  description : Text := []
  /-- Its properties in the order of their declaration. -/
  properties : List Property := []
  /-- The excerpt of its template. -/
  template : Text := []
  /-- Its styles in the order of the file. -/
  styles : List Style := []
  /-- An example of its use. -/
  usage : Text := []
  /-- Whether the usage was given by the author. -/
  usageIsGiven : Bool := false
  /-- Whether its template takes content from outside. -/
  hasSlot : Bool := false
  deriving DecidableEq, Repr

/-- What a component file says. `fallback` names a component that declares no name. -/
def Component.ofSource (policy : MergePolicy) (placeholder source fallback : Text) : Component :=
  let zones := SourceZones.ofText source
  let given := Script.example? zones.script
  { name := Script.componentName zones.script fallback
    description := Script.description zones.script
    properties := scriptProperties policy zones.script
    template := Markup.excerpt Markup.excerptLimit placeholder zones.template
    styles := zones.styles.map StyleZone.style
    usage := given.getD []
    usageIsGiven := given.isSome
    hasSlot := Markup.hasSlot zones.template }

end ComponentBook
