import ComponentBook.Markup.Tag
import ComponentBook.Text.Dedent

/-! # Excerpts of templates

A page shows the template of a component with its large parts left out. **`childSpans`** finds the
elements that stand one level below an outermost element, **`excerpt`** puts a placeholder in place
of those that are longer than a limit. -/

namespace ComponentBook.Markup

/-- The elements that are open at a place of a template. -/
structure OpenElements where
  /-- Their names, the innermost first. -/
  names : List Text := []
  /-- Where the open element one level below the outermost one starts. -/
  childStart : Option Nat := none
  deriving DecidableEq, Repr

/-- What a tag does to the open elements, and the span of a child that it completes. A closing tag
closes the innermost element of its name and all elements inside it; without such an element it is
left aside. -/
def OpenElements.step (state : OpenElements) (span : Span) (tag : Tag) :
    OpenElements × Option Span :=
  if tag.closing then
    if state.names.contains tag.name then
      let names := (state.names.dropWhile (· ≠ tag.name)).drop 1
      match names, state.childStart with
      -- only the outermost element is left open, so what has been closed is its child
      | [_], some start => ({ names, childStart := none }, some ⟨start, span.stop⟩)
      | [], _ => ({ names, childStart := none }, none)
      | _, childStart => ({ names, childStart }, none)
    else (state, none)
  else if tag.selfClosing then
    -- an element that is never open is a child as it stands
    (state, if state.names.length = 1 then some span else none)
  else
    ({ names := tag.name :: state.names
       childStart := if state.names.length = 1 then some span.start else state.childStart }, none)

/-- The spans that the tags of a template complete, in order. -/
def completedSpans (state : OpenElements) : List (Span × Tag) → List Span
  | [] => []
  | (span, tag) :: rest =>
    let (state, completed) := state.step span tag
    completed.toList ++ completedSpans state rest

/-- The spans of the elements that stand one level below an outermost element. -/
def childSpans (t : Text) : List Span := completedSpans {} (tags t)

/-- A text with `placeholder` in place of each span; the spans are disjoint and in order, and
`offset` characters stand in front of the text. -/
def replaceSpans (placeholder : Text) (offset : Nat) (t : Text) : List Span → Text
  | [] => t
  | s :: spans =>
    t.take (s.start - offset) ++ placeholder ++
      replaceSpans placeholder s.stop (t.drop (s.stop - offset)) spans

/-- The number of characters above which an element is left out of an excerpt. -/
def excerptLimit : Int := 100

/-- The comment that stands for what is left out. -/
def defaultPlaceholder : Text := "<!-- nested content omitted -->"

/-- A template without common indentation and without blank characters at its ends, each child of an
outermost element that is longer than `limit` being replaced by `placeholder`. -/
def excerpt (limit : Int) (placeholder template : Text) : Text :=
  let text := Text.strip template.dedent
  let large := (childSpans text).filter fun s => decide ((s.length : Int) > limit)
  replaceSpans placeholder 0 text large

/-- Whether a template takes content from outside. -/
def hasSlot (template : Text) : Bool := template.contains "<slot"

end ComponentBook.Markup
