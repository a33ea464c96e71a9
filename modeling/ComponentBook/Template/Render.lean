import ComponentBook.Template.Parse
import ComponentBook.Template.Part

/-! # Writing by a template

**`render`** writes a parsed template with given values for its names. What does not exist is
written as nothing, but asking for a part of it is an error. -/

namespace ComponentBook.Template

/-- The values of names, the innermost first. -/
abbrev Scope := List (Text × Value)

mutual

/-- A value inside another one, as it is written. -/
def Value.inner : Value → Text
  | .missing _ => "Undefined"
  | .null => "None"
  | .text t => t.quoted
  | .number n => Text.decimal n
  | .flag b => if b then "True".toList else "False".toList
  | .list false items => '[' :: Text.join [',', ' '] (Value.innerAll items) ++ [']']
  | .list true [item] => '(' :: Value.inner item ++ [',', ')']
  | .list true items => '(' :: Text.join [',', ' '] (Value.innerAll items) ++ [')']
  | .record kind fields =>
    (kind.reverse.takeWhile (· ≠ '.')).reverse ++
      '(' :: Text.join [',', ' '] (Value.innerFields fields) ++ [')']
  | .object _ shown _ => shown
  | .operation kind word => '<' :: kind ++ ' ' :: word ++ ['>']

/-- Several values, as they are written inside another one. -/
def Value.innerAll : List Value → List Text
  | [] => []
  | v :: vs => v.inner :: Value.innerAll vs

/-- Named values, as they are written inside another one. -/
def Value.innerFields : List (Text × Value) → List Text
  | [] => []
  | (name, v) :: fields => (name ++ '=' :: v.inner) :: Value.innerFields fields

end

/-- A value as it is written. -/
def Value.shown : Value → Text
  | .missing _ => []
  | .text t => t
  | v => v.inner

/-- Whether a value counts as true: it exists, and it is not empty, zero or false. -/
def Value.truth : Value → Bool
  | .missing _ => false
  | .null => false
  | .text t => !t.isEmpty
  | .number n => n ≠ 0
  | .flag b => b
  | .list _ items => !items.isEmpty
  | .record _ _ => true
  | .object _ _ _ => true
  | .operation _ _ => true

/-- The value of an expression. -/
def Expr.value (scope : Scope) : Expr → Except Error Value
  | .constant v => .ok v
  | .name n => .ok ((scope.lookup n).getD (.missing (.name n)))
  | .part owner field => do (← owner.value scope).part field
  | .element owner place => do (← owner.value scope).element place
  | .joined first second => do
    let a ← first.value scope
    let b ← second.value scope
    return .text (a.shown ++ b.shown)
  | .negated value => do return .flag !(← value.value scope).truth
  | .both first second => do
    let a ← first.value scope
    if a.truth then second.value scope else return a
  | .either first second => do
    let a ← first.value scope
    if a.truth then return a else second.value scope
  | .choice value condition otherwise => do
    if (← condition.value scope).truth then value.value scope
    else match otherwise with
      | some e => e.value scope
      | none => return .missing (.because "the inline if-expression has no else".toList)

/-- A class of values, by its name and its full name. -/
def classValue (fullName : Text) : Value :=
  .object "type".toList ("<class '".toList ++ fullName ++ ['\'', '>']) []

/-- The names that every template knows. -/
def commonNames : Scope := [
  ("range".toList, classValue "range".toList),
  ("dict".toList, classValue "dict".toList),
  ("lipsum".toList, .operation "function".toList "generate_lorem_ipsum".toList),
  ("cycler".toList, classValue "jinja2.utils.Cycler".toList),
  ("joiner".toList, classValue "jinja2.utils.Joiner".toList),
  ("namespace".toList, classValue "jinja2.utils.Namespace".toList)]

/-- What is known inside a loop about the place of an item among all items. -/
def loopValue (items : List Value) (place : Nat) : Value :=
  let count := items.length
  let neighbour (v : Option Value) (reason : String) : Value :=
    v.getD (.missing (.because reason.toList))
  -- a place counted down from zero would be the first item again
  let previous := if place = 0 then none else items[place - 1]?
  .object "jinja2.runtime.LoopContext".toList
    ("<LoopContext ".toList ++ Text.decimal (place + 1) ++ '/' :: Text.decimal count ++ ['>']) [
    ("index".toList, .number (place + 1)), ("index0".toList, .number place),
    ("revindex".toList, .number (count - place)), ("revindex0".toList, .number (count - place - 1)),
    ("first".toList, .flag (place = 0)), ("last".toList, .flag (place + 1 = count)),
    ("length".toList, .number count), ("depth".toList, .number 1), ("depth0".toList, .number 0),
    ("previtem".toList, neighbour previous "there is no previous item"),
    ("nextitem".toList, neighbour items[place + 1]? "there is no next item"),
    ("cycle".toList, .operation "method".toList "cycle".toList),
    ("changed".toList, .operation "method".toList "changed".toList)]

/-- The items of a list that the condition of a loop lets through. -/
def keptItems (scope : Scope) (item : Text) (filter : Option Expr) (items : List Value) :
    Except Error (List Value) :=
  match filter with
  | none => .ok items
  | some condition =>
    items.filterM fun v => do return (← condition.value ((item, v) :: scope)).truth

mutual

/-- What a part of a template writes. -/
def Node.render (scope : Scope) : Node → Except Error Text
  | .data t => .ok t
  | .output e => do return (← e.value scope).shown
  | .loop item range filter body otherwise => do
    let items ← keptItems scope item filter (← (← range.value scope).items)
    if items.isEmpty then renderAll scope otherwise
    else
      let texts ← items.zipIdx.mapM fun (v, place) =>
        renderAll ((item, v) :: ("loop".toList, loopValue items place) :: scope) body
      return texts.flatten
  | .branch condition yes no => do
    if (← condition.value scope).truth then renderAll scope yes else renderAll scope no

/-- What several parts of a template write, one after the other. -/
def renderAll (scope : Scope) : List Node → Except Error Text
  | [] => .ok []
  | node :: nodes => do
    let t ← node.render scope
    let rest ← renderAll scope nodes
    return t ++ rest

end

/-- What a template writes with given values. -/
def render (nodes : List Node) (values : Scope) : Except Error Text :=
  renderAll (values ++ commonNames) nodes

end ComponentBook.Template
