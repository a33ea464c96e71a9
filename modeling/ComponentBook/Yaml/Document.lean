import ComponentBook.Yaml.Graph.Basic
import ComponentBook.Yaml.Graph.Reading
import ComponentBook.Yaml.Value

/-! # Values of a document

The outermost node of a document makes its value. A collection is a value before what it consists of
is made: the collections wait, in the order in which they have been met, and are filled one after
another, and the first value that cannot be made decides. Each node makes one value, wherever it
stands. **`Document.ofText`** reads the values of a text, **`Document.get?`** looks a name up. -/

namespace ComponentBook.Yaml

/-- What a collection consists of. -/
inductive Collection where
  | sequence (items : List Value)
  | mapping (entries : List (Value × Value))
  | set (items : List Value)
  deriving Repr

/-- A value with the collections that it leads to, by the numbers of their nodes. -/
structure Document where
  top : Value := .null
  collections : List (Nat × Collection) := []

/-! ## Making values -/

/-- The text of a node that is used as a scalar: that of a scalar, or of what a mapping has under the
key of the kind of a value. -/
def Graph.scalarText (g : Graph) : (steps : Nat) → Nat → Reading Text
  | 0, _ => faulty .endless
  | steps + 1, n =>
    match (g.node n).content with
    | .scalar t => .ok t
    | .sequence _ => .error .malformed
    | .mapping entries =>
      match entries.find? fun e => (g.node e.1).tag = .value with
      | some (_, inner) => g.scalarText steps inner
      | none => .error .malformed

/-- What has been made of the nodes of a document. -/
structure Making where
  graph : Graph
  /-- The values of nodes. -/
  values : List (Nat × Value) := []
  /-- The collections that are to be filled. -/
  waiting : List Nat := []
  collections : List (Nat × Collection) := []

namespace Making

/-- A way of making values. -/
abbrev Step (α : Type) := StateT Making Reading α

/-- The value that a node newly makes. -/
def newValue (g : Graph) (n : Nat) : Reading Value := do
  let node := g.node n
  match node.tag with
  | .sequence | .mapping | .set | .pairs => return .collection n
  | tag =>
    if !tag.isScalar then throw .malformed
    let t ← g.scalarText (g.size + 1) n
    if tag = .moment ∧ g.isMapping n then faulty .momentOfCollection
    Value.ofScalar tag t

/-- The value of a node. A collection that is met for the first time has to wait. -/
def value (n : Nat) : Step Value := do
  let m ← get
  match m.values.lookup n with
  | some v => return v
  | none =>
    let v ← newValue m.graph n
    let waiting := match v with
      -- it is filled once those are that were met before it
      | .collection _ => m.waiting ++ [n]
      | _ => m.waiting
    set { m with values := (n, v) :: m.values, waiting }
    return v

/-- The value can be a key. -/
def isKey : Value → Bool
  | .collection _ => false
  | _ => true

/-- The values of an entry; a collection is no key. -/
def entry (e : Nat × Nat) : Step (Value × Value) := do
  let key ← value e.1
  if !isKey key then throw .malformed
  return (key, ← value e.2)

/-- The values of a mapping of one entry, as a list of two. -/
def pair (n : Nat) : Step Value := do
  match ((← get).graph.node n).content with
  | .mapping [(key, val)] =>
    let _ ← value key
    let _ ← value val
    return .collection n
  | _ => throw .malformed

/-- The entries of a mapping, once it has taken over those of others. -/
def mergedEntries (n : Nat) : Step (List (Value × Value)) := do
  let m ← get
  if !m.graph.isMapping n then throw .malformed
  let graph ← m.graph.merge n
  set { m with graph }
  (graph.entries n).mapM entry

/-- What the collection of a node consists of. -/
def contents (n : Nat) : Step Collection := do
  let node := (← get).graph.node n
  match node.tag, node.content with
  | .sequence, .sequence items => return .sequence (← items.mapM value)
  | .pairs, .sequence items => return .sequence (← items.mapM pair)
  | .mapping, _ => return .mapping (← mergedEntries n)
  | .set, _ => return .set ((← mergedEntries n).map (·.1))
  | _, _ => throw .malformed

/-- The waiting collections are filled in their order; each waits once. -/
def fillAll : (steps : Nat) → Step Unit
  | 0 => return
  | steps + 1 => do
    let m ← get
    match m.waiting with
    | [] => return
    | n :: waiting =>
      set { m with waiting }
      let c ← contents n
      modify fun m => { m with collections := (n, c) :: m.collections }
      fillAll steps

end Making

/-- The values of the nodes of a graph, from one on. -/
def Document.ofGraph (g : Graph) (top : Nat) : Reading Document := do
  let make : Making.Step Value := do
    let v ← Making.value top
    Making.fillAll g.size
    return v
  let (v, m) ← make.run { graph := g }
  return { top := v, collections := m.collections }

/-- The values of a text; null when there is no document. -/
def Document.ofText (t : Text) : Reading Document := do
  match ← Graph.ofText t with
  | (none, _) => return {}
  | (some top, g) => Document.ofGraph g top

/-! ## Looking values up -/

/-- What a value consists of, if it is a collection. -/
def Document.collection? (d : Document) : Value → Option Collection
  | .collection n => d.collections.lookup n
  | _ => none

/-- The value under a name in a mapping; the last one wins. -/
def Document.get? (d : Document) (v : Value) (name : Text) : Option Value :=
  match d.collection? v with
  | some (.mapping entries) =>
    (entries.reverse.find? fun e =>
      match e.1 with
      | .text t => t = name
      | _ => false).map (·.2)
  | _ => none

/-- The collection has nothing in it. -/
def Collection.isEmpty : Collection → Bool
  | .sequence items | .set items => items.isEmpty
  | .mapping entries => entries.isEmpty

/-- A value counts as nothing: null, false, zero, or an empty text or collection. -/
def Document.isVoid (d : Document) (v : Value) : Bool :=
  match v with
  | .null => true
  | .boolean b => !b
  | .integer n => n = 0
  | .decimal x => x.isZero
  | .text t => t.isEmpty
  | .bytes n => n = 0
  | .moment _ => false
  | .collection _ => (d.collection? v).all Collection.isEmpty

end ComponentBook.Yaml
