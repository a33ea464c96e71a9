import ComponentBook.Yaml.Cursor
import ComponentBook.Yaml.Plain

/-! # Nodes of a document

A document is a graph of nodes: scalars, sequences and mappings, each with its kind. A node that is
named can stand at further places, even within itself, and what is done to it there is done to it
everywhere. Nodes are therefore known by numbers, and a **`Graph`** holds the nodes by number.

An entry of a mapping whose key has the kind of merging stands for the entries of another mapping, or
of several, which come in front of the mapping's own entries. **`Graph.merge`** puts them there. The
other mappings get the entries that they take over in the same way; a mapping that takes over its own
entries has them twice. -/

namespace ComponentBook.Yaml

/-- What a node consists of; other nodes are given by their numbers. -/
inductive Content where
  | scalar (text : Text)
  | sequence (items : List Nat)
  | mapping (entries : List (Nat × Nat))
  deriving DecidableEq, Repr

/-- A node. -/
structure Node where
  tag : Tag
  content : Content
  deriving DecidableEq, Repr

/-- A scalar that is not written. -/
def Node.empty : Node := { tag := .null, content := .scalar [] }

/-- Nodes by their numbers. -/
structure Graph where
  nodes : Array Node := #[]

namespace Graph

/-- The node with a number. -/
def node (g : Graph) (n : Nat) : Node := g.nodes[n]?.getD Node.empty

/-- The number of nodes. -/
def size (g : Graph) : Nat := g.nodes.size

/-- A further node, and its number. -/
def add (g : Graph) (node : Node) : Nat × Graph := (g.size, { nodes := g.nodes.push node })

/-- The node with a number consists of something else. -/
def setContent (g : Graph) (n : Nat) (content : Content) : Graph :=
  { nodes := g.nodes.setIfInBounds n { g.node n with content } }

/-- The node with a number has another kind. -/
def setTag (g : Graph) (n : Nat) (tag : Tag) : Graph :=
  { nodes := g.nodes.setIfInBounds n { g.node n with tag } }

/-- The entries of a mapping; other nodes have none. -/
def entries (g : Graph) (n : Nat) : List (Nat × Nat) :=
  match (g.node n).content with
  | .mapping entries => entries
  | _ => []

/-- The node is a mapping. -/
def isMapping (g : Graph) (n : Nat) : Bool :=
  match (g.node n).content with
  | .mapping _ => true
  | _ => false

/-- The first entry of some whose key has a tag, and the other entries. -/
def extractTagged (g : Graph) (tag : Tag) :
    List (Nat × Nat) → Option ((Nat × Nat) × List (Nat × Nat))
  | [] => none
  | e :: es =>
    if (g.node e.1).tag = tag then some (e, es)
    else (g.extractTagged tag es).map fun (found, others) => (found, e :: others)

/-- The keys of entries that have the kind of a value become texts. -/
def nameValues (g : Graph) (entries : List (Nat × Nat)) : Graph :=
  entries.foldl (fun g e => if (g.node e.1).tag = .value then g.setTag e.1 .text else g) g

/-- The mapping with a number has the entries that it has taken over in front. -/
def takeOver (g : Graph) (taken : List (Nat × Nat)) (n : Nat) : Graph :=
  let entries := taken ++ g.entries n
  (g.setContent n (.mapping entries)).nameValues entries

/-- The mapping with a number takes over the entries of the others that it names, besides those that
it has taken over before. Of several mappings in a list the first ones win. -/
def mergeFrom : (steps : Nat) → Graph → (taken : List (Nat × Nat)) → Nat → Reading Graph
  | 0, g, taken, n => .ok (g.takeOver taken n)
  | steps + 1, g, taken, n =>
    match g.extractTagged .merge (g.entries n) with
    | none => .ok (g.takeOver taken n)
    | some ((_, source), others) => do
      let g := g.setContent n (.mapping others)
      let (g, further) ← match (g.node source).content with
        | .mapping _ => do
          -- the other mapping first takes over what it names itself
          let g ← mergeFrom steps g [] source
          pure (g, g.entries source)
        | .sequence items => do
          let (g, parts) ← items.foldlM (fun (g, parts) item => do
            if !g.isMapping item then throw .malformed
            let g ← mergeFrom steps g [] item
            -- the parts stand in reverse, since of two entries with one key the later one counts
            pure (g, g.entries item :: parts)) (g, [])
          pure (g, parts.flatten)
        | .scalar _ => throw .malformed
      mergeFrom steps g (taken ++ further) n

/-- The number of entries whose key has a tag. -/
def countTagged (g : Graph) (tag : Tag) : Nat :=
  (List.range g.size).foldl (fun count n =>
    count + (g.entries n).countP fun e => (g.node e.1).tag = tag) 0

/-- The mapping with a number takes over the entries of the others that it names. Each step takes one
entry for merging away, and there are no more steps than such entries. -/
def merge (g : Graph) (n : Nat) : Reading Graph := g.mergeFrom (g.countTagged .merge) [] n

end Graph

end ComponentBook.Yaml
