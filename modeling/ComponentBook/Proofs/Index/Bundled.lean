import ComponentBook.Index.Page

/-! # The bundled index template

The bundled template is read once and for all (**`parse_bundledTemplate`**), so what it writes can be
told in closed form: **`indexDraft`** is the text of an index before it is laid out, with one
**`linkLine`** for each entry (`renderIndex_bundledTemplate`). -/

namespace ComponentBook

open Template

/-! ## The parts of the template -/

/-- A part of a value that has a name. -/
def namedPart (owner field : String) : Expr := .part (.name owner.toList) field.toList

/-- The parts of the line of an entry. -/
def entryNodes : List Node := [
  .data "- [".toList, .output (namedPart "entry" "name"), .data "](".toList,
  .output (namedPart "entry" "link"), .data ")".toList,
  .output (.choice (.joined (.constant (.text " — ".toList)) (namedPart "entry" "description"))
    (namedPart "entry" "description") (some (.constant (.text [])))),
  .data "\n".toList]

/-- The parts of a group. -/
def groupNodes : List Node := [
  .data "## ".toList, .output (namedPart "group" "title"), .data "\n\n".toList,
  .loop "entry".toList (namedPart "group" "entries") none entryNodes [], .data "\n".toList]

/-- The parts of the line of a principle. -/
def principleNodes : List Node :=
  [.data "- ".toList, .output (.name "line".toList), .data "\n".toList]

/-- The parts of the bundled template. -/
def bundledNodes : List Node := [
  .data "# ".toList, .output (.name "title".toList), .data "\n\n".toList,
  .output (.name "intro".toList), .data "\n\n".toList,
  .loop "group".toList (.name "groups".toList) none groupNodes [],
  .data "## ".toList, .output (.name "principles_title".toList), .data "\n\n".toList,
  .loop "line".toList (.name "principles".toList) none principleNodes []]

/-- The words of a name. -/
def nameWord (name : String) : Word := .name name.toList

/-- The words of a part of a value that has a name. -/
def partWords (owner field : String) : List Word :=
  [nameWord owner, .sign ".".toList, nameWord field]

/-- The tokens of the bundled template. -/
def bundledTokens : List Token := [
  .data "# ".toList, .output [nameWord "title"] .closed, .data "\n\n".toList,
  .output [nameWord "intro"] .closed, .data "\n\n".toList,
  .statement [nameWord "for", nameWord "group", nameWord "in", nameWord "groups"] .closed,
  .data "## ".toList, .output (partWords "group" "title") .closed, .data "\n\n".toList,
  .statement ([nameWord "for", nameWord "entry", nameWord "in"] ++ partWords "group" "entries")
    .closed,
  .data "- [".toList, .output (partWords "entry" "name") .closed, .data "](".toList,
  .output (partWords "entry" "link") .closed, .data ")".toList,
  .output ([.text " — ".toList, .sign "~".toList] ++ partWords "entry" "description" ++
    [nameWord "if"] ++ partWords "entry" "description" ++ [nameWord "else", .text []]) .closed,
  .data "\n".toList, .statement [nameWord "endfor"] .closed,
  .data "\n".toList, .statement [nameWord "endfor"] .closed,
  .data "## ".toList, .output [nameWord "principles_title"] .closed, .data "\n\n".toList,
  .statement [nameWord "for", nameWord "line", nameWord "in", nameWord "principles"] .closed,
  .data "- ".toList, .output [nameWord "line"] .closed, .data "\n".toList,
  .statement [nameWord "endfor"] .closed, .data []]

theorem tokens_bundledTemplate : tokens bundledTemplate = bundledTokens := by decide +kernel

set_option maxRecDepth 10000 in
theorem parse_bundledTemplate : parse bundledTemplate = .ok bundledNodes := by
  rw [parse, tokens_bundledTemplate]
  rfl

/-! ## What the template writes -/

/-- The line of an entry: a link to the page of the component, and its description if there is
one. -/
def linkLine (e : IndexEntry) : Text :=
  '-' :: ' ' :: '[' :: e.name ++ ']' :: '(' :: e.link ++ ')' ::
    if e.description.isEmpty then [] else ' ' :: '—' :: ' ' :: e.description

/-- A group as it is written. -/
def groupDraft (g : IndexGroup) : Text :=
  '#' :: '#' :: ' ' :: g.title ++ '\n' :: '\n' ::
    g.entries.flatMap (fun e => linkLine e ++ ['\n']) ++ ['\n']

/-- The line of a principle. -/
def principleLine (principle : Text) : Text := '-' :: ' ' :: principle

/-- An index before it is laid out. -/
def indexDraft (locale : Locale) (groups : List IndexGroup) : Text :=
  '#' :: ' ' :: locale.indexTitle ++ '\n' :: '\n' :: locale.indexIntro ++ '\n' :: '\n' ::
    groups.flatMap groupDraft ++ '#' :: '#' :: ' ' :: locale.principlesTitle ++ '\n' :: '\n' ::
    locale.principles.flatMap fun p => principleLine p ++ ['\n']

/-- A step that succeeds at every item, wherever it stands, succeeds for all of them. -/
theorem mapM_zipIdx_eq_ok {ε α β γ : Type} {f : β × Nat → Except ε γ} {v : α → β} {g : α → γ}
    {xs : List α} (h : ∀ x ∈ xs, ∀ i, f (v x, i) = .ok (g x)) (i : Nat) :
    ((xs.map v).zipIdx i).mapM f = .ok (xs.map g) := by
  induction xs generalizing i with
  | nil => rfl
  | cons x xs ih =>
    rw [List.map_cons, List.zipIdx_cons, List.mapM_cons, h x List.mem_cons_self,
      ih fun y hy => h y (List.mem_cons_of_mem x hy)]
    rfl

/-- A loop writes what its body writes for each of its items. -/
theorem render_loop {α : Type} {scope : Scope} {item : Text} {range : Expr} {body : List Node}
    {list : Value} {xs : List α} {v : α → Value} {write : α → Text}
    (hrange : range.value scope = .ok list) (hitems : list.items = .ok (xs.map v))
    (hbody : ∀ x ∈ xs, ∀ l, renderAll ((item, v x) :: ("loop".toList, l) :: scope) body
      = .ok (write x)) :
    Node.render scope (.loop item range none body []) = .ok (xs.flatMap write) := by
  rw [Node.render, hrange]
  show (do
    let items ← list.items
    let kept ← keptItems scope item none items
    if kept.isEmpty then renderAll scope [] else _) = _
  -- without items the loop writes what stands behind its `else`, and that is nothing
  rw [hitems]
  show (if (xs.map v).isEmpty then renderAll scope [] else _) = _
  split
  · next hempty =>
    obtain rfl : xs = [] := by simpa using hempty
    rfl
  · rw [mapM_zipIdx_eq_ok fun x hx i => hbody x hx _]
    rw [List.flatMap_def]
    rfl

theorem renderAll_cons_eq_ok {scope : Scope} {node : Node} {nodes : List Node} {t rest : Text}
    (h : Node.render scope node = .ok t) (hrest : renderAll scope nodes = .ok rest) :
    renderAll scope (node :: nodes) = .ok (t ++ rest) := by
  rw [renderAll, h, hrest]
  rfl

theorem render_entryNodes (scope : Scope) (e : IndexEntry) (l : Value) :
    renderAll (("entry".toList, e.value) :: ("loop".toList, l) :: scope) entryNodes
      = .ok (linkLine e ++ ['\n']) := by
  rcases e with ⟨name, link, _ | ⟨c, description⟩⟩
  · show Except.ok (['-', ' ', '['] ++ (name ++ ([']', '('] ++ (link ++ ([')'] ++
      ([] ++ (['\n'] ++ []))))))) = _
    simp [linkLine]
  · show Except.ok (['-', ' ', '['] ++ (name ++ ([']', '('] ++ (link ++ ([')'] ++
      (([' ', '—', ' '] ++ c :: description) ++ (['\n'] ++ []))))))) = _
    simp [linkLine]

theorem render_groupNodes (scope : Scope) (g : IndexGroup) (l : Value) :
    renderAll (("group".toList, g.value) :: ("loop".toList, l) :: scope) groupNodes
      = .ok (groupDraft g) := by
  have hloop : Node.render (("group".toList, g.value) :: ("loop".toList, l) :: scope)
      (.loop "entry".toList (namedPart "group" "entries") none entryNodes [])
      = .ok (g.entries.flatMap fun e => linkLine e ++ ['\n']) :=
    render_loop (v := IndexEntry.value) (by rfl) (by rfl) fun e _ l => render_entryNodes _ e l
  have htitle : Node.render (("group".toList, g.value) :: ("loop".toList, l) :: scope)
      (.output (namedPart "group" "title")) = .ok g.title := by rfl
  refine (renderAll_cons_eq_ok (t := ['#', '#', ' ']) rfl (renderAll_cons_eq_ok htitle
    (renderAll_cons_eq_ok (t := ['\n', '\n']) rfl (renderAll_cons_eq_ok hloop
    (renderAll_cons_eq_ok (t := ['\n']) rfl rfl))))).trans ?_
  simp [groupDraft]

theorem render_principleNodes (scope : Scope) (principle : Text) (l : Value) :
    renderAll (("line".toList, .text principle) :: ("loop".toList, l) :: scope) principleNodes
      = .ok (principleLine principle ++ ['\n']) := by
  show Except.ok (['-', ' '] ++ (principle ++ (['\n'] ++ []))) = _
  simp [principleLine]

/-- **What the bundled template writes.** -/
theorem render_bundledNodes (locale : Locale) (groups : List IndexGroup) :
    render bundledNodes (indexValues locale groups) = .ok (indexDraft locale groups) := by
  have hname (name t : Text) (h : (indexValues locale groups ++ commonNames).lookup name
      = some (.text t)) :
      Node.render (indexValues locale groups ++ commonNames) (.output (.name name)) = .ok t := by
    rw [Node.render, Expr.value, h]
    rfl
  have htitle := hname "title".toList locale.indexTitle (by rfl)
  have hintro := hname "intro".toList locale.indexIntro (by rfl)
  have hheading := hname "principles_title".toList locale.principlesTitle (by rfl)
  have hgroups : Node.render (indexValues locale groups ++ commonNames)
      (.loop "group".toList (.name "groups".toList) none groupNodes [])
      = .ok (groups.flatMap groupDraft) :=
    render_loop (v := IndexGroup.value) (by rfl) (by rfl) fun g _ l => render_groupNodes _ g l
  have hprinciples : Node.render (indexValues locale groups ++ commonNames)
      (.loop "line".toList (.name "principles".toList) none principleNodes [])
      = .ok (locale.principles.flatMap fun p => principleLine p ++ ['\n']) :=
    render_loop (v := Value.text) (by rfl) (by rfl) fun p _ l => render_principleNodes _ p l
  -- node by node, each with the text that it writes
  refine (renderAll_cons_eq_ok (t := ['#', ' ']) rfl (renderAll_cons_eq_ok htitle
    (renderAll_cons_eq_ok (t := ['\n', '\n']) rfl (renderAll_cons_eq_ok hintro
    (renderAll_cons_eq_ok (t := ['\n', '\n']) rfl (renderAll_cons_eq_ok hgroups
    (renderAll_cons_eq_ok (t := ['#', '#', ' ']) rfl (renderAll_cons_eq_ok hheading
    (renderAll_cons_eq_ok (t := ['\n', '\n']) rfl
    (renderAll_cons_eq_ok hprinciples rfl)))))))))).trans ?_
  simp [indexDraft]

/-- The index that the bundled template gives. -/
theorem renderIndex_bundledTemplate (locale : Locale) (groups : List IndexGroup) :
    renderIndex locale bundledTemplate groups = .ok (Markdown.tidy (indexDraft locale groups)) := by
  have hwritten : (do Template.render (← Template.parse bundledTemplate) (indexValues locale groups))
      = .ok (indexDraft locale groups) := by
    rw [parse_bundledTemplate]
    exact render_bundledNodes locale groups
  rw [renderIndex, hwritten]
  rfl

end ComponentBook
