import ComponentBook.Markup.Excerpt
import ComponentBook.Proofs.Markup.Tag

/-! # Excerpts of forests of elements

A template is written from a forest of texts, comments and elements (**`Forest`**, **`Forest.toText`**). Its
excerpt is the text of the forest in which every large child of an outermost element is replaced
(**`excerpt_of_toText`**).

The tags of the text are read with the names of the open elements at hand. Three lemmas say what comes of
a forest, one for each depth at which it stands: deep inside nothing is completed (**`completedSpans_deep`**),
inside an outermost element each of its own elements is (**`completedSpans_child`**), and outside all
elements those inside its outermost elements are (**`completedSpans_outermost`**). What is completed is told by
cutting the text into parts, some of which may be left out as a whole (**`Part`**). -/

namespace ComponentBook.Markup

open Text

variable {name attrs t : Text} {names : List Text} {childStart : Option Nat} {state : OpenElements}
  {tag : Tag} {offset : Nat}

/-! ## Forests -/

/-- A sequence of texts, comments and elements. -/
inductive Forest where
  /-- Nothing at all. -/
  | nil
  /-- A text, and what follows. -/
  | text (t : Text) (rest : Forest)
  /-- A comment with the text inside it, and what follows. -/
  | comment (body : Text) (rest : Forest)
  /-- An element without a closing tag, and what follows. -/
  | single (name attrs : Text) (rest : Forest)
  /-- An element with what stands inside it and the text behind the name in its closing tag, and what
  follows. -/
  | element (name attrs : Text) (children : Forest) (behindName : Text) (rest : Forest)

/-- The tag that opens an element. -/
def openingTag (name attrs : Text) : Tag := ⟨false, name, attrs⟩

/-- The tag that closes an element. -/
def closingTag (name behindName : Text) : Tag := ⟨true, name, behindName⟩

/-- An element has no closing tag: its name says so, or its attributes end in a slash. -/
def ClosesItself (name attrs : Text) : Prop :=
  name ∈ voidElements ∨ attrs.stripRight.getLast? = some '/'

instance (name attrs : Text) : Decidable (ClosesItself name attrs) := inferInstanceAs (Decidable (_ ∨ _))

namespace Forest

/-- The text that a forest is written as. -/
def toText : Forest → Text
  | nil => []
  | text t rest => t ++ rest.toText
  | comment body rest => commentText body ++ rest.toText
  | single name attrs rest => (openingTag name attrs).text ++ rest.toText
  | element name attrs children behindName rest =>
    (openingTag name attrs).text ++
      (children.toText ++ ((closingTag name behindName).text ++ rest.toText))

/-- A forest that its text can be read back as: no tag starts in a text, comments end where they are
closed, and every element that does not close itself is closed by a tag of its name. -/
inductive IsWellFormed : Forest → Prop where
  /-- Nothing at all. -/
  | nil : IsWellFormed nil
  /-- A text without angle brackets. -/
  | text {t : Text} {rest : Forest} : '<' ∉ t → IsWellFormed rest → IsWellFormed (text t rest)
  /-- A comment in which the end of a comment does not stand. -/
  | comment {body : Text} {rest : Forest} : ¬ "-->".toList <:+: body → IsWellFormed rest →
      IsWellFormed (comment body rest)
  /-- An element that closes itself. -/
  | single {name attrs : Text} {rest : Forest} : (openingTag name attrs).IsWritten →
      ClosesItself name attrs → IsWellFormed rest → IsWellFormed (single name attrs rest)
  /-- An element with two tags of one name. -/
  | element {name attrs behindName : Text} {children rest : Forest} : (openingTag name attrs).IsWritten →
      ¬ ClosesItself name attrs → (closingTag name behindName).IsWritten → IsWellFormed children →
      IsWellFormed rest → IsWellFormed (element name attrs children behindName rest)

/-- The forest with `placeholder` in place of each of its own elements whose text is longer than
`limit`. -/
def shorten (limit : Int) (placeholder : Text) : Forest → Forest
  | nil => nil
  | text t rest => text t (rest.shorten limit placeholder)
  | comment body rest => comment body (rest.shorten limit placeholder)
  | single name attrs rest =>
    if ((single name attrs nil).toText.length : Int) > limit then
      text placeholder (rest.shorten limit placeholder)
    else single name attrs (rest.shorten limit placeholder)
  | element name attrs children behindName rest =>
    if ((element name attrs children behindName nil).toText.length : Int) > limit then
      text placeholder (rest.shorten limit placeholder)
    else element name attrs children behindName (rest.shorten limit placeholder)

/-- The forest with `placeholder` in place of each child of an outermost element whose text is longer than
`limit`. -/
def excerpt (limit : Int) (placeholder : Text) : Forest → Forest
  | nil => nil
  | text t rest => text t (rest.excerpt limit placeholder)
  | comment body rest => comment body (rest.excerpt limit placeholder)
  | single name attrs rest => single name attrs (rest.excerpt limit placeholder)
  | element name attrs children behindName rest =>
    element name attrs (children.shorten limit placeholder) behindName (rest.excerpt limit placeholder)

end Forest

/-! ## Parts of a text -/

/-- A part of a template. -/
structure Part where
  /-- The text of the part. -/
  text : Text
  /-- Whether it is an element that may be left out. -/
  mayGo : Bool

/-- The text of some parts. -/
def textOf (ps : List Part) : Text := ps.flatMap Part.text

/-- What an excerpt shows of a part. -/
def Part.shown (limit : Int) (placeholder : Text) (p : Part) : Text :=
  if p.mayGo = true ∧ (p.text.length : Int) > limit then placeholder else p.text

/-- The spans of the parts that may be left out, `offset` characters being in front. -/
def spansOf (offset : Nat) : List Part → List Span
  | [] => []
  | p :: ps =>
    (if p.mayGo then [⟨offset, offset + p.text.length⟩] else []) ++ spansOf (offset + p.text.length) ps

variable {forest : Forest} {ps : List Part}

@[simp] theorem textOf_cons (p : Part) (ps : List Part) : textOf (p :: ps) = p.text ++ textOf ps := rfl

@[simp] theorem textOf_append (ps qs : List Part) : textOf (ps ++ qs) = textOf ps ++ textOf qs :=
  List.flatMap_append

theorem spansOf_append (offset : Nat) (ps qs : List Part) :
    spansOf offset (ps ++ qs) = spansOf offset ps ++ spansOf (offset + (textOf ps).length) qs := by
  induction ps generalizing offset with
  | nil => rfl
  | cons p ps ih =>
    rw [List.cons_append, spansOf, ih, spansOf, textOf_cons, List.length_append, List.append_assoc,
      Nat.add_assoc]

/-- The spans of parts stand behind what is in front of the parts. -/
theorem le_of_mem_spansOf {s : Span} (h : s ∈ spansOf offset ps) :
    offset ≤ s.start ∧ s.start ≤ s.stop := by
  induction ps generalizing offset with
  | nil => cases h
  | cons p ps ih =>
    rw [spansOf, List.mem_append] at h
    rcases h with h | h
    · split at h
      · rw [List.mem_singleton.1 h]
        exact ⟨Nat.le_refl _, Nat.le_add_right _ _⟩
      · cases h
    · obtain ⟨hstart, hstop⟩ := ih h
      exact ⟨Nat.le_trans (Nat.le_add_right _ _) hstart, hstop⟩

/-- A text in front of all spans stays. -/
theorem replaceSpans_append {spans : List Span}
    (h : ∀ s ∈ spans, offset + t.length ≤ s.start ∧ s.start ≤ s.stop) (placeholder rest : Text) :
    replaceSpans placeholder offset (t ++ rest) spans =
      t ++ replaceSpans placeholder (offset + t.length) rest spans := by
  cases spans with
  | nil => rfl
  | cons s spans =>
    obtain ⟨hstart, hstop⟩ := h s List.mem_cons_self
    have htake : (t ++ rest).take (s.start - offset) = t ++ rest.take (s.start - (offset + t.length)) := by
      rw [List.take_append, List.take_of_length_le (by omega), Nat.sub_sub]
    have hdrop : (t ++ rest).drop (s.stop - offset) = rest.drop (s.stop - (offset + t.length)) := by
      rw [List.drop_append, List.drop_of_length_le (by omega), List.nil_append, Nat.sub_sub]
    rw [replaceSpans, replaceSpans, htake, hdrop, List.append_assoc, List.append_assoc, List.append_assoc]

/-- A span at the start of a text is replaced. -/
theorem replaceSpans_here (placeholder t rest : Text) (offset : Nat) (spans : List Span) :
    replaceSpans placeholder offset (t ++ rest) (⟨offset, offset + t.length⟩ :: spans) =
      placeholder ++ replaceSpans placeholder (offset + t.length) rest spans := by
  simp [replaceSpans]

/-- The spans of the large parts that may be left out. -/
theorem filter_spansOf_cons (limit : Int) (offset : Nat) (p : Part) (ps : List Part) :
    ((spansOf offset (p :: ps)).filter fun s => decide ((s.length : Int) > limit)) =
      (if p.mayGo = true ∧ (p.text.length : Int) > limit then [⟨offset, offset + p.text.length⟩] else []) ++
        (spansOf (offset + p.text.length) ps).filter fun s => decide ((s.length : Int) > limit) := by
  rw [spansOf, List.filter_append]
  cases p.mayGo <;> simp [Span.length, List.filter_cons]

/-- The large parts that may be left out are replaced, and all others stay. -/
theorem replaceSpans_textOf (limit : Int) (placeholder : Text) (offset : Nat) (ps : List Part) :
    replaceSpans placeholder offset (textOf ps)
        ((spansOf offset ps).filter fun s => decide ((s.length : Int) > limit)) =
      ps.flatMap (Part.shown limit placeholder) := by
  induction ps generalizing offset with
  | nil => rfl
  | cons p ps ih =>
    have hbehind : ∀ s ∈ (spansOf (offset + p.text.length) ps).filter
        (fun s => decide ((s.length : Int) > limit)),
        offset + p.text.length ≤ s.start ∧ s.start ≤ s.stop :=
      fun s hs => le_of_mem_spansOf (List.mem_filter.1 hs).1
    rw [filter_spansOf_cons, textOf_cons, List.flatMap_cons, Part.shown]
    split
    · rw [List.singleton_append, replaceSpans_here, ih]
    · rw [List.nil_append, replaceSpans_append hbehind, ih]

namespace Forest

/-- The texts, comments and elements of a forest; the elements may be left out. -/
def parts : Forest → List Part
  | nil => []
  | text t rest => ⟨t, false⟩ :: rest.parts
  | comment body rest => ⟨commentText body, false⟩ :: rest.parts
  | single name attrs rest => ⟨(single name attrs nil).toText, true⟩ :: rest.parts
  | element name attrs children behindName rest =>
    ⟨(element name attrs children behindName nil).toText, true⟩ :: rest.parts

/-- The texts, comments and tags of a forest, and what stands inside its outermost elements; the elements
there may be left out. -/
def childParts : Forest → List Part
  | nil => []
  | text t rest => ⟨t, false⟩ :: rest.childParts
  | comment body rest => ⟨commentText body, false⟩ :: rest.childParts
  | single name attrs rest => ⟨(openingTag name attrs).text, false⟩ :: rest.childParts
  | element name attrs children behindName rest =>
    ⟨(openingTag name attrs).text, false⟩ ::
      (children.parts ++ ⟨(closingTag name behindName).text, false⟩ :: rest.childParts)

theorem textOf_parts (forest : Forest) : textOf forest.parts = forest.toText := by
  induction forest with
  | nil => rfl
  | text t rest ih => rw [parts, textOf_cons, ih, toText]
  | comment body rest ih => rw [parts, textOf_cons, ih, toText]
  | single name attrs rest ih => simp [parts, toText, ih]
  | element name attrs children behindName rest _ ih => simp [parts, toText, ih]

theorem textOf_childParts (forest : Forest) : textOf forest.childParts = forest.toText := by
  induction forest with
  | nil => rfl
  | text t rest ih => rw [childParts, textOf_cons, ih, toText]
  | comment body rest ih => rw [childParts, textOf_cons, ih, toText]
  | single name attrs rest ih => rw [childParts, textOf_cons, ih, toText]
  | element name attrs children behindName rest _ ih =>
    rw [childParts, textOf_cons, textOf_append, textOf_cons, textOf_parts, ih, toText]

theorem shown_parts (limit : Int) (placeholder : Text) (forest : Forest) :
    forest.parts.flatMap (Part.shown limit placeholder) = (forest.shorten limit placeholder).toText := by
  induction forest with
  | nil => rfl
  | text t rest ih => simp [parts, shorten, toText, Part.shown, ih]
  | comment body rest ih => simp [parts, shorten, toText, Part.shown, ih]
  | single name attrs rest ih =>
    rw [parts, shorten, List.flatMap_cons, ih, Part.shown]
    by_cases hlarge : ((single name attrs nil).toText.length : Int) > limit
    · rw [if_pos ⟨rfl, hlarge⟩, if_pos hlarge, toText]
    · rw [if_neg fun h => hlarge h.2, if_neg hlarge]
      simp [toText]
  | element name attrs children behindName rest _ ih =>
    rw [parts, shorten, List.flatMap_cons, ih, Part.shown]
    by_cases hlarge : ((element name attrs children behindName nil).toText.length : Int) > limit
    · rw [if_pos ⟨rfl, hlarge⟩, if_pos hlarge, toText]
    · rw [if_neg fun h => hlarge h.2, if_neg hlarge]
      simp [toText]

theorem shown_childParts (limit : Int) (placeholder : Text) (forest : Forest) :
    forest.childParts.flatMap (Part.shown limit placeholder) = (forest.excerpt limit placeholder).toText := by
  induction forest with
  | nil => rfl
  | text t rest ih => simp [childParts, excerpt, toText, Part.shown, ih]
  | comment body rest ih => simp [childParts, excerpt, toText, Part.shown, ih]
  | single name attrs rest ih => simp [childParts, excerpt, toText, Part.shown, ih]
  | element name attrs children behindName rest _ ih =>
    simp [childParts, excerpt, toText, Part.shown, shown_parts, ih]

end Forest

/-! ## Open elements -/

theorem selfClosing_iff : (openingTag name attrs).selfClosing = true ↔ ClosesItself name attrs := by
  have hslash : attrs.stripRight.endsWith ['/'] = true ↔ attrs.stripRight.getLast? = some '/' := by
    rw [endsWith_eq_true_iff, List.getLast?_eq_some_iff, List.IsSuffix]
    simp only [eq_comm]
  rw [Tag.selfClosing, Bool.or_eq_true, openingTag, hslash, List.contains_iff_mem, ClosesItself, or_comm]

/-- An element that closes itself is a child of the outermost element when no other one is open. -/
theorem step_single (h : ClosesItself name attrs) (state : OpenElements) (span : Span) :
    state.step span (openingTag name attrs) =
      (state, if state.names.length = 1 then some span else none) := by
  have hself := selfClosing_iff.2 h
  rw [OpenElements.step, if_neg (by simp [openingTag]), if_pos hself]

theorem step_opening (h : ¬ ClosesItself name attrs) (state : OpenElements) (span : Span) :
    state.step span (openingTag name attrs) =
      (⟨name :: state.names, if state.names.length = 1 then some span.start else state.childStart⟩,
        none) := by
  have hself : ¬ (openingTag name attrs).selfClosing = true := fun hs => h (selfClosing_iff.1 hs)
  rw [OpenElements.step, if_neg (by simp [openingTag]), if_neg hself]
  rfl

/-- A tag that closes the outermost element. -/
theorem step_closing_outermost (name behindName : Text) (childStart : Option Nat) (span : Span) :
    OpenElements.step ⟨[name], childStart⟩ span (closingTag name behindName) = (⟨[], none⟩, none) := by
  simp [OpenElements.step, closingTag]

/-- A tag that closes a child of the outermost element completes its span. -/
theorem step_closing_child (outer name behindName : Text) (start : Nat) (span : Span) :
    OpenElements.step ⟨[name, outer], some start⟩ span (closingTag name behindName) =
      (⟨[outer], none⟩, some ⟨start, span.stop⟩) := by
  simp [OpenElements.step, closingTag]

/-- A tag that closes an element deep inside. -/
theorem step_closing_deep (h : 2 ≤ names.length) (name behindName : Text) (childStart : Option Nat)
    (span : Span) :
    OpenElements.step ⟨name :: names, childStart⟩ span (closingTag name behindName) =
      (⟨names, childStart⟩, none) := by
  rcases names with _ | ⟨inner, _ | ⟨outer, names⟩⟩
  · simp at h
  · simp at h
  · simp [OpenElements.step, closingTag]

/-- The spans that are completed from a tag on. -/
theorem completedSpans_tag (h : tag.IsWritten) {state' : OpenElements} {completed : Option Span}
    (hstep : state.step ⟨offset, offset + tag.text.length⟩ tag = (state', completed)) (t : Text) :
    completedSpans state (tagsFrom offset (tag.text ++ t)) =
      completed.toList ++ completedSpans state' (tagsFrom (offset + tag.text.length) t) := by
  rw [tagsFrom_tag h, completedSpans, hstep]

/-! ## The spans of the children -/

/-- Below a child nothing is completed. -/
theorem completedSpans_deep (h : forest.IsWellFormed) (hdeep : 2 ≤ names.length) (offset : Nat) (t : Text) :
    completedSpans ⟨names, childStart⟩ (tagsFrom offset (forest.toText ++ t)) =
      completedSpans ⟨names, childStart⟩ (tagsFrom (offset + forest.toText.length) t) := by
  have hnot : ∀ {names : List Text}, 2 ≤ names.length → names.length ≠ 1 := by omega
  induction h generalizing names offset t with
  | nil => rfl
  | text ht _ ih =>
    rw [Forest.toText, List.append_assoc, tagsFrom_append ht, ih hdeep, List.length_append, Nat.add_assoc]
  | comment hbody _ ih =>
    rw [Forest.toText, List.append_assoc, tagsFrom_comment hbody, ih hdeep, List.length_append,
      Nat.add_assoc]
  | single hwritten hself _ ih =>
    rw [Forest.toText, List.append_assoc, completedSpans_tag hwritten (step_single hself _ _),
      if_neg (hnot hdeep), ih hdeep, List.length_append, Nat.add_assoc]
    rfl
  | @element name attrs behindName children rest hopening hself hclosing _ _ ihChildren ih =>
    have hinside : 2 ≤ (name :: names).length := Nat.le_succ_of_le hdeep
    rw [Forest.toText, List.append_assoc, List.append_assoc, List.append_assoc,
      completedSpans_tag hopening (step_opening hself _ _), if_neg (hnot hdeep), ihChildren hinside,
      completedSpans_tag hclosing (step_closing_deep hdeep _ _ _ _), ih hdeep]
    simp [Nat.add_assoc]

/-- Inside an outermost element its children are completed. -/
theorem completedSpans_child (h : forest.IsWellFormed) (outer : Text) (offset : Nat) (t : Text) :
    completedSpans ⟨[outer], none⟩ (tagsFrom offset (forest.toText ++ t)) =
      spansOf offset forest.parts ++
        completedSpans ⟨[outer], none⟩ (tagsFrom (offset + forest.toText.length) t) := by
  induction h generalizing offset t with
  | nil => rfl
  | text ht _ ih =>
    rw [Forest.toText, Forest.parts, List.append_assoc, tagsFrom_append ht, ih, List.length_append,
      Nat.add_assoc, spansOf]
    rfl
  | comment hbody _ ih =>
    rw [Forest.toText, Forest.parts, List.append_assoc, tagsFrom_comment hbody, ih, List.length_append,
      Nat.add_assoc, spansOf]
    rfl
  | single hwritten hself _ ih =>
    rw [Forest.toText, Forest.parts, List.append_assoc,
      completedSpans_tag hwritten (step_single hself _ _), ih]
    simp [spansOf, Forest.toText, Nat.add_assoc]
  | @element name attrs behindName children rest hopening hself hclosing hchildren _ _ ih =>
    -- a child is told when it is closed, and nothing of what lies deeper
    have hopens (span : Span) : OpenElements.step ⟨[outer], none⟩ span (openingTag name attrs) =
        (⟨[name, outer], some span.start⟩, none) := step_opening hself _ span
    rw [Forest.toText, Forest.parts, List.append_assoc, List.append_assoc, List.append_assoc,
      completedSpans_tag hopening (hopens _), completedSpans_deep hchildren (by simp),
      completedSpans_tag hclosing (step_closing_child _ _ _ _ _), ih]
    simp [spansOf, Forest.toText, Nat.add_assoc]

/-- Outside all elements the children of the outermost elements are completed. -/
theorem completedSpans_outermost (h : forest.IsWellFormed) (offset : Nat) :
    completedSpans {} (tagsFrom offset forest.toText) = spansOf offset forest.childParts := by
  induction h generalizing offset with
  | nil => rw [Forest.toText, tagsFrom_nil, completedSpans, Forest.childParts, spansOf]
  | text ht _ ih =>
    rw [Forest.toText, Forest.childParts, tagsFrom_append ht, ih, spansOf]
    rfl
  | comment hbody _ ih =>
    rw [Forest.toText, Forest.childParts, tagsFrom_comment hbody, ih, spansOf]
    rfl
  | single hwritten hself _ ih =>
    rw [Forest.toText, Forest.childParts, completedSpans_tag hwritten (step_single hself _ _), ih, spansOf]
    rfl
  | @element name attrs behindName children rest hopening hself hclosing hchildren _ _ ih =>
    -- of an outermost element the children are told
    have hopens (span : Span) :
        OpenElements.step {} span (openingTag name attrs) = (⟨[name], none⟩, none) :=
      step_opening hself _ span
    rw [Forest.toText, Forest.childParts, completedSpans_tag hopening (hopens _),
      completedSpans_child hchildren, completedSpans_tag hclosing (step_closing_outermost _ _ _ _), ih,
      spansOf, spansOf_append, spansOf, Forest.textOf_parts]
    rfl

/-! ## The excerpt -/

/-- **Excerpts leave out the large children of outermost elements.** A template that is the text of a
forest, but for its indentation and the blanks around it, has the text of the shortened forest as its
excerpt. -/
theorem excerpt_of_toText (hforest : forest.IsWellFormed) (limit : Int) (placeholder : Text)
    {template : Text} (htemplate : strip template.dedent = forest.toText) :
    Markup.excerpt limit placeholder template = (forest.excerpt limit placeholder).toText := by
  have hspans : childSpans forest.toText = spansOf 0 forest.childParts := by
    rw [childSpans, tags_eq, completedSpans_outermost hforest]
  rw [Markup.excerpt, htemplate, hspans, ← forest.textOf_childParts, replaceSpans_textOf,
    Forest.shown_childParts]

/-- A template with a large child in which its own name and that of its parent stand again. -/
def sampleTemplate : Text :=
  "\n  <a>\n    <b x=\"<b>\">long <a>text</a></b>\n    <br>\n    <!-- <c> -->\n  </a >\n  <d />\n"

/-- The forest that it is written from. -/
def sampleForest : Forest :=
  .element "a" "" (.text "\n  " (.element "b" " x=\"<b>\""
      (.text "long " (.element "a" "" (.text "text" .nil) "" .nil)) "" (.text "\n  "
    (.single "br" "" (.text "\n  " (.comment " <c> " (.text "\n" .nil))))))) " "
  (.text "\n" (.single "d" " /" .nil))

theorem isWellFormed_sampleForest : sampleForest.IsWellFormed := by
  have hnone : Attributes [] := .nil
  have hblank : Attributes " " := .of_plain (by decide)
  have hslash : Attributes " /" := .of_plain (by decide)
  have hquoted : Attributes ('"' :: (['<', 'b', '>'] ++ '"' :: [])) := .quoted (by decide) (by decide) .nil
  have hvalue : Attributes " x=\"<b>\"" :=
    .char (by decide) (by decide) (.char (by decide) (by decide) (.char (by decide) (by decide) hquoted))
  have hinner : Forest.IsWellFormed (.element "a" "" (.text "text" .nil) "" .nil) :=
    .element ⟨by decide, by decide, by decide, hnone⟩ (by decide) ⟨by decide, by decide, by decide, hnone⟩
      (.text (by decide) .nil) .nil
  have hbehind : Forest.IsWellFormed (.text "\n  " (.single "br" "" (.text "\n  "
      (.comment " <c> " (.text "\n" .nil))))) :=
    .text (by decide) (.single ⟨by decide, by decide, by decide, hnone⟩ (by decide)
      (.text (by decide) (.comment (by decide) (.text (by decide) .nil))))
  refine .element ⟨by decide, by decide, by decide, hnone⟩ (by decide)
    ⟨by decide, by decide, by decide, hblank⟩ (.text (by decide) ?_) (.text (by decide) ?_)
  · exact .element ⟨by decide, by decide, by decide, hvalue⟩ (by decide)
      ⟨by decide, by decide, by decide, hnone⟩ (.text (by decide) hinner) hbehind
  · exact .single ⟨by decide, by decide, by decide, hslash⟩ (by decide) .nil

theorem excerpt_sampleTemplate : Markup.excerpt 4 "..." sampleTemplate =
    "<a>\n  ...\n  <br>\n  <!-- <c> -->\n</a >\n<d />".toList := by
  have htemplate : strip sampleTemplate.dedent = sampleForest.toText := by decide
  rw [excerpt_of_toText isWellFormed_sampleForest 4 "..." htemplate]
  decide

end ComponentBook.Markup
