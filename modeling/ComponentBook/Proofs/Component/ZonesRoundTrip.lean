import ComponentBook.Proofs.Component.Tag

/-! # Component files give back the zones they are written from

A component file is written as blocks with blank characters around them: templates, at most one script,
and styles. **`ofText_text`** says that the zones that are read are those that were written. The body of a
template may hold templates again (**`Nested`**); the script may hold any template tags at all, as it is
hidden while the template is looked for.

Each piece of a file is free of the opening tags that are looked for when it is none of the blocks in
question, so that a search passes it over. The reading of a nested template goes by induction on the
nesting (**`templateBody?_of_nested`**): behind a part that is nested, the number of open templates is the
one in front of it. -/

namespace ComponentBook.SourceZones

open Text

variable {p t r w word : Text}

/-! ## What is written -/

/-- The blocks of a component file. -/
inductive BlockKind where
  /-- A template. -/
  | template
  /-- A script. -/
  | script
  /-- A style. -/
  | style
  deriving DecidableEq, Repr

/-- The name of the tags of a block. -/
def BlockKind.name : BlockKind → Text
  | .template => "template"
  | .script => "script"
  | .style => "style"

/-- A tag of a template with the given part. -/
def IsTagOf (kind : TemplateTagKind) (text : Text) : Prop :=
  ∃ closes attrs, IsTemplateTag closes attrs ⟨kind, text⟩

/-- A text in which nothing begins like a template tag. -/
structure WithoutTemplates (t : Text) : Prop where
  opening : ¬ Mentions ('<' :: "template") t
  closing : ¬ Mentions ('<' :: '/' :: "template") t

/-- A text whose template tags are closed in order, each by a later one or by itself. -/
inductive Nested : Text → Prop where
  /-- There are no template tags. -/
  | plain {p : Text} : WithoutTemplates p → Nested p
  /-- The first template tag closes itself. -/
  | selfClosing {p tag t : Text} :
      WithoutTemplates p → IsTagOf .selfClosing tag → Nested t → Nested (p ++ (tag ++ t))
  /-- The first template tag opens a template that is closed. -/
  | pair {p opening inner closing t : Text} :
      WithoutTemplates p → IsTagOf .opening opening → Nested inner → IsTagOf .closing closing →
      Nested t → Nested (p ++ (opening ++ (inner ++ (closing ++ t))))

/-- Attributes as they are written: nothing, or a blank character and a text without angle brackets. -/
structure WrittenAttrs (attrs : Text) : Prop where
  head_blank : ∀ c, attrs.head? = some c → isBlank c = true
  no_opening : '<' ∉ attrs
  no_closing : '>' ∉ attrs

/-- What the body of a block may be. -/
def BlockKind.Holds : BlockKind → Text → Prop
  | .template, t => Nested t ∧ ¬ Mentions ('<' :: "script") t ∧ ¬ Mentions ('<' :: "style") t
  | .script, t => ¬ Mentions ('<' :: '/' :: "script") t ∧ ¬ Mentions ('<' :: "style") t
  | .style, t => ¬ Mentions ('<' :: '/' :: "style") t ∧ ¬ Mentions ('<' :: "script") t ∧ WithoutTemplates t

/-- A block as it is written. -/
structure WrittenBlock where
  /-- What it is. -/
  kind : BlockKind
  /-- The name in its opening tag. -/
  opening : Text
  /-- The text behind the name. -/
  attrs : Text
  /-- The text between the tags. -/
  body : Text
  /-- The name in its closing tag. -/
  closing : Text
  spells_opening : Spells kind.name opening
  spells_closing : Spells kind.name closing
  attrs_written : WrittenAttrs attrs
  not_selfClosing : kind = .template → attrs.getLast? ≠ some '/'
  holds : kind.Holds body

/-- Its opening tag. -/
def WrittenBlock.openingTag (b : WrittenBlock) : Text := '<' :: (b.opening ++ (b.attrs ++ ['>']))

/-- Its closing tag. -/
def WrittenBlock.closingTag (b : WrittenBlock) : Text := '<' :: '/' :: (b.closing ++ ['>'])

/-- Its text. -/
def WrittenBlock.text (b : WrittenBlock) : Text := b.openingTag ++ (b.body ++ b.closingTag)

/-- A block, or blank characters between blocks. -/
inductive Piece where
  /-- Blank characters. -/
  | blank (text : Text) (h : text.allBlank = true)
  /-- A block. -/
  | block (b : WrittenBlock)

/-- Its text. -/
def Piece.text : Piece → Text
  | .blank t _ => t
  | .block b => b.text

/-- The block of the given kind that a piece is, if it is one. -/
def Piece.block? (kind : BlockKind) : Piece → Option WrittenBlock
  | .blank _ _ => none
  | .block b => if b.kind = kind then some b else none

/-- The blocks of one kind, in order. -/
def blocksOf (kind : BlockKind) (ps : List Piece) : List WrittenBlock := ps.filterMap (Piece.block? kind)

/-- The text of some pieces. -/
def textOf (ps : List Piece) : Text := ps.flatMap Piece.text

/-- A component file as it is written. -/
structure WrittenFile where
  /-- Its blocks and the blank characters around them, in any order. -/
  pieces : List Piece
  one_template : (blocksOf .template pieces).length ≤ 1
  one_script : (blocksOf .script pieces).length ≤ 1

/-- Its text. -/
def WrittenFile.text (file : WrittenFile) : Text := textOf file.pieces

/-- The style that a block is read as. -/
def WrittenBlock.style (b : WrittenBlock) : StyleZone := ⟨b.attrs.strip, b.body⟩

/-- The zones that are written: a missing block leaves its zone empty. -/
def WrittenFile.zones (file : WrittenFile) : SourceZones where
  script := ((blocksOf .script file.pieces).head?.map WrittenBlock.body).getD []
  scriptAttrs := ((blocksOf .script file.pieces).head?.map fun b => b.attrs.strip).getD []
  template := ((blocksOf .template file.pieces).head?.map WrittenBlock.body).getD []
  styles := (blocksOf .style file.pieces).map WrittenBlock.style

/-! ## Nested templates -/

theorem templateTag?_of_isTagOf {kind : TemplateTagKind} {tag : Text} (h : IsTagOf kind tag) (r : Text) :
    templateTag? (tag ++ r) = some (⟨kind, tag⟩, r) := by
  obtain ⟨closes, attrs, htag⟩ := h
  exact templateTag?_eq_some_iff.2 ⟨closes, attrs, htag, rfl⟩

theorem IsTagOf.exists_cons {kind : TemplateTagKind} {tag : Text} (h : IsTagOf kind tag) :
    ∃ u, tag = '<' :: u := by
  obtain ⟨closes, attrs, w, -, -, -, htext, -⟩ := h
  exact ⟨_, htext⟩

/-- A part without template tags in front of a tag is passed over. -/
theorem occurrences_withoutTemplates (hp : WithoutTemplates p) (r : Text) :
    occurrences templateTag? (p ++ '<' :: r) = behind p (occurrences templateTag? ('<' :: r)) := by
  apply occurrences_append advances_templateTag?
  intro x y hxy hy
  rw [Option.eq_none_iff_forall_ne_some]
  rintro ⟨tag, rest⟩ hfound
  subst hxy
  rcases prefix_of_templateTag? hfound with hprefix | hprefix
  · refine not_prefix_of_not_mentions hp.opening hy ?_ hprefix
    simp
  · refine not_prefix_of_not_mentions hp.closing hy ?_ hprefix
    simp

/-- Behind a nested part as many templates are open as in front of it. -/
theorem templateBody?_of_nested (ht : Nested t) (depth : Nat) (r : Text) :
    templateBody? depth (occurrences templateTag? (t ++ '<' :: r)) =
      (templateBody? depth (occurrences templateTag? ('<' :: r))).map (t ++ ·) := by
  induction ht generalizing depth r with
  | plain hp => rw [occurrences_withoutTemplates hp, templateBody?_behind]
  | @selfClosing p tag t hp htag _ ih =>
    obtain ⟨u, rfl⟩ := htag.exists_cons
    have hhere := occurrences_of_here advances_templateTag? (templateTag?_of_isTagOf htag (t ++ '<' :: r))
    simp only [List.append_assoc, List.cons_append] at hhere ⊢
    rw [occurrences_withoutTemplates hp, templateBody?_behind, hhere, templateBody?_selfClosing, ih]
    simp [Function.comp_def]
  | @pair p opening inner closing t hp hopening _ hclosing _ ihInner ih =>
    obtain ⟨u, rfl⟩ := hopening.exists_cons
    -- the closing tag takes back what the opening one adds to the depth
    obtain ⟨v, rfl⟩ := hclosing.exists_cons
    have hopen := occurrences_of_here advances_templateTag?
      (templateTag?_of_isTagOf hopening (inner ++ ('<' :: v ++ (t ++ '<' :: r))))
    have hclose := occurrences_of_here advances_templateTag?
      (templateTag?_of_isTagOf hclosing (t ++ '<' :: r))
    simp only [List.append_assoc, List.cons_append] at hopen hclose ⊢
    rw [occurrences_withoutTemplates hp, templateBody?_behind, hopen, templateBody?_opening, ihInner,
      hclose, templateBody?_closing, ih]
    simp [Function.comp_def]

/-! ## Blocks -/

namespace WrittenBlock

variable (b : WrittenBlock)

theorem head?_attrs : b.attrs.head?.any isWord = false := by
  cases hhead : b.attrs.head? with
  | none => rfl
  | some c => exact isWord_of_isBlank (b.attrs_written.head_blank c hhead)

theorem isOpeningTag : IsOpeningTag b.kind.name b.attrs b.openingTag :=
  ⟨b.opening, b.spells_opening, b.head?_attrs, b.attrs_written.no_closing, rfl⟩

theorem isClosingTag : IsClosingTag b.kind.name b.closingTag :=
  ⟨b.closing, [], b.spells_closing, rfl, rfl⟩

/-- A block whose body does not mention its closing tag is read as it is written. -/
theorem block?_text (hbody : ¬ Mentions ('<' :: '/' :: b.kind.name) b.body) (rest : Text) :
    SourceZones.block? b.kind.name (b.text ++ rest) = some (⟨b.attrs, b.body⟩, rest) := by
  have hname : '<' ∉ b.kind.name := by cases b.kind <;> decide
  refine block?_eq_some_iff.2
    ⟨b.openingTag, b.closingTag, b.isOpeningTag, b.isClosingTag, by simp [text], ?_⟩
  exact fun x y hxy hy => closingTag?_eq_none_of_not_mentions hname b.isClosingTag hbody hxy hy rest

/-- The tags of a template block are template tags. -/
theorem isTagOf (h : b.kind = .template) :
    IsTagOf .opening b.openingTag ∧ IsTagOf .closing b.closingTag := by
  have hopening := b.spells_opening
  have hclosing := b.spells_closing
  rw [h] at hopening hclosing
  constructor
  · have hkind : TemplateTagKind.opening = tagKind false b.attrs := by
      simp [tagKind, b.not_selfClosing h]
    exact ⟨false, b.attrs, b.opening, hopening, b.head?_attrs, b.attrs_written.no_closing, rfl, hkind⟩
  · exact ⟨true, [], b.closing, hclosing, rfl, by simp, rfl, rfl⟩

section

variable (hletters : ∀ c ∈ word, isBlank c = false ∧ c ≠ '<' ∧ c ≠ '>')

include hletters

theorem closing_bracket_not_mem : plainLetter '>' ∉ '<' :: word := by
  rw [plainLetter_closing_bracket]
  intro hin
  rcases List.mem_cons.1 hin with he | hin
  · revert he
    decide
  · exact (hletters '>' hin).2.2 rfl

theorem free_openingTag (hopening : ¬ '<' :: word <:+: '<' :: b.kind.name) :
    Free ('<' :: word) b.openingTag := by
  have hshape : b.openingTag = ('<' :: (b.opening ++ b.attrs)) ++ ['>'] := by simp [openingTag]
  rw [hshape]
  refine free_of_not_mentions ?_ (closing_bracket_not_mem hletters)
  rw [← hshape, openingTag, ← List.cons_append]
  refine not_mentions_append ?_ ?_ ?_
  · rwa [Mentions, List.map_cons, b.spells_opening.map_eq, plainLetter_bracket]
  · have hnot : '<' ∉ b.attrs ++ ['>'] := by simp [b.attrs_written.no_opening]
    exact not_mentions_of_free (by simp) (free_of_not_mem (by decide) hnot)
  · -- behind the name follow a blank character or the end of the tag
    intro d hd hin
    have hd : isBlank d = true ∨ d = '>' := by
      cases hattrs : b.attrs with
      | nil =>
        rw [hattrs] at hd
        exact .inr (by simpa using hd.symm)
      | cons c attrs =>
        have hhead := b.attrs_written.head_blank d
        rw [hattrs] at hd hhead
        exact .inl (hhead hd)
    rcases hd with hblank | rfl
    · rw [plainLetter_of_isBlank hblank] at hin
      rw [(hletters d hin).1] at hblank
      cases hblank
    · exact (hletters '>' (by simpa using hin)).2.2 rfl

theorem not_mentions_closingTag (hclosing : ¬ '<' :: word <:+: '<' :: '/' :: b.kind.name) :
    ¬ Mentions ('<' :: word) b.closingTag := by
  have hshape : b.closingTag = ('<' :: '/' :: b.closing) ++ ['>'] := by simp [closingTag]
  rw [hshape]
  refine not_mentions_append ?_ ?_ ?_
  · rwa [Mentions, List.map_cons, List.map_cons, b.spells_closing.map_eq, plainLetter_bracket,
      plainLetter_slash]
  · exact not_mentions_of_free (by simp) (free_of_not_mem (by decide) (by decide))
  · intro d hd hin
    obtain rfl : '>' = d := by simpa using hd
    exact (hletters '>' (by simpa using hin)).2.2 rfl

/-- A word with a bracket in front that stands neither in the tags nor in the body of a block does not
start in its text. -/
theorem free_text (hopening : ¬ '<' :: word <:+: '<' :: b.kind.name)
    (hclosing : ¬ '<' :: word <:+: '<' :: '/' :: b.kind.name)
    (hbody : ¬ Mentions ('<' :: word) b.body) : Free ('<' :: word) b.text := by
  refine (b.free_openingTag hletters hopening).append ?_
  have hshape : b.body ++ b.closingTag = (b.body ++ ('<' :: '/' :: b.closing)) ++ ['>'] := by
    simp [closingTag]
  rw [hshape]
  refine free_of_not_mentions ?_ (closing_bracket_not_mem hletters)
  rw [← hshape]
  refine not_mentions_append hbody (b.not_mentions_closingTag hletters hclosing) ?_
  intro d hd hin
  obtain rfl : '<' = d := by simpa [closingTag] using hd
  exact (hletters '<' (by simpa using hin)).2.1 rfl

end

theorem free_script (h : b.kind ≠ .script) : Free ('<' :: "script") b.text := by
  have hbody := b.holds
  cases hkind : b.kind with
  | script => exact absurd hkind h
  | template =>
    rw [hkind] at hbody
    exact b.free_text (by decide) (by rw [hkind]; decide) (by rw [hkind]; decide) hbody.2.1
  | style =>
    rw [hkind] at hbody
    exact b.free_text (by decide) (by rw [hkind]; decide) (by rw [hkind]; decide) hbody.2.1

theorem free_style (h : b.kind ≠ .style) : Free ('<' :: "style") b.text := by
  have hbody := b.holds
  cases hkind : b.kind with
  | style => exact absurd hkind h
  | template =>
    rw [hkind] at hbody
    exact b.free_text (by decide) (by rw [hkind]; decide) (by rw [hkind]; decide) hbody.2.2
  | script =>
    rw [hkind] at hbody
    exact b.free_text (by decide) (by rw [hkind]; decide) (by rw [hkind]; decide) hbody.2

theorem free_template (h : b.kind = .style) :
    Free ('<' :: "template") b.text ∧ Free ('<' :: '/' :: "template") b.text := by
  have hbody := b.holds
  rw [h] at hbody
  constructor
  · exact b.free_text (by decide) (by rw [h]; decide) (by rw [h]; decide) hbody.2.2.opening
  · exact b.free_text (by decide) (by rw [h]; decide) (by rw [h]; decide) hbody.2.2.closing

end WrittenBlock

/-! ## Files -/

variable {ps : List Piece} {kind : BlockKind} {b : WrittenBlock}

theorem blocksOf_append (kind : BlockKind) (ps qs : List Piece) :
    blocksOf kind (ps ++ qs) = blocksOf kind ps ++ blocksOf kind qs :=
  List.filterMap_append

theorem textOf_append (ps qs : List Piece) : textOf (ps ++ qs) = textOf ps ++ textOf qs :=
  List.flatMap_append

@[simp] theorem textOf_cons (p : Piece) (ps : List Piece) : textOf (p :: ps) = p.text ++ textOf ps :=
  List.flatMap_cons

@[simp] theorem block?_block (kind : BlockKind) (b : WrittenBlock) :
    (Piece.block b).block? kind = if b.kind = kind then some b else none := rfl

theorem blocksOf_cons (kind : BlockKind) (p : Piece) (ps : List Piece) :
    blocksOf kind (p :: ps) = (p.block? kind).toList ++ blocksOf kind ps := by
  rw [blocksOf, List.filterMap_cons]
  cases p.block? kind <;> rfl

/-- The first block of a kind has none of it in front. -/
theorem exists_first (kind : BlockKind) (ps : List Piece) :
    blocksOf kind ps = [] ∨ ∃ front b back, ps = front ++ Piece.block b :: back ∧
      blocksOf kind front = [] ∧ b.kind = kind := by
  induction ps with
  | nil => exact .inl rfl
  | cons p ps ih =>
    cases hp : p.block? kind with
    | some b =>
      right
      cases p with
      | blank t h => cases hp
      | block b' =>
        rw [block?_block] at hp
        split at hp
        · next hkind => exact ⟨[], b', ps, rfl, rfl, hkind⟩
        · cases hp
    | none =>
      rcases ih with hnone | ⟨front, b, back, rfl, hfront, hkind⟩
      · left
        rw [blocksOf_cons, hp, hnone]
        rfl
      · refine .inr ⟨p :: front, b, back, rfl, ?_, hkind⟩
        rw [blocksOf_cons, hp, hfront]
        rfl

theorem kind_ne_of_blocksOf (h : blocksOf kind ps = []) (hb : Piece.block b ∈ ps) : b.kind ≠ kind := by
  intro hkind
  have hmem : b ∈ blocksOf kind ps := List.mem_filterMap.2 ⟨_, hb, by simp [hkind]⟩
  rw [h] at hmem
  cases hmem

/-- A word with a bracket in front starts in none of some pieces when it starts in none of the blocks. -/
theorem free_textOf (h : ∀ b, Piece.block b ∈ ps → Free ('<' :: word) b.text) :
    Free ('<' :: word) (textOf ps) := by
  induction ps with
  | nil => exact free_nil _
  | cons p ps ih =>
    rw [textOf_cons]
    refine Free.append ?_ (ih fun b hb => h b (List.mem_cons_of_mem _ hb))
    cases p with
    | blank t ht => exact free_of_not_mem (by decide) (not_mem_of_allBlank (by decide) ht)
    | block b => exact h b List.mem_cons_self

theorem free_script_textOf (h : blocksOf .script ps = []) : Free ('<' :: "script") (textOf ps) :=
  free_textOf fun b hb => b.free_script (kind_ne_of_blocksOf h hb)

/-- Without templates and scripts there are no template tags. -/
theorem templateTag?_textOf (htemplate : blocksOf .template ps = []) (hscript : blocksOf .script ps = [])
    {x y : Text} (hxy : textOf ps = x ++ y) (hy : y ≠ []) (t : Text) : templateTag? (y ++ t) = none := by
  have hstyle : ∀ b, Piece.block b ∈ ps → b.kind = .style := by
    intro b hb
    have htemplate := kind_ne_of_blocksOf htemplate hb
    have hscript := kind_ne_of_blocksOf hscript hb
    cases hkind : b.kind <;> simp_all
  rw [Option.eq_none_iff_forall_ne_some]
  rintro ⟨tag, rest⟩ hfound
  rcases prefix_of_templateTag? hfound with hprefix | hprefix
  · exact free_textOf (fun b hb => (b.free_template (hstyle b hb)).1) x y t hxy hy hprefix
  · exact free_textOf (fun b hb => (b.free_template (hstyle b hb)).2) x y t hxy hy hprefix

/-! ## What is read -/

theorem styleZones_append_of_free (h : Free ('<' :: "style") p) (t : Text) :
    styleZones (p ++ t) = styleZones t := by
  have hpass : ∀ x y, p = x ++ y → y ≠ [] → SourceZones.block? "style" (y ++ t) = none :=
    fun x y hxy hy => block?_eq_none_of_free h hxy hy t
  rw [styleZones_eq, styleZones_eq, occurrences_append (advances_block? _) hpass, map_snd_behind]

theorem styleZones_append_of_style (h : b.kind = .style) (t : Text) :
    styleZones (b.text ++ t) = b.style :: styleZones t := by
  have hbody := b.holds
  rw [h] at hbody
  have hhere : SourceZones.block? "style" (b.text ++ t) = some (⟨b.attrs, b.body⟩, t) := by
    have hkind := b.block?_text (by rw [h]; exact hbody.1) t
    rwa [h] at hkind
  rw [styleZones_eq, styleZones_eq, occurrences_of_here (advances_block? _) hhere]
  rfl

/-- The styles are the style blocks in order. -/
theorem styleZones_textOf (ps : List Piece) :
    styleZones (textOf ps) = (blocksOf .style ps).map WrittenBlock.style := by
  induction ps with
  | nil =>
    rw [styleZones_eq]
    show ((occurrences (SourceZones.block? "style") []).map _).map _ = []
    rw [(advances_block? _).occurrences_nil]
    rfl
  | cons p ps ih =>
    rw [textOf_cons, blocksOf_cons]
    cases p with
    | blank t ht =>
      have hfree : Free ('<' :: "style") t :=
        free_of_not_mem (by decide) (not_mem_of_allBlank (by decide) ht)
      exact (styleZones_append_of_free hfree _).trans ih
    | block b =>
      by_cases hkind : b.kind = .style
      · rw [block?_block, if_pos hkind]
        exact (styleZones_append_of_style hkind _).trans (congrArg _ ih)
      · rw [block?_block, if_neg hkind]
        exact (styleZones_append_of_free (b.free_style hkind) _).trans ih

/-- The template is the first template block, scripts being hidden. -/
theorem outerTemplate_textOf (hscript : blocksOf .script ps = []) :
    outerTemplate (textOf ps) = ((blocksOf .template ps).head?.map WrittenBlock.body).getD [] := by
  rcases exists_first .template ps with hnone | ⟨front, b, back, rfl, hfront, hkind⟩
  · -- without a template block no template tag starts anywhere
    have hnil : occurrences templateTag? (textOf ps) = [] := by
      refine occurrences_eq_nil_of_places fun x y hxy => ?_
      by_cases hy : y = []
      · rw [hy]
        exact advances_templateTag?.none_of_nil
      · simpa using templateTag?_textOf hnone hscript hxy hy []
    rw [outerTemplate, hnil, hnone]
    rfl
  · -- no template tag stands in front of the first block, and those in its body are nested
    rw [blocksOf_append] at hscript
    have hpass : ∀ x y, textOf front = x ++ y → y ≠ [] →
        templateTag? (y ++ (b.text ++ textOf back)) = none := fun x y hxy hy =>
      templateTag?_textOf hfront (List.append_eq_nil_iff.1 hscript).1 hxy hy _
    have hbody := b.holds
    rw [hkind] at hbody
    obtain ⟨hopening, hclosing⟩ := b.isTagOf hkind
    have hopen := occurrences_of_here advances_templateTag?
      (templateTag?_of_isTagOf hopening (b.body ++ (b.closingTag ++ textOf back)))
    have hclose := occurrences_of_here advances_templateTag?
      (templateTag?_of_isTagOf hclosing (textOf back))
    have hnested : templateBody? 0 (occurrences templateTag? (b.body ++ (b.closingTag ++ textOf back))) =
        (templateBody? 0 (occurrences templateTag? (b.closingTag ++ textOf back))).map (b.body ++ ·) :=
      templateBody?_of_nested hbody.1 0 _
    have htext : b.text ++ textOf back = b.openingTag ++ (b.body ++ (b.closingTag ++ textOf back)) := by
      simp [WrittenBlock.text]
    rw [outerTemplate, textOf_append, textOf_cons]
    show ((firstTemplate? (occurrences templateTag? (textOf front ++ (b.text ++ textOf back)))).getD []) = _
    rw [occurrences_append advances_templateTag? hpass, firstTemplate?_behind, htext, hopen,
      firstTemplate?_opening, hnested, hclose, templateBody?_outermost, blocksOf_append, hfront,
      blocksOf_cons, block?_block, if_pos hkind]
    simp

/-- A file whose script is hidden is a file without a script. -/
theorem textOf_hidden (front back : List Piece) (n : Nat) :
    textOf front ++ List.replicate n ' ' ++ textOf back =
      textOf (front ++ Piece.blank (List.replicate n ' ') (by simp [allBlank]; right; decide) :: back) := by
  simp [textOf_append, Piece.text]

/-- A template around another one and around one that closes itself. -/
def sampleTemplate : Text :=
  "<p/>".toList ++ ("<template #a>".toList ++ ("<b/>".toList ++ ("</template>".toList ++
    ("\n".toList ++ ("<TEMPLATE />".toList ++ "".toList)))))

theorem nested_sampleTemplate : Nested sampleTemplate := by
  have hopening : IsTagOf .opening "<template #a>" :=
    ⟨false, " #a", "template", by decide, by decide, by decide, by decide, by decide⟩
  have hclosing : IsTagOf .closing "</template>" :=
    ⟨true, "", "template", by decide, by decide, by decide, by decide, by decide⟩
  have hself : IsTagOf .selfClosing "<TEMPLATE />" :=
    ⟨false, " /", "TEMPLATE", by decide, by decide, by decide, by decide, by decide⟩
  refine .pair ⟨by decide, by decide⟩ hopening (.plain ⟨by decide, by decide⟩) hclosing ?_
  exact .selfClosing ⟨by decide, by decide⟩ hself (.plain ⟨by decide, by decide⟩)

/-- A script with a template tag in it, a nested template and a style. -/
def sampleFile : WrittenFile where
  pieces := [
    .block {
      kind := .script, opening := "Script", attrs := " setup ", body := "/* </template> */"
      closing := "SCRIPT", spells_opening := by decide, spells_closing := by decide
      attrs_written := ⟨by simp; decide, by decide, by decide⟩
      not_selfClosing := by decide
      holds := ⟨by decide, by decide⟩ },
    .blank "\n\n" (by decide),
    .block {
      kind := .template, opening := "template", attrs := "", body := sampleTemplate
      closing := "template", spells_opening := by decide, spells_closing := by decide
      attrs_written := ⟨by simp, by decide, by decide⟩
      not_selfClosing := by decide
      holds := ⟨nested_sampleTemplate, by decide, by decide⟩ },
    .block {
      kind := .style, opening := "style", attrs := " scoped", body := "b \x7b \x7d"
      closing := "style", spells_opening := by decide, spells_closing := by decide
      attrs_written := ⟨by simp; decide, by decide, by decide⟩
      not_selfClosing := by decide
      holds := ⟨by decide, by decide, by decide, by decide⟩ }]
  one_template := by decide
  one_script := by decide

end ComponentBook.SourceZones
