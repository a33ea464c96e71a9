import ComponentBook.Component.Zones
import ComponentBook.Proofs.Text.Blank
import ComponentBook.Proofs.Text.Caseless

/-! # The tags of a component file

What the readers of tags and blocks accept, stated apart from them:

* **`closingTag?_eq_some_iff`** — `</name`, blank characters, `>`;
* **`block?_eq_some_iff`** — an opening tag, a body in which no closing tag starts, a closing tag;
* **`templateTag?_eq_some_iff`** — an opening or closing tag of a template, or one that closes itself.

A tag has its only `>` at its end (`EndsAtBracket`). So whether a tag or a block starts at a place is
settled by the text up to that bracket (**`isLocal_block?`**, **`isLocal_templateTag?`**). -/

namespace ComponentBook.SourceZones

open Text

variable {name attrs attrs' body tag a b r rest t u w x y : Text}

/-! ## The shapes of tags -/

/-- `tag` opens `name` with the attributes `attrs`: the name ends where they start. -/
def IsOpeningTag (name attrs tag : Text) : Prop :=
  ∃ w, Spells name w ∧ attrs.head?.any isWord = false ∧ '>' ∉ attrs ∧
    tag = '<' :: (w ++ (attrs ++ ['>']))

/-- `tag` closes `name`; blank characters may stand behind the name. -/
def IsClosingTag (name tag : Text) : Prop :=
  ∃ w blank : Text, Spells name w ∧ blank.allBlank = true ∧ tag = '<' :: '/' :: (w ++ (blank ++ ['>']))

/-- The part that a template tag plays, by whether a slash stands in front of its name and by its
attributes. -/
def tagKind (closes : Bool) (attrs : Text) : TemplateTagKind :=
  if attrs.getLast? = some '/' then .selfClosing else if closes then .closing else .opening

/-- A template tag as it is written, the slash in front of the name and the attributes being given. -/
def IsTemplateTag (closes : Bool) (attrs : Text) (tag : TemplateTag) : Prop :=
  ∃ w, Spells "template" w ∧ attrs.head?.any isWord = false ∧ '>' ∉ attrs ∧
    tag.text = '<' :: ((if closes then ['/'] else []) ++ (w ++ (attrs ++ ['>']))) ∧
    tag.kind = tagKind closes attrs

/-- The only `>` of a text is its last character. -/
def EndsAtBracket (t : Text) : Prop := ∃ front, '>' ∉ front ∧ t = front ++ ['>']

theorem EndsAtBracket.ne_nil (h : EndsAtBracket t) : t ≠ [] := by
  obtain ⟨front, -, rfl⟩ := h
  simp

/-- A text with its only `>` at its end does not go beyond the first `>` of a text that it starts. -/
theorem EndsAtBracket.prefix_of_prefix_append (h : EndsAtBracket t) (ha : '>' ∈ a) (hp : t <+: a ++ b) :
    t <+: a := by
  obtain ⟨front, hfront, rfl⟩ := h
  rcases List.prefix_or_prefix_of_prefix hp (List.prefix_append a b) with hin | hover
  · exact hin
  · rcases List.prefix_concat_iff.1 hover with rfl | hshort
    · exact List.prefix_refl _
    · exact absurd (hshort.subset ha) hfront

/-- A spelling of a name holds a character that is no letter only if the name does. -/
theorem not_mem_of_spells {c : Char} (hc : plainLetter c = c) (hname : c ∉ name) (h : Spells name w) :
    c ∉ w := by
  intro hin
  have hletter : plainLetter c ∈ name := by
    rw [← h]
    exact List.mem_map_of_mem hin
  rw [hc] at hletter
  exact hname hletter

theorem not_mem_of_allBlank {c : Char} (hc : isBlank c = false) (h : t.allBlank = true) : c ∉ t := by
  intro hin
  rw [allBlank_eq_true_iff.1 h c hin] at hc
  cases hc

theorem IsOpeningTag.endsAtBracket (hname : '>' ∉ name) (h : IsOpeningTag name attrs tag) :
    EndsAtBracket tag := by
  obtain ⟨w, hw, -, hattrs, rfl⟩ := h
  refine ⟨'<' :: (w ++ attrs), ?_, by simp⟩
  simp [not_mem_of_spells (by decide) hname hw, hattrs]

theorem IsClosingTag.endsAtBracket (hname : '>' ∉ name) (h : IsClosingTag name tag) :
    EndsAtBracket tag := by
  obtain ⟨w, blank, hw, hblank, rfl⟩ := h
  refine ⟨'<' :: '/' :: (w ++ blank), ?_, by simp⟩
  simp [not_mem_of_spells (by decide) hname hw, not_mem_of_allBlank (by decide : isBlank '>' = false) hblank]

theorem IsTemplateTag.endsAtBracket {closes : Bool} {tag : TemplateTag}
    (h : IsTemplateTag closes attrs tag) : EndsAtBracket tag.text := by
  obtain ⟨w, hw, -, hattrs, htext, -⟩ := h
  refine ⟨'<' :: ((if closes then ['/'] else []) ++ (w ++ attrs)), ?_, by simp [htext]⟩
  have hname : '>' ∉ w := not_mem_of_spells (by decide) (by decide) hw
  cases closes <;> simp [hname, hattrs]

/-! ## The readers of tags -/

theorem tagName?_eq_some_iff :
    tagName? name t = some r ↔ r.head?.any isWord = false ∧ ∃ w, Spells name w ∧ t = w ++ r := by
  constructor
  · intro h
    simp only [tagName?, Option.bind_eq_bind, Option.bind_eq_some_iff, dropWordCaseless?_eq_some_iff] at h
    obtain ⟨u, ⟨w, hw, rfl⟩, _, hend, hr⟩ := h
    obtain rfl : u = r := Option.some.inj hr
    exact ⟨by simpa using hend, w, hw, rfl⟩
  · rintro ⟨hend, w, hw, rfl⟩
    have hword : dropWordCaseless? name (w ++ r) = some r := dropWordCaseless?_eq_some_iff.2 ⟨w, hw, rfl⟩
    simp [tagName?, hword, hend]

/-! ## Attributes -/

/-- Attributes end at the first `>`. -/
theorem not_mem_takeWhile_bracket (t : Text) : '>' ∉ t.takeWhile (· ≠ '>') := by
  intro hin
  simpa using List.mem_takeWhile_imp hin

theorem takeWhile_attrs (h : '>' ∉ attrs) (t : Text) : (attrs ++ '>' :: t).takeWhile (· ≠ '>') = attrs := by
  refine takeWhile_append_of_stop (fun c hc => ?_) (by simp)
  simpa using ne_of_mem_of_not_mem hc h

theorem dropWhile_attrs (h : '>' ∉ attrs) (t : Text) : (attrs ++ '>' :: t).dropWhile (· ≠ '>') = '>' :: t := by
  refine dropWhile_append_of_stop (fun c hc => ?_) (by simp)
  simpa using ne_of_mem_of_not_mem hc h

/-- Attributes that do not go on with the name in front of them do not do so up to their end. -/
theorem head?_any_takeWhile (h : t.head?.any isWord = false) :
    (t.takeWhile (· ≠ '>')).head?.any isWord = false := by
  cases t with
  | nil => rfl
  | cons c t =>
    by_cases hc : c = '>'
    · simp [hc]
    · simpa [hc] using h

/-- A name is read up to the attributes behind it. -/
theorem tagName?_attrs (hw : Spells name w) (hhead : attrs.head?.any isWord = false) (t : Text) :
    tagName? name (w ++ (attrs ++ '>' :: t)) = some (attrs ++ '>' :: t) := by
  refine tagName?_eq_some_iff.2 ⟨?_, w, hw, rfl⟩
  cases attrs with
  | nil => exact (by decide : isWord '>' = false)
  | cons c attrs => exact hhead

/-! ## Tags and blocks -/

theorem closingTag?_eq_some_iff :
    closingTag? name t = some r ↔ ∃ tag, IsClosingTag name tag ∧ t = tag ++ r := by
  constructor
  · intro h
    simp only [closingTag?, Option.bind_eq_bind, Option.bind_eq_some_iff, dropPrefix?_eq_some_iff,
      dropWordCaseless?_eq_some_iff] at h
    obtain ⟨u, rfl, v, ⟨w, hw, rfl⟩, hv⟩ := h
    obtain ⟨blank, hblank⟩ := exists_blank_stripLeft v
    rw [hv] at hblank
    refine ⟨_, ⟨w, blank.1, hw, blank.2, rfl⟩, ?_⟩
    simpa using hblank
  · rintro ⟨tag, ⟨w, blank, hw, hblank, rfl⟩, rfl⟩
    have hword : dropWordCaseless? name (w ++ (blank ++ ('>' :: r))) = some (blank ++ ('>' :: r)) :=
      dropWordCaseless?_eq_some_iff.2 ⟨w, hw, rfl⟩
    have hstrip : stripLeft (blank ++ ('>' :: r)) = '>' :: r := by
      apply dropWhile_append_of_stop (allBlank_eq_true_iff.1 hblank)
      simpa using (by decide : isBlank '>' = false)
    simp [closingTag?, dropPrefix?, hword, hstrip]

/-- What follows the opening tag of a block decides on the rest of the block. -/
theorem block?_append (h : IsOpeningTag name attrs tag) (t : Text) :
    block? name (tag ++ t) =
      (search (fun _ u => closingTag? name u) none t).map fun found => (⟨attrs, found.1⟩, found.2) := by
  obtain ⟨w, hw, hhead, hattrs, rfl⟩ := h
  have hname := tagName?_attrs hw hhead t
  have htake := takeWhile_attrs hattrs t
  have hshape : '<' :: (w ++ (attrs ++ ['>'])) ++ t = '<' :: (w ++ (attrs ++ '>' :: t)) := by simp
  rw [hshape]
  have hopen : dropPrefix? "<" ('<' :: (w ++ (attrs ++ '>' :: t))) = some (w ++ (attrs ++ '>' :: t)) := by
    simp [dropPrefix?]
  have hclose : dropPrefix? ">" ((attrs ++ '>' :: t).drop attrs.length) = some t := by
    simp [dropPrefix?]
  simp only [block?, hopen, hname, htake, hclose, Option.bind_eq_bind, Option.bind_some]
  cases search (fun _ u => closingTag? name u) none t with
  | none => rfl
  | some found => rfl

theorem exists_openingTag_of_block? {block : Block} (h : block? name t = some (block, rest)) :
    ∃ tag u, IsOpeningTag name block.attrs tag ∧ t = tag ++ u := by
  simp only [block?, Option.bind_eq_bind, Option.bind_eq_some_iff, dropPrefix?_eq_some_iff,
    tagName?_eq_some_iff] at h
  obtain ⟨u, rfl, v, ⟨hhead, w, hw, rfl⟩, z, hz, ⟨body, rest'⟩, -, he⟩ := h
  obtain ⟨rfl, -⟩ := Prod.mk.inj (Option.some.inj he)
  have hsplit : v.takeWhile (· ≠ '>') ++ v.drop (v.takeWhile (· ≠ '>')).length = v :=
    List.prefix_iff_eq_append.1 (List.takeWhile_prefix _)
  refine ⟨_, z, ⟨w, hw, ?_, ?_, rfl⟩, ?_⟩
  · exact head?_any_takeWhile hhead
  · exact not_mem_takeWhile_bracket v
  · simp only
    nth_rewrite 1 [← hsplit, hz]
    simp

/-- A block is an opening tag, a body in which no closing tag starts, and a closing tag. -/
theorem block?_eq_some_iff :
    block? name t = some (⟨attrs, body⟩, rest) ↔
      ∃ opening closing, IsOpeningTag name attrs opening ∧ IsClosingTag name closing ∧
        t = opening ++ (body ++ (closing ++ rest)) ∧
        ∀ x y, body = x ++ y → y ≠ [] → closingTag? name (y ++ (closing ++ rest)) = none := by
  constructor
  · intro h
    obtain ⟨opening, u, hopening, rfl⟩ := exists_openingTag_of_block? h
    rw [block?_append hopening] at h
    obtain ⟨⟨body', rest'⟩, hfound, he⟩ := Option.map_eq_some_iff.1 h
    obtain ⟨hb, rfl⟩ := Prod.mk.inj he
    obtain ⟨-, rfl⟩ := Block.mk.inj hb
    obtain ⟨v, rfl, hhere, hearlier⟩ := exists_of_search hfound
    obtain ⟨closing, hclosing, rfl⟩ := closingTag?_eq_some_iff.1 hhere
    exact ⟨opening, closing, hopening, hclosing, rfl, hearlier⟩
  · rintro ⟨opening, closing, hopening, hclosing, rfl, hearlier⟩
    have hhere : closingTag? name (closing ++ rest) = some rest :=
      closingTag?_eq_some_iff.2 ⟨closing, hclosing, rfl⟩
    have hfound : search (fun _ u => closingTag? name u) none (body ++ (closing ++ rest)) =
        some (body, rest) := by
      rw [search_append hearlier, search_of_here hhere]
      simp
    rw [block?_append hopening, hfound]
    rfl

/-- What is read of a text up to the first `>`. -/
theorem eq_takeWhile_bracket (h : dropPrefix? ">" (t.dropWhile (· ≠ '>')) = some r) :
    t = t.takeWhile (· ≠ '>') ++ '>' :: r := by
  have hsplit : t.takeWhile (· ≠ '>') ++ t.dropWhile (· ≠ '>') = t := List.takeWhile_append_dropWhile
  rw [dropPrefix?_eq_some_iff.1 h] at hsplit
  exact hsplit.symm

theorem take_length_sub (a b : Text) : (a ++ b).take ((a ++ b).length - b.length) = a := by
  simp

/-- The slash of a closing tag, if there is one, and the text behind it. -/
def splitSlash (t : Text) : Bool × Text :=
  match t with
  | '/' :: u => (true, u)
  | u => (false, u)

theorem append_splitSlash (t : Text) :
    t = (if (splitSlash t).1 then ['/'] else []) ++ (splitSlash t).2 := by
  unfold splitSlash
  split <;> rfl

/-- The slash is none of the name. -/
theorem splitSlash_append {closes : Bool} (h : Spells "template" w) (t : Text) :
    splitSlash ((if closes then ['/'] else []) ++ (w ++ t)) = (closes, w ++ t) := by
  cases closes with
  | true => rfl
  | false =>
    cases w with
    | nil => simp [Spells] at h
    | cons c w =>
      have hc : c ≠ '/' := by
        rintro rfl
        have hslash : plainLetter '/' = 't' := (List.cons.inj h).1
        revert hslash
        decide
      unfold splitSlash
      split
      · next u he => exact absurd (List.cons.inj he).1 hc
      · rfl

theorem templateTag?_eq (t : Text) : templateTag? t = (do
    let inner ← dropPrefix? "<" t
    let attrs ← tagName? "template" (splitSlash inner).2
    let rest ← dropPrefix? ">" (attrs.dropWhile (· ≠ '>'))
    return (⟨tagKind (splitSlash inner).1 (attrs.takeWhile (· ≠ '>')),
      t.take (t.length - rest.length)⟩, rest)) := by
  simp only [templateTag?, Option.bind_eq_bind]
  congr 1

/-- A template tag is an opening or a closing tag, or one that closes itself. -/
theorem templateTag?_eq_some_iff {tag : TemplateTag} :
    templateTag? t = some (tag, rest) ↔
      ∃ closes attrs, IsTemplateTag closes attrs tag ∧ t = tag.text ++ rest := by
  rw [templateTag?_eq]
  constructor
  · intro h
    simp only [Option.bind_eq_bind, Option.bind_eq_some_iff, dropPrefix?_eq_some_iff,
      tagName?_eq_some_iff] at h
    obtain ⟨inner, rfl, v, ⟨hhead, w, hw, hinner⟩, r, hr, he⟩ := h
    obtain ⟨rfl, rfl⟩ := Prod.mk.inj (Option.some.inj he)
    have hv := eq_takeWhile_bracket (dropPrefix?_eq_some_iff.2 hr)
    -- put together again, what has been read is the text
    have hshape := append_splitSlash inner
    rw [hinner, hv] at hshape
    have htext : "<".toList ++ inner = '<' :: ((if (splitSlash inner).1 then ['/'] else []) ++
        (w ++ (v.takeWhile (· ≠ '>') ++ ['>']))) ++ r := by
      nth_rewrite 1 [hshape]
      simp
    rw [htext, take_length_sub]
    exact ⟨(splitSlash inner).1, v.takeWhile (· ≠ '>'),
      ⟨w, hw, head?_any_takeWhile hhead, not_mem_takeWhile_bracket v, rfl, rfl⟩, rfl⟩
  · rintro ⟨closes, attrs, ⟨w, hw, hhead, hattrs, htext, hkind⟩, rfl⟩
    have hopen : dropPrefix? "<" (tag.text ++ rest) =
        some ((if closes then ['/'] else []) ++ (w ++ (attrs ++ '>' :: rest))) := by
      simp [htext, dropPrefix?]
    have hclose : dropPrefix? ">" ('>' :: rest) = some rest := dropPrefix?_append ['>'] rest
    simp only [hopen, splitSlash_append hw, tagName?_attrs hw hhead, dropWhile_attrs hattrs, hclose,
      takeWhile_attrs hattrs, take_length_sub, Option.bind_eq_bind, Option.bind_some, ← hkind]
    rfl

/-! ## Places of blocks and tags -/

theorem advances_block? (name : Text) : Advances (block? name) := by
  rintro t ⟨attrs, body⟩ r h
  obtain ⟨opening, closing, ⟨w, -, -, -, rfl⟩, -, rfl, -⟩ := block?_eq_some_iff.1 h
  exact ⟨'<' :: (w ++ (attrs ++ ['>'])) ++ (body ++ closing), by simp, by simp⟩

theorem advances_templateTag? : Advances templateTag? := by
  intro t tag r h
  obtain ⟨closes, attrs, htag, rfl⟩ := templateTag?_eq_some_iff.1 h
  exact ⟨tag.text, htag.endsAtBracket.ne_nil, rfl⟩

/-- A closing tag is found in a text with a `>` whatever follows, or not at all. -/
theorem closingTag?_eq_none_append (hname : '>' ∉ name) (ha : '>' ∈ a) :
    closingTag? name (a ++ b) = none ↔ closingTag? name a = none := by
  simp only [Option.eq_none_iff_forall_ne_some]
  constructor
  · intro h r hr
    obtain ⟨tag, htag, rfl⟩ := closingTag?_eq_some_iff.1 hr
    exact h (r ++ b) (closingTag?_eq_some_iff.2 ⟨tag, htag, by rw [List.append_assoc]⟩)
  · intro h r hr
    obtain ⟨tag, htag, he⟩ := closingTag?_eq_some_iff.1 hr
    obtain ⟨v, rfl⟩ := (htag.endsAtBracket hname).prefix_of_prefix_append ha ⟨r, he.symm⟩
    exact h v (closingTag?_eq_some_iff.2 ⟨tag, htag, rfl⟩)

theorem IsClosingTag.mem (h : IsClosingTag name tag) : '>' ∈ tag := by
  obtain ⟨w, blank, -, -, rfl⟩ := h
  simp

/-- A block is found by the text up to its closing tag. -/
theorem isLocal_block? (hname : '>' ∉ name) : IsLocal (block? name) := by
  rintro u ⟨attrs, body⟩ r x
  rw [block?_eq_some_iff, block?_eq_some_iff]
  refine exists_congr fun opening => exists_congr fun closing => and_congr_right fun _ =>
    and_congr_right fun hclosing => ?_
  have hshape : u ++ x = opening ++ (body ++ (closing ++ (r ++ x))) ↔
      u = opening ++ (body ++ (closing ++ r)) := by
    have hassoc : opening ++ (body ++ (closing ++ (r ++ x))) =
        opening ++ (body ++ (closing ++ r)) ++ x := by simp
    rw [hassoc]
    exact List.append_left_inj x
  have hnone : ∀ y, closingTag? name (y ++ (closing ++ (r ++ x))) = none ↔
      closingTag? name (y ++ (closing ++ r)) = none := by
    intro y
    have hin : '>' ∈ y ++ (closing ++ r) := by simp [hclosing.mem]
    rw [← closingTag?_eq_none_append hname hin (b := x)]
    simp only [List.append_assoc]
  rw [hshape]
  simp only [hnone]

theorem isLocal_templateTag? : IsLocal templateTag? := by
  intro u tag r x
  rw [templateTag?_eq_some_iff, templateTag?_eq_some_iff]
  refine exists_congr fun closes => exists_congr fun attrs => and_congr_right fun _ => ?_
  rw [← List.append_assoc]
  exact List.append_left_inj x

theorem styleZones_eq (t : Text) : styleZones t =
    ((occurrences (block? "style") t).map Prod.snd).map fun style =>
      ⟨style.attrs.strip, style.body⟩ := by
  simp [styleZones, Function.comp_def]

/-! ## Tags and the words they are made of -/

/-- Where a block starts stands its opening bracket with its name. -/
theorem prefix_of_block? {block : Block} (h : block? name t = some (block, rest)) :
    '<' :: name <+: t.map plainLetter := by
  obtain ⟨tag, u, ⟨w, hw, -, -, rfl⟩, rfl⟩ := exists_openingTag_of_block? h
  exact ⟨(block.attrs ++ ['>'] ++ u).map plainLetter, by simp [hw.map_eq]⟩

/-- A text in which no opening bracket with the name starts has no block. -/
theorem block?_eq_none_of_free (h : Free ('<' :: name) a) (hxy : a = x ++ y) (hy : y ≠ []) (t : Text) :
    block? name (y ++ t) = none := by
  rw [Option.eq_none_iff_forall_ne_some]
  rintro ⟨block, rest⟩ hfound
  exact h x y t hxy hy (prefix_of_block? hfound)

theorem prefix_of_closingTag? (h : closingTag? name t = some r) :
    '<' :: '/' :: name <+: t.map plainLetter := by
  obtain ⟨tag, ⟨w, blank, hw, -, rfl⟩, rfl⟩ := closingTag?_eq_some_iff.1 h
  exact ⟨(blank ++ ['>'] ++ r).map plainLetter, by simp [hw.map_eq]⟩

/-- No closing tag starts in a body that does not mention it. -/
theorem closingTag?_eq_none_of_not_mentions {closing : Text} (hname : '<' ∉ name)
    (hclosing : IsClosingTag name closing) (hbody : ¬ Mentions ('<' :: '/' :: name) body)
    (hxy : body = x ++ y) (hy : y ≠ []) (rest : Text) :
    closingTag? name (y ++ (closing ++ rest)) = none := by
  obtain ⟨w, blank, -, -, rfl⟩ := hclosing
  rw [Option.eq_none_iff_forall_ne_some]
  intro r hfound
  rw [hxy] at hbody
  exact not_prefix_of_not_mentions hbody hy (by simp [hname]) (prefix_of_closingTag? hfound)

theorem prefix_of_templateTag? {tag : TemplateTag} (h : templateTag? t = some (tag, rest)) :
    '<' :: "template".toList <+: t.map plainLetter ∨
      '<' :: '/' :: "template".toList <+: t.map plainLetter := by
  obtain ⟨closes, attrs, ⟨w, hw, -, -, htext, -⟩, rfl⟩ := templateTag?_eq_some_iff.1 h
  rw [htext]
  cases closes with
  | false =>
    left
    exact ⟨(attrs ++ ['>'] ++ rest).map plainLetter, by simp [hw.map_eq]⟩
  | true =>
    right
    exact ⟨(attrs ++ ['>'] ++ rest).map plainLetter, by simp [hw.map_eq]⟩

/-! ## The template of a list of tags -/

section

variable (depth : Nat) (before text : Text) (rest found : List (Text × TemplateTag))

theorem templateBody?_opening : templateBody? depth ((before, ⟨.opening, text⟩) :: rest) =
    (templateBody? (depth + 1) rest).map (before ++ text ++ ·) := by simp [templateBody?]

theorem templateBody?_selfClosing : templateBody? depth ((before, ⟨.selfClosing, text⟩) :: rest) =
    (templateBody? depth rest).map (before ++ text ++ ·) := by simp [templateBody?]

theorem templateBody?_closing : templateBody? (depth + 1) ((before, ⟨.closing, text⟩) :: rest) =
    (templateBody? depth rest).map (before ++ text ++ ·) := by simp [templateBody?]

theorem templateBody?_outermost : templateBody? 0 ((before, ⟨.closing, text⟩) :: rest) = some before := by
  simp [templateBody?]

theorem templateBody?_behind :
    templateBody? depth (behind before found) = (templateBody? depth found).map (before ++ ·) := by
  match found with
  | [] => rfl
  | (skipped, ⟨kind, text⟩) :: rest =>
    rw [behind]
    cases kind with
    | opening => simp [templateBody?_opening, Function.comp_def]
    | selfClosing => simp [templateBody?_selfClosing, Function.comp_def]
    | closing =>
      cases depth with
      | zero => simp [templateBody?_outermost]
      | succ depth => simp [templateBody?_closing, Function.comp_def]

/-- A tag closes the template, or the text goes on behind it. -/
theorem templateBody?_cons (kind : TemplateTagKind) :
    (∀ before text rest, templateBody? depth ((before, ⟨kind, text⟩) :: rest) = some before) ∨
      ∃ depth', ∀ before text rest, templateBody? depth ((before, ⟨kind, text⟩) :: rest) =
        (templateBody? depth' rest).map (before ++ text ++ ·) := by
  cases kind with
  | opening => exact .inr ⟨_, templateBody?_opening depth⟩
  | selfClosing => exact .inr ⟨_, templateBody?_selfClosing depth⟩
  | closing =>
    cases depth with
    | zero => exact .inl templateBody?_outermost
    | succ depth => exact .inr ⟨_, templateBody?_closing depth⟩

theorem firstTemplate?_behind : firstTemplate? (behind before found) = firstTemplate? found := by
  cases found with
  | nil => rfl
  | cons o found => rfl

theorem firstTemplate?_opening :
    firstTemplate? ((before, ⟨.opening, text⟩) :: rest) = templateBody? 0 rest := rfl

end

end ComponentBook.SourceZones
