import ComponentBook.Markup.Tag
import ComponentBook.Proofs.Text.Blank
import ComponentBook.Proofs.Text.Caseless
import ComponentBook.Proofs.Text.Search

/-! # Tags and comments that are read as they are written

A tag is written as a name and attributes between angle brackets (**`Tag.text`**); in the attributes a `>` may
stand inside quotes (**`Attributes`**). A tag and a comment are read back as they were written, whatever
follows (**`sizedToken?_tag`**, **`sizedToken?_comment`**), and nothing else starts in a text without `<`. So
the tags of a text that is put together are those of its pieces, each moved to its place
(**`tagsFrom_append`**, **`tagsFrom_comment`**, **`tagsFrom_tag`**). -/

namespace ComponentBook.Markup

open Text

variable {quote : Char} {attrs body r s t : Text} {tag : Tag} {offset : Nat}

/-! ## What is written -/

/-- A quote that may stand around the value of an attribute. -/
def IsAttributeQuote (c : Char) : Prop := c = '"' ∨ c = '\''

instance (c : Char) : Decidable (IsAttributeQuote c) := inferInstanceAs (Decidable (_ ∨ _))

/-- Attributes as they are written: texts in quotes, and characters other than quotes and `>`. -/
inductive Attributes : Text → Prop where
  /-- Nothing at all. -/
  | nil : Attributes []
  /-- A character outside quotes, and what follows. -/
  | char {c : Char} {t : Text} : ¬ IsAttributeQuote c → c ≠ '>' → Attributes t → Attributes (c :: t)
  /-- A text in quotes, and what follows. -/
  | quoted {quote : Char} {body t : Text} : IsAttributeQuote quote → quote ∉ body → Attributes t →
      Attributes (quote :: (body ++ quote :: t))

/-- Characters other than quotes and `>` are attributes. -/
theorem Attributes.of_plain (h : ∀ c ∈ t, ¬ IsAttributeQuote c ∧ c ≠ '>') : Attributes t := by
  induction t with
  | nil => exact .nil
  | cons c t ih =>
    obtain ⟨hquote, hbracket⟩ := h c List.mem_cons_self
    exact .char hquote hbracket (ih fun d hd => h d (List.mem_cons_of_mem _ hd))

/-- A tag as it is written: its name starts with a letter, and its attributes start behind the name. -/
structure Tag.IsWritten (tag : Tag) : Prop where
  name_head : tag.name.head?.any isLetter = true
  name_chars : ∀ c ∈ tag.name, isNameChar c = true
  attrs_head : ∀ c, tag.attrs.head? = some c → isBlank c = true ∨ c = '/'
  attrs : Attributes tag.attrs

/-- The text of a tag. -/
def Tag.text (tag : Tag) : Text :=
  '<' :: ((if tag.closing then ['/'] else []) ++ (tag.name ++ (tag.attrs ++ ['>'])))

/-- The text of a comment. -/
def commentText (body : Text) : Text := "<!--" ++ (body ++ "-->")

/-! ## Tags -/

/-- Inside quotes the attributes go on up to the closing quote. -/
theorem attributes?_quoted (h : quote ∉ body) (t : Text) :
    attributes? (some quote) (body ++ quote :: t) =
      (attributes? none t).map fun found => (body ++ quote :: found.1, found.2) := by
  induction body with
  | nil => simp [attributes?]
  | cons c body ih =>
    rw [List.mem_cons, not_or] at h
    simp [attributes?, Ne.symm h.1, ih h.2, Function.comp_def]

/-- The attributes of a tag are read up to the bracket that ends it. -/
theorem attributes?_append (h : Attributes attrs) (t : Text) :
    attributes? none (attrs ++ '>' :: t) = some (attrs, t) := by
  induction h with
  | nil => simp [attributes?]
  | @char c a hquote hbracket _ ih =>
    rw [IsAttributeQuote, not_or] at hquote
    simp [attributes?, hquote.1, hquote.2, hbracket, ih]
  | @quoted quote body a hquote hbody _ ih =>
    have hopens : (if quote = '"' ∨ quote = '\'' then some quote else none) = some quote := if_pos hquote
    have hbracket : quote ≠ '>' := by
      rintro rfl
      exact absurd hquote (by decide)
    have hshape : quote :: (body ++ quote :: a) ++ '>' :: t = quote :: (body ++ quote :: (a ++ '>' :: t)) := by
      simp
    rw [hshape, attributes?]
    simp [hbracket, hopens, attributes?_quoted hbody, ih]

theorem isNameChar_eq_false_of_attrs (h : isBlank c = true ∨ c = '/') : isNameChar c = false := by
  rcases h with hblank | rfl
  · have hword := isWord_of_isBlank hblank
    have hdot : c ≠ '.' ∧ c ≠ ':' ∧ c ≠ '-' := by
      refine ⟨?_, ?_, ?_⟩ <;> rintro rfl <;> exact absurd hblank (by decide)
    simp [isNameChar, hword, hdot]
  · decide

theorem takeWhile_name (h : tag.IsWritten) (t : Text) :
    (tag.name ++ (tag.attrs ++ '>' :: t)).takeWhile isNameChar = tag.name := by
  apply takeWhile_append_of_stop h.name_chars
  intro d hd
  cases hattrs : tag.attrs with
  | nil =>
    rw [hattrs] at hd
    obtain rfl : '>' = d := Option.some.inj hd
    decide
  | cons c attrs =>
    rw [hattrs] at hd
    obtain rfl : c = d := Option.some.inj hd
    exact isNameChar_eq_false_of_attrs (h.attrs_head c (by rw [hattrs]; rfl))

/-- A tag is read as it is written, whatever follows. -/
theorem tag?_text (h : tag.IsWritten) (t : Text) : tag? (tag.text ++ t) = some (tag, t) := by
  obtain ⟨closing, name, attrs⟩ := tag
  cases name with
  | nil => cases h.name_head
  | cons c name =>
    have hletter : isLetter c = true := h.name_head
    have hslash : c ≠ '/' := by
      rintro rfl
      exact absurd hletter (by decide)
    have hname : (c :: (name ++ (attrs ++ '>' :: t))).takeWhile isNameChar = c :: name :=
      takeWhile_name h t
    have hattrs : attributes? none (attrs ++ '>' :: t) = some (attrs, t) := attributes?_append h.attrs t
    cases closing with
    | true => simp [tag?, Tag.text, dropPrefix?, hletter, hname, hattrs]
    | false => simp [tag?, Tag.text, dropPrefix?, hletter, hslash, hname, hattrs]

/-! ## Comments -/

/-- The end of a comment does not start in front of the one that is written. -/
theorem comment?_commentText (h : ¬ "-->".toList <:+: body) (t : Text) :
    comment? (commentText body ++ t) = some t := by
  have hcut : cut? "-->" (body ++ ("-->" ++ t)) = some (body, t) := by
    apply cut?_append
    intro x y hxy hy hprefix
    have hprefix : ['-', '-', '>'] <+: y ++ '-' :: '-' :: '>' :: t := hprefix
    -- one that starts in the last two characters of the text would have its `>` in place of a hyphen
    rcases y with _ | ⟨c, _ | ⟨d, _ | ⟨e, y⟩⟩⟩
    · exact hy rfl
    · simp at hprefix
    · simp at hprefix
    · apply h
      rw [hxy]
      have hin : ['-', '-', '>'] <+: c :: d :: e :: y := by simpa using hprefix
      exact hin.isInfix.trans (List.suffix_append x _).isInfix
  have hshape : commentText body ++ t = "<!--" ++ (body ++ ("-->" ++ t)) := by simp [commentText]
  rw [comment?, hshape, dropPrefix?_append]
  simp only [Option.bind_eq_bind, Option.bind_some, hcut]
  rfl

/-- What starts with a letter or a slash behind the bracket is no comment. -/
theorem comment?_text (h : tag.IsWritten) (t : Text) : comment? (tag.text ++ t) = none := by
  obtain ⟨closing, name, attrs⟩ := tag
  cases name with
  | nil => cases h.name_head
  | cons c name =>
    have hletter : isLetter c = true := h.name_head
    have hmark : c ≠ '!' := by
      rintro rfl
      exact absurd hletter (by decide)
    cases closing with
    | true => simp [comment?, Tag.text, dropPrefix?]
    | false => simp [comment?, Tag.text, dropPrefix?, Ne.symm hmark]

/-! ## Tokens -/

theorem sizedToken?_tag (h : tag.IsWritten) (t : Text) :
    sizedToken? (tag.text ++ t) = some ((.tag tag, tag.text.length), t) := by
  simp [sizedToken?, token?, comment?_text h, tag?_text h]

theorem sizedToken?_comment (h : ¬ "-->".toList <:+: body) (t : Text) :
    sizedToken? (commentText body ++ t) = some ((.comment, (commentText body).length), t) := by
  simp [sizedToken?, token?, comment?_commentText h]

/-- A token starts with an angle bracket. -/
theorem sizedToken?_eq_none (h : t.head? ≠ some '<') : sizedToken? t = none := by
  cases t with
  | nil => rfl
  | cons c t =>
    have hc : '<' ≠ c := by
      rintro rfl
      exact h rfl
    simp [sizedToken?, token?, comment?, tag?, dropPrefix?, hc]

/-- The attributes of a tag end in front of the text behind the tag. -/
theorem eq_append_of_attributes? {q : Option Char} (h : attributes? q t = some (attrs, r)) :
    t = attrs ++ '>' :: r := by
  induction t generalizing q attrs with
  | nil => cases h
  | cons c t ih =>
    have hcons {found : Option (Text × Text)} (h : (found.map fun o => (c :: o.1, o.2)) = some (attrs, r))
        (ih : ∀ {attrs}, found = some (attrs, r) → t = attrs ++ '>' :: r) : c :: t = attrs ++ '>' :: r := by
      obtain ⟨⟨a, r'⟩, hfound, he⟩ := Option.map_eq_some_iff.1 h
      obtain ⟨rfl, rfl⟩ := Prod.mk.inj he
      rw [ih hfound, List.cons_append]
    cases q with
    | some quote => exact hcons h ih
    | none =>
      rw [attributes?] at h
      split at h
      · next hc =>
        obtain ⟨rfl, rfl⟩ := Prod.mk.inj (Option.some.inj h)
        rw [hc, List.nil_append]
      · exact hcons h ih

theorem suffix_of_tag? (h : tag? t = some (tag, r)) : ∃ u, t = '<' :: u ∧ r <:+ u := by
  simp only [tag?, Option.bind_eq_bind, Option.bind_eq_some_iff, dropPrefix?_eq_some_iff] at h
  obtain ⟨u, rfl, _, -, ⟨attrs, rest⟩, hattrs, he⟩ := h
  obtain ⟨-, rfl⟩ := Prod.mk.inj (Option.some.inj he)
  refine ⟨u, rfl, ?_⟩
  have hrest : rest <:+ attrs ++ '>' :: rest :=
    (List.suffix_cons '>' rest).trans (List.suffix_append attrs _)
  rw [← eq_append_of_attributes? hattrs] at hrest
  refine (hrest.trans (List.drop_suffix _ _)).trans ?_
  split
  · exact List.suffix_cons _ _
  · exact List.suffix_rfl

theorem suffix_of_comment? (h : comment? t = some r) : ∃ u, t = '<' :: u ∧ r <:+ u := by
  simp only [comment?, Option.bind_eq_bind, Option.bind_eq_some_iff, dropPrefix?_eq_some_iff] at h
  obtain ⟨u, rfl, ⟨body, rest⟩, hcut, he⟩ := h
  obtain rfl : rest = r := Option.some.inj he
  rw [eq_append_of_cut? hcut]
  exact ⟨_, rfl, (List.suffix_append _ rest).trans (List.suffix_append "!--".toList _)⟩

/-- What is read of a text is more than nothing. -/
theorem advances_sizedToken? : Advances sizedToken? := by
  intro t found r h
  have hsuffix : ∃ u, t = '<' :: u ∧ r <:+ u := by
    obtain ⟨⟨token, rest⟩, htoken, he⟩ := Option.map_eq_some_iff.1 h
    obtain ⟨rfl, rfl⟩ := Prod.mk.inj he
    rw [token?] at htoken
    split at htoken
    · next hcomment =>
      obtain ⟨rfl, rfl⟩ := Prod.mk.inj (Option.some.inj htoken)
      exact suffix_of_comment? hcomment
    · obtain ⟨⟨tag, rest⟩, htag, he⟩ := Option.map_eq_some_iff.1 htoken
      obtain ⟨rfl, rfl⟩ := Prod.mk.inj he
      exact suffix_of_tag? htag
  obtain ⟨u, rfl, w, rfl⟩ := hsuffix
  exact ⟨'<' :: w, List.cons_ne_nil _ _, rfl⟩

/-! ## The tags of a text -/

/-- The tags of a text with `offset` characters in front of it. -/
def tagsFrom (offset : Nat) (t : Text) : List (Span × Tag) :=
  placeTags offset (occurrences sizedToken? t)

theorem tags_eq (t : Text) : tags t = tagsFrom 0 t := rfl

@[simp] theorem tagsFrom_nil (offset : Nat) : tagsFrom offset [] = [] := by
  rw [tagsFrom, advances_sizedToken?.occurrences_nil, placeTags]

theorem placeTags_behind (offset : Nat) (s : Text) (found : List (Text × Token × Nat)) :
    placeTags offset (behind s found) = placeTags (offset + s.length) found := by
  cases found with
  | nil => rfl
  | cons o found =>
    obtain ⟨before, token, size⟩ := o
    simp [behind, placeTags, Nat.add_assoc]

/-- No tag starts in a text without an angle bracket. -/
theorem tagsFrom_append (h : '<' ∉ s) (offset : Nat) (t : Text) :
    tagsFrom offset (s ++ t) = tagsFrom (offset + s.length) t := by
  have hnone : ∀ x y, s = x ++ y → y ≠ [] → sizedToken? (y ++ t) = none := by
    intro x y hxy hy
    apply sizedToken?_eq_none
    intro hhead
    rw [List.head?_append_of_ne_nil y hy] at hhead
    exact h (hxy ▸ List.mem_append_right x (List.mem_of_head? hhead))
  rw [tagsFrom, occurrences_append advances_sizedToken? hnone, placeTags_behind, tagsFrom]

theorem tagsFrom_comment (h : ¬ "-->".toList <:+: body) (offset : Nat) (t : Text) :
    tagsFrom offset (commentText body ++ t) = tagsFrom (offset + (commentText body).length) t := by
  rw [tagsFrom, occurrences_of_here advances_sizedToken? (sizedToken?_comment h t), placeTags,
    List.length_nil, Nat.add_zero, tagsFrom]

/-- A tag stands where it is written. -/
theorem tagsFrom_tag (h : tag.IsWritten) (offset : Nat) (t : Text) :
    tagsFrom offset (tag.text ++ t) =
      (⟨offset, offset + tag.text.length⟩, tag) :: tagsFrom (offset + tag.text.length) t := by
  rw [tagsFrom, occurrences_of_here advances_sizedToken? (sizedToken?_tag h t), placeTags,
    List.length_nil, Nat.add_zero, tagsFrom]

end ComponentBook.Markup
