import ComponentBook.Proofs.Markup.Tag
import ComponentBook.Proofs.Text.Lines

/-! # The attributes of a tag

The attributes of a tag are the words between its blank characters, those in quotes left aside
(**`wordsOutsideQuotes`**), each cut at its first equals sign; a slash on its own closes the tag
(**`readAttributes`**). Attributes that are written with blank characters in front of each (**`IsAttribute`**,
`attributesText`) are read back, in order (**`readAttributes_attributesText`**), they belong to the tag
(`attributes_attributesText`), and a slash stands at their end only if it is put there
(**`not_endsWith_slash_attributesText`**). -/

namespace ComponentBook.Markup

open Text

variable {quote : Char} {attrs body gap name read s t value : Text} {pair : Text × Text}
  {pairs : List (Text × Text)}

/-! ## Reading attributes -/

/-- The words between the blank characters of a text, those in quotes left aside; `read` is the word that is
being read, last character first, and `quote` the quote that is open. -/
def wordsOutsideQuotes (quote : Option Char) (read : Text) : Text → List Text
  | [] => if read = [] then [] else [read.reverse]
  | c :: t =>
    match quote with
    | some q => wordsOutsideQuotes (if c = q then none else some q) (c :: read) t
    | none =>
      if isBlank c then
        if read = [] then wordsOutsideQuotes none [] t else read.reverse :: wordsOutsideQuotes none [] t
      else wordsOutsideQuotes (if IsAttributeQuote c then some c else none) (c :: read) t

/-- A word as an attribute: what stands in front of its first equals sign, and what stands behind it. -/
def cutAttribute (word : Text) : Text × Text := (word.takeWhile (· ≠ '='), (word.dropWhile (· ≠ '=')).drop 1)

/-- The attributes of a tag: its words without the slash that closes it. -/
def readAttributes (attrs : Text) : List (Text × Text) :=
  ((wordsOutsideQuotes none [] attrs).filter (· ≠ ['/'])).map cutAttribute

/-! ## Writing attributes -/

/-- A character that is not blank and plays no part in a tag. -/
def isPlainChar (c : Char) : Bool := !(isBlank c || ['"', '\'', '>', '/', '='].contains c)

/-- A value as it is written: plain characters, or a text on one line in quotes. -/
inductive IsAttributeValue : Text → Prop where
  | plain {t : Text} : t ≠ [] → (∀ c ∈ t, isPlainChar c = true) → IsAttributeValue t
  | quoted {quote : Char} {body : Text} : IsAttributeQuote quote → quote ∉ body →
      (∀ c ∈ body, isLineBreak c = false) → IsAttributeValue (quote :: (body ++ [quote]))

/-- A name and a value that can be written as an attribute. -/
structure IsAttribute (pair : Text × Text) : Prop where
  name_ne_nil : pair.1 ≠ []
  name_plain : ∀ c ∈ pair.1, isPlainChar c = true
  value : IsAttributeValue pair.2

/-- The text of an attribute. -/
def attributeText (pair : Text × Text) : Text := pair.1 ++ '=' :: pair.2

/-- Attributes with `gap` in front of each. -/
def attributesText (gap : Text) (pairs : List (Text × Text)) : Text :=
  pairs.flatMap fun pair => gap ++ attributeText pair

theorem attributesText_cons (gap : Text) (pair : Text × Text) (pairs : List (Text × Text)) :
    attributesText gap (pair :: pairs) = gap ++ attributeText pair ++ attributesText gap pairs := rfl

/-! ## Plain characters -/

theorem isPlainChar_iff {c : Char} :
    isPlainChar c = true ↔ isBlank c = false ∧ ¬ IsAttributeQuote c ∧ c ≠ '>' ∧ c ≠ '/' ∧ c ≠ '=' := by
  simp [isPlainChar, IsAttributeQuote, and_assoc]

theorem not_break_of_isPlainChar {c : Char} (h : isPlainChar c = true) : isLineBreak c = false := by
  rw [Bool.eq_false_iff]
  intro hbreak
  have hblank := (isPlainChar_iff.1 h).1
  rw [isBlank_of_isLineBreak hbreak] at hblank
  cases hblank

/-! ## Words -/

theorem wordsOutsideQuotes_cons {c : Char} (hblank : isBlank c = false) (hquote : ¬ IsAttributeQuote c)
    (t : Text) :
    wordsOutsideQuotes none read (c :: t) = wordsOutsideQuotes none (c :: read) t := by
  rw [wordsOutsideQuotes, hblank, if_neg Bool.false_ne_true, if_neg hquote]

theorem wordsOutsideQuotes_plain (h : ∀ c ∈ s, isPlainChar c = true) (t : Text) :
    wordsOutsideQuotes none read (s ++ t) = wordsOutsideQuotes none (s.reverse ++ read) t := by
  induction s generalizing read with
  | nil => rfl
  | cons c s ih =>
    rw [List.forall_mem_cons] at h
    obtain ⟨hblank, hquote, -⟩ := isPlainChar_iff.1 h.1
    rw [List.cons_append, wordsOutsideQuotes_cons hblank hquote, ih h.2, List.reverse_cons, List.append_assoc,
      List.singleton_append]

/-- Inside quotes the word goes on up to the closing quote. -/
theorem wordsOutsideQuotes_quoted (h : quote ∉ body) (t : Text) :
    wordsOutsideQuotes (some quote) read (body ++ quote :: t) =
      wordsOutsideQuotes none (quote :: (body.reverse ++ read)) t := by
  induction body generalizing read with
  | nil => rw [List.nil_append, wordsOutsideQuotes, if_pos rfl, List.reverse_nil, List.nil_append]
  | cons c body ih =>
    rw [List.mem_cons, not_or] at h
    rw [List.cons_append, wordsOutsideQuotes, if_neg (Ne.symm h.1), ih h.2, List.reverse_cons, List.append_assoc,
      List.singleton_append]

theorem wordsOutsideQuotes_value (h : IsAttributeValue value) (t : Text) :
    wordsOutsideQuotes none read (value ++ t) = wordsOutsideQuotes none (value.reverse ++ read) t := by
  cases h with
  | plain _ hplain => exact wordsOutsideQuotes_plain hplain t
  | @quoted quote body hquote hbody _ =>
    have hblank : isBlank quote = false := by rcases hquote with rfl | rfl <;> decide
    have hshape : quote :: (body ++ [quote]) ++ t = quote :: (body ++ quote :: t) := by simp
    have hreverse : (quote :: (body ++ [quote])).reverse ++ read = quote :: (body.reverse ++ quote :: read) := by
      simp
    rw [hshape, hreverse, wordsOutsideQuotes, hblank, if_neg Bool.false_ne_true, if_pos hquote,
      wordsOutsideQuotes_quoted hbody]

/-- An attribute is read as part of one word. -/
theorem wordsOutsideQuotes_attribute (h : IsAttribute pair) (t : Text) :
    wordsOutsideQuotes none read (attributeText pair ++ t) =
      wordsOutsideQuotes none ((attributeText pair).reverse ++ read) t := by
  have hreverse : (attributeText pair).reverse ++ read = pair.2.reverse ++ '=' :: (pair.1.reverse ++ read) := by
    simp [attributeText]
  rw [hreverse, attributeText, List.append_assoc, List.cons_append, wordsOutsideQuotes_plain h.name_plain,
    wordsOutsideQuotes_cons (by decide) (by decide), wordsOutsideQuotes_value h.value]

theorem wordsOutsideQuotes_blank (h : gap.allBlank = true) (t : Text) :
    wordsOutsideQuotes none [] (gap ++ t) = wordsOutsideQuotes none [] t := by
  induction gap with
  | nil => rfl
  | cons c gap ih =>
    rw [allBlank_cons, Bool.and_eq_true] at h
    rw [List.cons_append, wordsOutsideQuotes, if_pos h.1, if_pos rfl, ih h.2]

/-- A word that is not empty ends at a blank character and at the end. -/
theorem wordsOutsideQuotes_of_head_blank (hread : read ≠ []) (ht : ∀ c, t.head? = some c → isBlank c = true) :
    wordsOutsideQuotes none read t = read.reverse :: wordsOutsideQuotes none [] t := by
  cases t with
  | nil => rw [wordsOutsideQuotes, wordsOutsideQuotes, if_neg hread, if_pos rfl]
  | cons c t =>
    have hc : isBlank c = true := ht c rfl
    rw [wordsOutsideQuotes, wordsOutsideQuotes, if_pos hc, if_pos hc, if_neg hread, if_pos rfl]

theorem attributeText_ne_nil (pair : Text × Text) : attributeText pair ≠ [] :=
  List.append_ne_nil_of_right_ne_nil _ (List.cons_ne_nil _ _)

/-- Attributes behind blank characters start with one. -/
theorem head_blank_attributesText (hgap : gap.allBlank = true) (hne : gap ≠ [])
    (ht : ∀ c, t.head? = some c → isBlank c = true) :
    ∀ c, (attributesText gap pairs ++ t).head? = some c → isBlank c = true := by
  cases pairs with
  | nil => exact ht
  | cons pair pairs =>
    intro c hc
    rw [attributesText_cons, List.append_assoc, List.append_assoc, List.head?_append_of_ne_nil _ hne] at hc
    exact allBlank_eq_true_iff.1 hgap c (List.mem_of_head? hc)

/-- Attributes behind blank characters are the words of their text. -/
theorem wordsOutsideQuotes_attributesText (hgap : gap.allBlank = true) (hne : gap ≠ [])
    (h : ∀ pair ∈ pairs, IsAttribute pair) (ht : ∀ c, t.head? = some c → isBlank c = true) :
    wordsOutsideQuotes none [] (attributesText gap pairs ++ t) =
      pairs.map attributeText ++ wordsOutsideQuotes none [] t := by
  induction pairs with
  | nil => rfl
  | cons pair pairs ih =>
    rw [List.forall_mem_cons] at h
    have hreverse : (attributeText pair).reverse ≠ [] :=
      fun he => attributeText_ne_nil pair (List.reverse_eq_nil_iff.1 he)
    rw [attributesText_cons, List.append_assoc, List.append_assoc, wordsOutsideQuotes_blank hgap,
      wordsOutsideQuotes_attribute h.1, List.append_nil,
      wordsOutsideQuotes_of_head_blank hreverse (head_blank_attributesText hgap hne ht), List.reverse_reverse,
      ih h.2, List.map_cons, List.cons_append]

/-! ## What is read of attributes that are written -/

theorem cutAttribute_attributeText (h : IsAttribute pair) : cutAttribute (attributeText pair) = pair := by
  have hname : ∀ c ∈ pair.1, decide (c ≠ '=') = true := fun c hc =>
    decide_eq_true (isPlainChar_iff.1 (h.name_plain c hc)).2.2.2.2
  have htake : (attributeText pair).takeWhile (· ≠ '=') = pair.1 := takeWhile_append_of_stop hname (by simp)
  have hdrop : (attributeText pair).dropWhile (· ≠ '=') = '=' :: pair.2 :=
    dropWhile_append_of_stop hname (by simp)
  rw [cutAttribute, htake, hdrop]
  rfl

/-- An attribute is no slash that closes a tag. -/
theorem attributeText_ne_slash (pair : Text × Text) : attributeText pair ≠ ['/'] := by
  intro he
  have hmem : '=' ∈ attributeText pair := List.mem_append_right _ List.mem_cons_self
  rw [he] at hmem
  exact absurd hmem (by decide)

/-- **Attributes are read back**, in order, whether a slash closes the tag or not. -/
theorem readAttributes_attributesText (hgap : gap.allBlank = true) (hne : gap ≠ [])
    (h : ∀ pair ∈ pairs, IsAttribute pair) (ht : ∀ c, t.head? = some c → isBlank c = true)
    (hwords : ∀ word ∈ wordsOutsideQuotes none [] t, word = ['/']) :
    readAttributes (attributesText gap pairs ++ t) = pairs := by
  have hkept : (pairs.map attributeText).filter (· ≠ ['/']) = pairs.map attributeText := by
    rw [List.filter_eq_self, List.forall_mem_map]
    exact fun pair _ => decide_eq_true (attributeText_ne_slash pair)
  have hdropped : (wordsOutsideQuotes none [] t).filter (· ≠ ['/']) = [] := by
    rw [List.filter_eq_nil_iff]
    intro word hword
    simp [hwords word hword]
  have hpairs : pairs.map (cutAttribute ∘ attributeText) = pairs.map id :=
    List.map_congr_left fun pair hpair => cutAttribute_attributeText (h pair hpair)
  rw [readAttributes, wordsOutsideQuotes_attributesText hgap hne h ht, List.filter_append, hkept, hdropped,
    List.append_nil, List.map_map, hpairs, List.map_id]

/-! ## Attributes belong to their tag -/

theorem Attributes.append (hs : Attributes s) (ht : Attributes t) : Attributes (s ++ t) := by
  induction hs with
  | nil => exact ht
  | char hquote hbracket _ ih => exact .char hquote hbracket ih
  | @quoted quote body a hquote hbody _ ih =>
    have hshape : quote :: (body ++ quote :: a) ++ t = quote :: (body ++ quote :: (a ++ t)) := by simp
    rw [hshape]
    exact .quoted hquote hbody ih

theorem attributes_plain (h : ∀ c ∈ t, isPlainChar c = true) : Attributes t :=
  .of_plain fun c hc => ⟨(isPlainChar_iff.1 (h c hc)).2.1, (isPlainChar_iff.1 (h c hc)).2.2.1⟩

theorem attributes_blank (h : t.allBlank = true) : Attributes t := by
  refine .of_plain fun c hc => ?_
  have hblank := allBlank_eq_true_iff.1 h c hc
  refine ⟨?_, ?_⟩
  · rintro (rfl | rfl) <;> exact absurd hblank (by decide)
  · rintro rfl
    exact absurd hblank (by decide)

theorem IsAttributeValue.attributes (h : IsAttributeValue value) : Attributes value := by
  cases h with
  | plain _ hplain => exact attributes_plain hplain
  | quoted hquote hbody _ => exact .quoted hquote hbody .nil

/-- No bracket in attributes ends their tag. -/
theorem attributes_attributesText (hgap : gap.allBlank = true) (h : ∀ pair ∈ pairs, IsAttribute pair) :
    Attributes (attributesText gap pairs) := by
  induction pairs with
  | nil => exact .nil
  | cons pair pairs ih =>
    rw [List.forall_mem_cons] at h
    have hpair : Attributes (attributeText pair) :=
      (attributes_plain h.1.name_plain).append (.char (by decide) (by decide) h.1.value.attributes)
    exact ((attributes_blank hgap).append hpair).append (ih h.2)

theorem IsAttributeValue.not_break (h : IsAttributeValue value) : ∀ c ∈ value, isLineBreak c = false := by
  cases h with
  | plain _ hplain => exact fun c hc => not_break_of_isPlainChar (hplain c hc)
  | @quoted quote body hquote _ hbody =>
    have hend : isLineBreak quote = false := by rcases hquote with rfl | rfl <;> decide
    exact List.forall_mem_cons.2 ⟨hend, List.forall_mem_append.2 ⟨hbody, List.forall_mem_singleton.2 hend⟩⟩

/-- An attribute stands on one line. -/
theorem IsAttribute.not_break (h : IsAttribute pair) : ∀ c ∈ attributeText pair, isLineBreak c = false :=
  List.forall_mem_append.2 ⟨fun c hc => not_break_of_isPlainChar (h.name_plain c hc),
    List.forall_mem_cons.2 ⟨by decide, h.value.not_break⟩⟩

/-- A value ends neither with a blank character nor with a slash. -/
theorem IsAttributeValue.getLast? (h : IsAttributeValue value) :
    ∃ c, value.getLast? = some c ∧ isBlank c = false ∧ c ≠ '/' := by
  cases h with
  | plain hne hplain =>
    have hlast := isPlainChar_iff.1 (hplain _ (List.getLast_mem hne))
    exact ⟨value.getLast hne, List.getLast?_eq_some_getLast hne, hlast.1, hlast.2.2.2.1⟩
  | @quoted quote body hquote _ _ =>
    refine ⟨quote, ?_, ?_⟩
    · rw [← List.cons_append, List.getLast?_concat]
    · rcases hquote with rfl | rfl <;> decide

/-- What attributes end with is neither a blank character nor a slash. -/
theorem getLast?_attributesText (h : ∀ pair ∈ pairs, IsAttribute pair) {c : Char}
    (hc : (attributesText gap pairs).getLast? = some c) : isBlank c = false ∧ c ≠ '/' := by
  rcases List.eq_nil_or_concat' pairs with rfl | ⟨front, pair, rfl⟩
  · cases hc
  · obtain ⟨d, hd, hend⟩ := (h pair (List.mem_append_right _ List.mem_cons_self)).value.getLast?
    have hshape : attributesText gap (front ++ [pair]) =
        (attributesText gap front ++ (gap ++ (pair.1 ++ ['=']))) ++ pair.2 := by
      simp [attributesText, attributeText]
    rw [hshape, List.getLast?_append, hd] at hc
    obtain rfl : d = c := Option.some.inj hc
    exact hend

/-- A tag with attributes closes itself only if a slash is put behind them. -/
theorem not_endsWith_slash_attributesText (h : ∀ pair ∈ pairs, IsAttribute pair) (ht : t.allBlank = true) :
    (attributesText gap pairs ++ t).stripRight.endsWith ['/'] = false := by
  rw [stripRight_append (fun c hc => (getLast?_attributesText h hc).1) ht, Bool.eq_false_iff, Ne,
    endsWith_eq_true_iff]
  rintro ⟨front, hfront⟩
  have hlast : (attributesText gap pairs).getLast? = some '/' := by rw [← hfront, List.getLast?_concat]
  exact (getLast?_attributesText h hlast).2 rfl

theorem endsWith_slash (t : Text) : (t ++ ['/']).stripRight.endsWith ['/'] = true := by
  have hlast : ∀ c, (t ++ ['/']).getLast? = some c → isBlank c = false := by
    intro c hc
    rw [List.getLast?_concat] at hc
    obtain rfl : '/' = c := Option.some.inj hc
    decide
  rw [stripRight_eq_self hlast, endsWith_eq_true_iff]
  exact List.suffix_append t ['/']

end ComponentBook.Markup
