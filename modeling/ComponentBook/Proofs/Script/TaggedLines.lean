import ComponentBook.Proofs.Script.DecoratedLines
import ComponentBook.Proofs.Text.Caseless

/-! # Tags of comments written line by line

Behind its asterisk a line of a documentation comment holds some text, or a tag with a value
(**`TaggedLine`**). A tag is read from the first line with its name; a name that starts like another one is
not taken for it (`afterTag?_content`). Of the value of that line the asterisks and slashes at the end are
taken off as if they closed the comment (**`tagValue?_taggedText`**), so that the value comes back exactly
when it has none there (**`tagValue?_eq_value?_iff`**). -/

namespace ComponentBook.Script.DocComment

open Text

variable {indent name other t value : Text} {line : TaggedLine} {lines : List TaggedLine}

/-! ## Lines with tags -/

/-- What a line of a documentation comment holds behind its asterisk. -/
inductive TaggedLine where
  | text (t : Text)
  | tag (name value : Text)
  deriving DecidableEq, Repr

/-- The name of a tag: word characters, at least one. -/
structure IsTagName (name : Text) : Prop where
  ne_nil : name ≠ []
  isWord : ∀ c ∈ name, Text.isWord c = true

instance (name : Text) : Decidable (IsTagName name) :=
  decidable_of_iff (name ≠ [] ∧ ∀ c ∈ name, Text.isWord c = true)
    ⟨fun h => ⟨h.1, h.2⟩, fun h => ⟨h.ne_nil, h.isWord⟩⟩

/-- The value of a tag: it stands on one line, and starts and ends with a character that is not blank. -/
structure IsTagValue (value : Text) : Prop where
  ne_nil : value ≠ []
  trimmed : value.strip = value
  unbroken : ∀ c ∈ value, isLineBreak c = false

instance (value : Text) : Decidable (IsTagValue value) :=
  decidable_of_iff (value ≠ [] ∧ value.strip = value ∧ ∀ c ∈ value, isLineBreak c = false)
    ⟨fun h => ⟨h.1, h.2.1, h.2.2⟩, fun h => ⟨h.ne_nil, h.trimmed, h.unbroken⟩⟩

namespace TaggedLine

/-- Its text. -/
def content : TaggedLine → Text
  | .text t => t
  | .tag name value => '@' :: (name ++ ' ' :: value)

/-- Text does not start like a tag, and a tag has a name and a value. -/
def IsWritten : TaggedLine → Prop
  | .text t => (∀ c ∈ t, isLineBreak c = false) ∧ t.strip.head? ≠ some '@'
  | .tag name value => IsTagName name ∧ IsTagValue value

instance : (line : TaggedLine) → Decidable line.IsWritten
  | .text _ => inferInstanceAs (Decidable (_ ∧ _))
  | .tag _ _ => inferInstanceAs (Decidable (_ ∧ _))

/-- The value that the line gives to a tag. -/
def value? (name : Text) : TaggedLine → Option Text
  | .text _ => none
  | .tag other value => if other = name then some value else none

/-- The line behind its indentation and its asterisk. -/
def row (indent : Text) (line : TaggedLine) : Text := indent ++ decorate line.content

end TaggedLine

/-- The text of a comment with such lines: nothing else stands on the line on which it is opened, and on that
on which it is closed. -/
def taggedText (indent : Text) (lines : List TaggedLine) : Text :=
  ([] :: lines.map (·.row indent)).flatMap (fun row => row ++ ['\n']) ++ (indent ++ [' '])

/-- The value that the lines give to a tag: that of the first line with its name. -/
def value? (name : Text) (lines : List TaggedLine) : Option Text := lines.findSome? (·.value? name)

/-- The value ends like a comment does. -/
def EndsInDecoration (value : Text) : Prop := value.getLast? = some '*' ∨ value.getLast? = some '/'

instance (value : Text) : Decidable (EndsInDecoration value) := inferInstanceAs (Decidable (_ ∨ _))

/-! ## What is taken off a value -/

theorem trimTagValue_space_cons (value : Text) : trimTagValue (' ' :: value) = trimTagValue value := by
  have hstrip : strip (' ' :: value) = strip value := strip_blank_append (a := [' ']) rfl value
  rw [trimTagValue, trimTagValue, hstrip]

/-- A value without blanks at its ends is kept when it does not end like a comment; otherwise it gets
shorter. -/
theorem trimTagValue_eq_self_iff (h : IsTagValue value) : trimTagValue value = value ↔ ¬ EndsInDecoration value := by
  obtain ⟨front, last, rfl⟩ := (List.eq_nil_or_concat' value).resolve_left h.ne_nil
  have hends : EndsInDecoration (front ++ [last]) ↔ (last = '*' ∨ last = '/') := by
    rw [EndsInDecoration, List.getLast?_concat, Option.some.injEq, Option.some.injEq]
  rw [trimTagValue, h.trimmed, hends]
  show strip ((front ++ [last]).rdropWhile fun c => c = '*' || c = '/') = _ ↔ _
  by_cases hlast : last = '*' ∨ last = '/'
  · rw [List.rdropWhile_concat_pos _ _ _ (by simpa using hlast)]
    refine iff_of_false (fun he => ?_) fun hn => hn hlast
    have hle := (strip_sublist (front.rdropWhile fun c => c = '*' || c = '/')).length_le
    have hfront := (List.rdropWhile_prefix (fun c : Char => c = '*' || c = '/') front).length_le
    have hlength := congrArg List.length he
    rw [List.length_append, List.length_singleton] at hlength
    omega
  · rw [List.rdropWhile_concat_neg _ _ _ (by simpa using hlast), h.trimmed]
    exact iff_of_true rfl hlast

/-! ## The line of a tag -/

/-- Behind the name of a tag its value is read; a tag with another name is passed over. -/
theorem afterTag?_tag (hname : IsTagName name) (hother : IsTagName other) (value : Text) :
    afterTag? name ('@' :: (other ++ ' ' :: value)) = if other = name then some (' ' :: value) else none := by
  have hword (tag : Text) (htag : IsTagName tag) : ('@' :: tag).getLast?.any isWord = true := by
    rw [List.getLast?_cons_of_ne_nil htag.ne_nil, List.getLast?_eq_some_getLast htag.ne_nil]
    exact htag.isWord _ (List.getLast_mem htag.ne_nil)
  by_cases hsame : other = name
  · subst hsame
    have hboundary : boundary ('@' :: other).getLast? (some ' ') = true := by
      rw [boundary, hword other hother]
      decide
    rw [if_pos rfl, afterTag?, ← List.cons_append, dropPrefix?_append]
    exact if_pos hboundary
  · rw [if_neg hsame, afterTag?]
    cases hdrop : dropPrefix? ('@' :: name) ('@' :: (other ++ ' ' :: value)) with
    | none => rfl
    | some rest =>
      -- the name that is asked for is the start of the other one, which goes on with a word character
      have hsplit : other ++ ' ' :: value = name ++ rest :=
        (List.cons.inj (dropPrefix?_eq_some_iff.1 hdrop)).2
      have hprefix : name <+: other := by
        rcases List.prefix_or_prefix_of_prefix ⟨rest, hsplit.symm⟩ (List.prefix_append other _) with h | h
        · exact h
        · obtain ⟨more, rfl⟩ := h
          rw [List.append_assoc] at hsplit
          cases more with
          | nil => exact absurd (List.append_nil other).symm hsame
          | cons c more =>
            obtain rfl := (List.cons.inj (List.append_cancel_left hsplit)).1
            exact absurd (hname.isWord ' ' (by simp)) (by decide)
      obtain ⟨more, rfl⟩ := hprefix
      cases more with
      | nil => exact absurd (List.append_nil name) hsame
      | cons c more =>
        rw [List.append_assoc] at hsplit
        obtain rfl := List.append_cancel_left hsplit
        have hboundary : boundary ('@' :: name).getLast? (some c) = false := by
          rw [boundary, hword name hname, Option.any_some, hother.isWord c (by simp)]
          decide
        exact if_neg (Bool.eq_false_iff.1 hboundary)

/-- What stands behind the tag on a line. -/
theorem afterTag?_content (hname : IsTagName name) (hline : line.IsWritten) :
    afterTag? name line.content.strip = (line.value? name).map fun value => ' ' :: value := by
  cases line with
  | text t =>
    have hdrop : dropPrefix? ('@' :: name) t.strip = none := by
      rw [dropPrefix?_eq_none_iff]
      rintro ⟨rest, hrest⟩
      exact hline.2 (by rw [← hrest]; rfl)
    rw [TaggedLine.content, afterTag?, hdrop]
    rfl
  | tag other value =>
    obtain ⟨hother, hvalue⟩ := hline
    have hstrip : strip ('@' :: (other ++ ' ' :: value)) = '@' :: (other ++ ' ' :: value) := by
      refine strip_eq_self (fun c hc => ?_) fun c hc => ?_
      · obtain rfl : '@' = c := Option.some.inj hc
        decide
      · have hshape : '@' :: (other ++ ' ' :: value) = ('@' :: (other ++ [' '])) ++ value := by simp
        rw [hshape, List.getLast?_append_of_ne_nil _ hvalue.ne_nil] at hc
        exact getLast?_strip_not_blank (by rwa [hvalue.trimmed])
    rw [TaggedLine.content, hstrip, afterTag?_tag hname hother, TaggedLine.value?]
    split <;> rfl

/-! ## The lines of a comment -/

theorem undecorateLine_row (h : indent.allBlank = true) (line : TaggedLine) :
    undecorateLine (line.row indent) = line.content := by
  have hleft : stripLeft (indent ++ decorate line.content) = '*' :: ' ' :: line.content := by
    have hshape : indent ++ decorate line.content = (indent ++ [' ']) ++ '*' :: ' ' :: line.content := by
      simp [decorate]
    have hblank : (indent ++ [' ']).allBlank = true := by
      rw [allBlank_append, h]
      decide
    rw [hshape]
    exact stripLeft_append_cons (by decide) ⟨_, hblank⟩ _
  rw [undecorateLine, dropDecoration?, TaggedLine.row, hleft]
  rfl

theorem unbroken_row (h : ∀ c ∈ indent, isLineBreak c = false) (hline : line.IsWritten) :
    ∀ c ∈ line.row indent, isLineBreak c = false := by
  refine List.forall_mem_append.2 ⟨h, no_break_decorate ?_⟩
  cases line with
  | text t => exact hline.1
  | tag name value =>
    obtain ⟨hname, hvalue⟩ := hline
    have hword (c : Char) (hc : c ∈ name) : isLineBreak c = false := by
      rw [Bool.eq_false_iff]
      intro hbreak
      have hnot := isWord_of_isBlank (isBlank_of_isLineBreak hbreak)
      rw [hname.isWord c hc] at hnot
      cases hnot
    exact List.forall_mem_cons.2 ⟨by decide, List.forall_mem_append.2
      ⟨hword, List.forall_mem_cons.2 ⟨by decide, hvalue.unbroken⟩⟩⟩

/-- A blank line has no tag. -/
theorem afterTag?_of_allBlank {l : Text} (h : l.allBlank = true) (name : Text) :
    afterTag? name (undecorateLine l).strip = none := by
  have hnil : stripLeft l = [] := stripLeft_eq_nil_iff.2 h
  rw [undecorateLine, dropDecoration?, hnil, Option.getD_none, strip_eq_nil_iff.2 h]
  rfl

theorem findSome?_rows (hindent : indent.allBlank = true) (hlines : ∀ line ∈ lines, line.IsWritten)
    (hname : IsTagName name) :
    ((lines.map (·.row indent)).findSome? fun l => afterTag? name (undecorateLine l).strip) =
      (value? name lines).map fun value => ' ' :: value := by
  induction lines with
  | nil => rfl
  | cons line lines ih =>
    rw [List.forall_mem_cons] at hlines
    rw [List.map_cons, List.findSome?_cons, undecorateLine_row hindent, afterTag?_content hname hlines.1,
      ih hlines.2, value?, value?, List.findSome?_cons]
    cases line.value? name <;> rfl

/-- **The tag is read from the first line with its name.** What is behind it is kept but for the asterisks and
slashes at its end, and when nothing is left there is no value. -/
theorem tagValue?_taggedText (hindent : indent.allBlank = true) (hunbroken : ∀ c ∈ indent, isLineBreak c = false)
    (hlines : ∀ line ∈ lines, line.IsWritten) (hname : IsTagName name) :
    tagValue? name (taggedText indent lines) = (value? name lines).bind fun value =>
      if (trimTagValue value).isEmpty then none else some (trimTagValue value) := by
  have hrows : ∀ row ∈ [] :: lines.map (·.row indent), ∀ c ∈ row, isLineBreak c = false :=
    List.forall_mem_cons.2 ⟨nofun, List.forall_mem_map.2 fun line hline => unbroken_row hunbroken (hlines line hline)⟩
  have hclosing : ((indent ++ [' ']).lines.findSome? fun l => afterTag? name (undecorateLine l).strip) = none := by
    rw [List.findSome?_eq_none_iff]
    intro l hl
    refine afterTag?_of_allBlank (allBlank_eq_true_iff.2 fun c hc => ?_) name
    rcases List.mem_append.1 (mem_of_mem_lines hl hc) with hc | hc
    · exact allBlank_eq_true_iff.1 hindent c hc
    · obtain rfl := List.mem_singleton.1 hc
      decide
  -- neither the line of the opening nor that of the end has a tag
  have hfound : ((taggedText indent lines).lines.findSome? fun l => afterTag? name (undecorateLine l).strip) =
      (value? name lines).map fun value => ' ' :: value := by
    rw [taggedText, lines_flatMap_newline hrows, List.cons_append, List.findSome?_cons, afterTag?_of_allBlank rfl,
      List.findSome?_append, hclosing, Option.or_none, findSome?_rows hindent hlines hname]
  rw [tagValue?, hfound]
  cases value? name lines with
  | none => rfl
  | some value =>
    rw [Option.map_some, Option.bind_some]
    dsimp only
    rw [trimTagValue_space_cons]

theorem isTagValue_of_value? (hlines : ∀ line ∈ lines, line.IsWritten) (h : value? name lines = some value) :
    IsTagValue value := by
  obtain ⟨line, hline, hvalue⟩ := List.exists_of_findSome?_eq_some h
  cases line with
  | text t => cases hvalue
  | tag other v =>
    rw [TaggedLine.value?] at hvalue
    split at hvalue
    · obtain rfl := Option.some.inj hvalue
      exact (hlines _ hline).2
    · cases hvalue

/-- **A tag is read as it is written** exactly when its value does not end like a comment. -/
theorem tagValue?_eq_value?_iff (hindent : indent.allBlank = true)
    (hunbroken : ∀ c ∈ indent, isLineBreak c = false) (hlines : ∀ line ∈ lines, line.IsWritten)
    (hname : IsTagName name) :
    tagValue? name (taggedText indent lines) = value? name lines ↔
      ∀ value, value? name lines = some value → ¬ EndsInDecoration value := by
  rw [tagValue?_taggedText hindent hunbroken hlines hname]
  cases hfirst : value? name lines with
  | none => exact iff_of_true rfl nofun
  | some value =>
    have hvalue := isTagValue_of_value? hlines hfirst
    simp only [Option.bind_some, Option.some.injEq, forall_eq']
    rw [← trimTagValue_eq_self_iff hvalue]
    constructor
    · intro h
      split at h
      · cases h
      · exact Option.some.inj h
    · intro h
      rw [h, if_neg (by simpa using hvalue.ne_nil)]

end ComponentBook.Script.DocComment
