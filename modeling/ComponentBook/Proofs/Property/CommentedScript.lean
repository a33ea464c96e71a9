import Mathlib
import ComponentBook.Proofs.Property.EntryReading

/-! # Comments in a declaration object

Comments are passed over in the search for brackets and commas and in front of entries and keys, but values
are cut out with the comments in them. So whether a comment changes what is declared depends on where it
stands, and the text in front of it tells (**`commentPlace?`**): behind the definition of an entry it is never
read, nor in a definition where no value is taken from the part around it; in the value of a key or in a
shorthand it is read as a part of the value (**`declared_blanked`**).

A script in which a blank stands in place of the comment is read along the same brackets and parts. Only the
entry in which the comment stands can be another one (**`CommentedScript.declared_filled`**). -/

namespace ComponentBook.ObjectDeclaration

open Script Text

variable {comment name begun t u v : Text} {c : Char} {key : Key} {l : Lexeme}
  {front behind inFront inBack : List Lexeme} {earlier later : List Text}

/-! ## Where a comment stands -/

/-- The part in which a text ends, as far as it goes. -/
def openPart (t : Text) : Text := (partsTopLevel (· == ',') 0 (lexemes t)).getLast?.getD []

/-- The parts in front of it. -/
def closedParts (t : Text) : List Text := (partsTopLevel (· == ',') 0 (lexemes t)).dropLast

/-- What a comment in the value of an entry stands in. -/
inductive CommentPlace where
  /-- It stands behind the definition of the entry. -/
  | behindDefinition
  /-- It stands in the definition of the entry, `begun` being what is in front of it. -/
  | inDefinition (begun : Text)
  /-- It stands in or behind the type of an entry without a definition. -/
  | inShorthand
  deriving DecidableEq, Repr

/-- The place of a comment with `front` in front of it in the declaration object; `none` when the value of no
entry has been started there. -/
def commentPlace? (front : Text) : Option CommentPlace :=
  match entryAt? (leadingComments (openPart front)).2 with
  | some (_, '{' :: t) =>
    if (balancedBlock? ('{' :: t)).isSome then some .behindDefinition else some (.inDefinition t)
  | some (_, _ :: _) => some .inShorthand
  | _ => none

/-- In a definition that is still open the comment stands in the definition. -/
theorem commentPlace?_inDefinition
    (hentry : entryAt? (leadingComments (openPart t)).2 = some (name, '{' :: begun))
    (hopen : balancedBlock? ('{' :: begun) = none) : commentPlace? t = some (.inDefinition begun) := by
  simp [commentPlace?, hentry, hopen]

/-- The value of `key` is taken from the part in which the start of a definition ends: no part in front of it
has the key. -/
def IsOpen (key : Key) (begun : Text) : Prop := (closedParts begun).findSome? (valueIn? key) = none

/-- The start of a definition ends in the value of `key`. -/
def EndsInValue (key : Key) (begun : Text) : Prop := IsOpen key begun ∧ valueIn? key (openPart begun) ≠ none

/-- The start of a definition ends behind the word of `key`, in front of its colon. -/
def EndsBehindWord (key : Key) (begun : Text) : Prop :=
  IsOpen key begun ∧ ∃ blank : BlankText, (leadingComments (openPart begun)).2 = key.word ++ blank.1

/-! ## A comment or a blank in its place -/

/-- The comment, or the blank in its place. -/
def IsFiller (comment : Text) (l : Lexeme) : Prop := l = .comment comment ∨ l = .mark ' '

theorem IsFiller.isPlain (hl : IsFiller comment l) : l.IsPlain := by
  rcases hl with rfl | rfl
  · trivial
  · exact ⟨by decide, by decide⟩

theorem IsFiller.isPassed (hl : IsFiller comment l) : isPassed l = true := by
  rcases hl with rfl | rfl
  · rfl
  · decide

theorem IsFiller.not_separates (hl : IsFiller comment l) (depth : Nat) :
    l.separates (· == ',') depth = false := by
  rcases hl with rfl | rfl
  · rfl
  · simp [Lexeme.separates]

theorem IsFiller.lexed (hl : IsFiller comment l) (h : Lexed (front ++ .comment comment :: behind)) :
    Lexed (front ++ l :: behind) := by
  rcases hl with rfl | rfl
  · exact h
  · exact h.blank

/-- Lexemes with a comment among them and a character behind them. -/
def Commented (front : List Lexeme) (comment : Text) (behind : List Lexeme) : Prop :=
  ∃ stop, Lexed (front ++ .comment comment :: (behind ++ [.mark stop]))

theorem Commented.lexed (h : Commented front comment behind) (hl : IsFiller comment l) :
    ∃ stop, Lexed (front ++ l :: (behind ++ [.mark stop])) :=
  h.imp fun _ hlexed => hl.lexed hlexed

/-- With a blank in place of the comment, a character stands behind the lexemes in front. -/
theorem Commented.lexed_front (h : Commented front comment behind) : Lexed (front ++ [.mark ' ']) := by
  obtain ⟨stop, hlexed⟩ := h.lexed (.inr rfl)
  rw [← List.singleton_append, ← List.append_assoc] at hlexed
  exact hlexed.left

theorem Commented.lexemes_eq (h : Commented front comment behind) (hl : IsFiller comment l) :
    lexemes (textOf front ++ (l.text ++ textOf behind)) = front ++ l :: behind := by
  obtain ⟨stop, hlexed⟩ := h.lexed hl
  rw [← List.cons_append, ← List.append_assoc] at hlexed
  rw [← textOf_cons, ← textOf_append]
  exact hlexed.left

theorem Commented.lexemes_front (h : Commented front comment behind) : lexemes (textOf front) = front :=
  h.lexed_front.left

/-- A comment starts with a slash. -/
theorem Commented.head_text (h : Commented front comment behind) (hl : IsFiller comment l) :
    ∃ c u, l.text = c :: u ∧ (c = '/' ∨ c = ' ') := by
  obtain ⟨stop, hlexed⟩ := h
  rcases hl with rfl | rfl
  · obtain ⟨u, rfl⟩ := hlexed.right.head_comment
    exact ⟨'/', u, rfl, .inl rfl⟩
  · exact ⟨' ', [], rfl, .inr rfl⟩

/-- The slashes of a comment are not in the blank. -/
theorem Commented.count_lt (h : Commented front comment behind) (a b : Text) :
    (strip (a ++ ([' '] ++ b))).count '/' < (strip (a ++ (comment ++ b))).count '/' := by
  obtain ⟨stop, hlexed⟩ := h
  obtain ⟨u, rfl⟩ := hlexed.right.head_comment
  have hslash : isBlank '/' = false := by decide
  have hblank : [' '].count '/' = 0 := by decide
  simp only [count_strip hslash, List.count_append, hblank, List.count_cons_self]
  omega

/-- A comment among the lexemes of a part. -/
theorem Commented.part (h : Commented front comment behind)
    (hpart : IsPartAround (· == ',') front behind earlier inFront inBack later) :
    Commented inFront comment inBack := by
  obtain ⟨stop, hlexed⟩ := h
  obtain ⟨before, rfl⟩ := hpart.front_eq
  obtain ⟨after, rfl, hafter⟩ := hpart.behind_eq
  rw [List.append_assoc] at hlexed
  have hinside := hlexed.right
  cases after with
  | nil => exact ⟨stop, by simpa using hinside⟩
  | cons m after =>
    -- behind the part stands a comma
    cases m with
    | literal t => cases hafter _ rfl
    | comment t => cases hafter _ rfl
    | mark c =>
      refine ⟨c, (?_ : Lexed (_ ++ (after ++ [.mark stop]))).left⟩
      simpa using hinside

/-- In front of an entry or a key the comment is passed over; behind the start of one it stays. -/
theorem Commented.snd_leadingComments (h : Commented front comment behind) (hl : IsFiller comment l) :
    (leadingComments (textOf (front ++ l :: behind))).2 =
      if (leadingComments (textOf front)).2 = [] then textOf (behind.dropWhile isPassed)
      else (leadingComments (textOf front)).2 ++ (l.text ++ textOf behind) := by
  obtain ⟨stop, hlexed⟩ := h.lexed hl
  rw [← List.cons_append, ← List.append_assoc] at hlexed
  rw [ObjectDeclaration.snd_leadingComments hlexed, ObjectDeclaration.snd_leadingComments h.lexed_front,
    List.dropWhile_append]
  have hrest := h.lexed_front.left.dropWhile isPassed
  by_cases hnil : front.dropWhile isPassed = []
  · rw [hnil, List.isEmpty_nil, if_pos rfl, if_pos (textOf_nil), List.dropWhile_cons_of_pos hl.isPassed]
  · have htext : textOf (front.dropWhile isPassed) ≠ [] := by
      intro htext
      rw [Lexed, htext, lexemes] at hrest
      exact hnil hrest.symm
    rw [if_neg (by simpa using hnil), if_neg htext, textOf_append, textOf_cons]

theorem openPart_of_parts (h : partsTopLevel (· == ',') 0 (lexemes t) = earlier ++ [u]) : openPart t = u := by
  rw [openPart, h, List.getLast?_concat, Option.getD_some]

theorem closedParts_of_parts (h : partsTopLevel (· == ',') 0 (lexemes t) = earlier ++ [u]) :
    closedParts t = earlier := by
  rw [closedParts, h, List.dropLast_concat]

/-- A comment stands among the lexemes of a part, and that part is the open one of the text in front. -/
theorem Commented.exists_part (h : Commented front comment behind) :
    ∃ earlier inFront inBack later,
      IsPartAround (· == ',') front behind earlier inFront inBack later ∧
      Commented inFront comment inBack ∧
      closedParts (textOf front) = earlier ∧ openPart (textOf front) = textOf inFront := by
  obtain ⟨earlier, inFront, inBack, later, hpart⟩ := exists_part_around (· == ',') front behind
  have hfront := hpart.parts_front
  rw [← h.lexemes_front] at hfront
  exact ⟨earlier, inFront, inBack, later, hpart, h.part hpart, closedParts_of_parts hfront,
    openPart_of_parts hfront⟩

/-! ## A comment in a definition -/

/-- In front of a key the comment is passed over; behind the key there is no value. -/
theorem Commented.valueIn?_blank (h : Commented front comment behind)
    (hvalue : valueIn? key (textOf front) = none)
    (hword : ¬ ∃ blank : BlankText, (leadingComments (textOf front)).2 = key.word ++ blank.1) :
    valueIn? key (textOf (front ++ .comment comment :: behind)) =
      valueIn? key (textOf (front ++ .mark ' ' :: behind)) := by
  by_cases hkey : (leadingComments (textOf front)).2 = []
  · rw [valueIn?, valueIn?, h.snd_leadingComments (.inl rfl), if_pos hkey,
      h.snd_leadingComments (.inr rfl), if_pos hkey]
  · have hnone (l : Lexeme) (hl : IsFiller comment l) :
        valueIn? key (textOf (front ++ l :: behind)) = none := by
      rw [valueIn?, h.snd_leadingComments hl, if_neg hkey]
      obtain ⟨c, u, htext, hc⟩ := h.head_text hl
      by_contra hsome
      obtain ⟨v, hv⟩ := Option.ne_none_iff_exists'.1 hsome
      rw [htext, List.cons_append] at hv
      rcases keyValue?_of_append hc hv with hin | ⟨-, hin⟩
      · exact hin hvalue
      · exact hword hin
    rw [hnone _ (.inl rfl), hnone _ (.inr rfl)]

/-- The value of a key comes from the parts in front of the comment, the part with it, or those behind. -/
theorem Commented.valueOf?_eq (h : Commented front comment behind)
    (hpart : IsPartAround (· == ',') front behind earlier inFront inBack later) (hl : IsFiller comment l)
    (key : Key) :
    valueOf? key (textOf front ++ (l.text ++ textOf behind)) =
      ((earlier.findSome? (valueIn? key)).or (valueIn? key (textOf (inFront ++ l :: inBack)))).or
        (later.findSome? (valueIn? key)) := by
  rw [ObjectDeclaration.valueOf?_eq, h.lexemes_eq hl, hpart.parts_eq l hl.isPlain (hl.not_separates _),
    List.findSome?_append, List.findSome?_cons, Option.or_assoc]
  cases valueIn? key (textOf (inFront ++ l :: inBack)) <;> rfl

/-- **A key whose value is not taken from the part around the comment** has the same value with a blank in
place of the comment. -/
theorem Commented.valueOf?_blank (h : Commented front comment behind)
    (hvalue : ¬ EndsInValue key (textOf front)) (hword : ¬ EndsBehindWord key (textOf front)) :
    valueOf? key (textOf front ++ (comment ++ textOf behind)) =
      valueOf? key (textOf front ++ ([' '] ++ textOf behind)) := by
  obtain ⟨earlier, inFront, inBack, later, hpart, hinside, rfl, hinFront⟩ := h.exists_part
  have hcomment := h.valueOf?_eq hpart (.inl rfl) key
  have hblank := h.valueOf?_eq hpart (.inr rfl) key
  rw [EndsInValue, hinFront] at hvalue
  rw [EndsBehindWord, hinFront] at hword
  by_cases hopen : IsOpen key (textOf front)
  · have hnone : valueIn? key (textOf inFront) = none := by
      by_contra hsome
      exact hvalue ⟨hopen, hsome⟩
    have hsame := hinside.valueIn?_blank hnone fun hin => hword ⟨hopen, hin⟩
    rw [hsame, ← hblank] at hcomment
    exact hcomment
  · -- a part in front of the comment has the key already
    obtain ⟨v, hv⟩ := Option.ne_none_iff_exists'.1 hopen
    rw [hv, Option.some_or, Option.some_or] at hcomment hblank
    exact hcomment.trans hblank.symm

/-- **A value in which the comment stands** is read with the comment, or with the blank in its place. -/
theorem Commented.exists_valueOf? (h : Commented front comment behind)
    (hvalue : EndsInValue key (textOf front)) :
    ∃ a b,
      valueOf? key (textOf front ++ (comment ++ textOf behind)) = some (strip (a ++ (comment ++ b))) ∧
      valueOf? key (textOf front ++ ([' '] ++ textOf behind)) = some (strip (a ++ ([' '] ++ b))) := by
  obtain ⟨earlier, inFront, inBack, later, hpart, hinside, rfl, hinFront⟩ := h.exists_part
  obtain ⟨hopen, hin⟩ := hvalue
  rw [IsOpen] at hopen
  rw [hinFront, valueIn?] at hin
  obtain ⟨v, hv⟩ := Option.ne_none_iff_exists'.1 hin
  obtain ⟨a, ha⟩ := keyValue?_append hv
  have hkey : (leadingComments (textOf inFront)).2 ≠ [] := by
    intro hnil
    rw [hnil] at hv
    cases key <;> cases hv
  have hread (l : Lexeme) (hl : IsFiller comment l) :
      valueOf? key (textOf front ++ (l.text ++ textOf behind)) =
        some (strip (a ++ (l.text ++ textOf inBack))) := by
    rw [h.valueOf?_eq hpart hl, hopen, Option.none_or, valueIn?, hinside.snd_leadingComments hl,
      if_neg hkey, ha, Option.some_or]
  exact ⟨a, textOf inBack, hread _ (.inl rfl), hread _ (.inr rfl)⟩

/-- Only one key stands in front of the comment. -/
theorem EndsInValue.other (h : EndsInValue key begun) (key' : Key) (hne : key' ≠ key) :
    ¬ EndsInValue key' begun ∧ ¬ EndsBehindWord key' begun := by
  obtain ⟨-, hin⟩ := h
  obtain ⟨v, hv⟩ := Option.ne_none_iff_exists'.1 hin
  obtain ⟨x, y, hx, -⟩ := keyValue?_eq_some_iff.1 hv
  constructor
  · rintro ⟨-, hother⟩
    rw [valueIn?, hx, keyValue?_of_ne hne] at hother
    exact hother rfl
  · rintro ⟨-, blank, hblank⟩
    rw [hx] at hblank
    have hword := congrArg (dropPrefix? key'.word) hblank
    rw [dropPrefix?_word, dropPrefix?_append, if_neg (Ne.symm hne)] at hword
    cases hword

/-- The definition in which the comment stands is read as without it when the comment is in no value. -/
theorem Commented.readDefinition_blank (h : Commented front comment behind)
    (hno : ∀ key, ¬ EndsInValue key (textOf front) ∧ ¬ EndsBehindWord key (textOf front)) :
    readDefinition (textOf front ++ (comment ++ textOf behind)) =
      readDefinition (textOf front ++ ([' '] ++ textOf behind)) := by
  have hvalue (key : Key) := h.valueOf?_blank (hno key).1 (hno key).2
  rw [readDefinition, readDefinition, hvalue, hvalue, hvalue]

/-- With the comment in the value of `type` or `default` the definition is read otherwise. -/
theorem Commented.readDefinition_ne (h : Commented front comment behind)
    (hvalue : EndsInValue key (textOf front)) (hkey : key = .type ∨ key = .default) :
    readDefinition (textOf front ++ (comment ++ textOf behind)) ≠
      readDefinition (textOf front ++ ([' '] ++ textOf behind)) := by
  obtain ⟨a, b, hcomment, hblank⟩ := h.exists_valueOf? hvalue
  intro hsame
  have hless := h.count_lt a b
  rcases hkey with rfl | rfl
  · have hcount := congrArg (fun read => read.1.count '/') hsame
    simp only [count_type, hcomment, hblank, Option.getD_some] at hcount
    omega
  · have hcount := congrArg (fun read => (read.2.1.getD []).count '/') hsame
    simp only [count_default, hcomment, hblank, Option.getD_some] at hcount
    omega

/-- With the comment in the value of `required` only the required mark can be read otherwise: it is not
set. -/
theorem Commented.readDefinition_required (h : Commented front comment behind)
    (hvalue : EndsInValue .required (textOf front)) :
    readDefinition (textOf front ++ (comment ++ textOf behind)) =
      ((readDefinition (textOf front ++ ([' '] ++ textOf behind))).1,
        (readDefinition (textOf front ++ ([' '] ++ textOf behind))).2.1, false) := by
  obtain ⟨a, b, hcomment, -⟩ := h.exists_valueOf? hvalue
  have htype := hvalue.other .type (by decide)
  have hdefault := hvalue.other .default (by decide)
  have hmark : (some (strip (a ++ (comment ++ b))) == some "true".toList) = false := by
    rw [beq_eq_false_iff_ne]
    intro htrue
    have hless := h.count_lt a b
    rw [Option.some.inj htrue] at hless
    exact absurd hless (by simp)
  rw [readDefinition, readDefinition, h.valueOf?_blank htype.1 htype.2,
    h.valueOf?_blank hdefault.1 hdefault.2, hcomment, hmark]

/-! ## A comment in an entry -/

/-- A property without its description. -/
def undescribed (property : Property) : Property := { property with description := [] }

/-- The properties that a script declares by an object, without their descriptions. -/
def declared (script : Text) : List Property := (objectProperties script).map undescribed

/-- The property of that name with type, default and required mark, without a description. -/
def propertyOf (name : Text) (read : Text × Option Text × Bool) : Property where
  name := name
  type := read.1
  default := read.2.1
  required := read.2.2
  source := source

theorem propertyOf_injective (name : Text) : Function.Injective (propertyOf name) := by
  intro a b h
  exact Prod.ext (congrArg Property.type h)
    (Prod.ext (congrArg Property.default h) (congrArg Property.required h))

/-- Where all other entries are the same, the one between them is told by its value. -/
theorem read_eq_of_append_eq {earlier later : List Property} {a b : Text × Option Text × Bool}
    (h : earlier ++ propertyOf name a :: later = earlier ++ propertyOf name b :: later) : a = b :=
  propertyOf_injective name (List.cons.inj (List.append_cancel_left h)).1

/-- The entry is read with the comment, or the blank in its place, as a part of the value. -/
theorem Commented.property?_eq (h : Commented front comment behind) (hl : IsFiller comment l)
    (hentry : entryAt? (leadingComments (textOf front)).2 = some (name, c :: v)) :
    (property? (textOf (front ++ l :: behind))).map undescribed =
      some (propertyOf name (readValue (strip (c :: v ++ (l.text ++ textOf behind))))) := by
  have hne : (leadingComments (textOf front)).2 ≠ [] := by
    intro hnil
    rw [hnil] at hentry
    cases hentry
  have hread := entryAt?_append hentry (List.cons_ne_nil c v) (l.text ++ textOf behind)
  have hlead := h.snd_leadingComments hl
  rw [if_neg hne] at hlead
  rw [property?]
  generalize leadingComments (textOf (front ++ l :: behind)) = found at hlead
  obtain ⟨lead, t⟩ := found
  obtain rfl : t = _ := hlead
  simp only [hread, Option.bind_eq_bind, Option.bind_some]
  rfl

/-- The lexemes of a part in which the definition of an entry is started end with those of the start. -/
theorem Commented.exists_opened (h : Commented front comment behind)
    (hentry : entryAt? (leadingComments (textOf front)).2 = some (name, '{' :: begun)) :
    ∃ ls, front = ls ++ .mark '{' :: lexemes begun := by
  obtain ⟨w, hw, hlexemes⟩ := lexemes_of_entryAt? hentry
  rw [ObjectDeclaration.snd_leadingComments h.lexed_front] at hw
  have hrest := h.lexed_front.left.dropWhile isPassed
  have hbrace : lexemes ('{' :: begun) = .mark '{' :: lexemes begun := lexemes_opening .curly begun
  rw [Lexed, hw, hlexemes, hbrace] at hrest
  refine ⟨front.takeWhile isPassed ++ lexemes w, ?_⟩
  rw [List.append_assoc]
  exact List.takeWhile_append_dropWhile.symm.trans (congrArg _ hrest.symm)

/-- A bracket that a text starts with is closed when its lexemes go on so. -/
theorem balancedBlock?_of_lexemes {body rest : List Lexeme} (hbody : WellBracketed body)
    (h : lexemes t = body ++ .mark '}' :: rest) :
    balancedBlock? ('{' :: t) = some (textOf body, textOf rest) := by
  rw [balancedBlock?]
  show (blockTail? .curly [] (lexemes t)).map _ = _
  rw [blockTail?_eq_some_iff.2 ⟨hbody, h⟩]
  rfl

/-- The definition that is started in front of the comment ends behind it, in the same part. -/
theorem Commented.exists_definition (h : Commented front comment behind)
    (hall : WellBracketed (front ++ .comment comment :: behind))
    (hpart : IsPartAround (· == ',') front behind earlier inFront inBack later)
    (hentry : entryAt? (leadingComments (textOf inFront)).2 = some (name, '{' :: begun))
    (hopen : balancedBlock? ('{' :: begun) = none) :
    ∃ inside, Commented (lexemes begun) comment inside ∧ ∀ l, IsFiller comment l →
      readValue (strip ('{' :: begun ++ (l.text ++ textOf inBack))) =
        readDefinition (begun ++ (l.text ++ textOf inside)) := by
  have hinside := h.part hpart
  obtain ⟨ls, rfl⟩ := hinside.exists_opened hentry
  obtain ⟨body, rest, hbody, hclosing⟩ := hpart.exists_closing (b := .curly) (l := .comment comment)
    trivial hall
  -- the closing brace does not stand in front of the comment
  obtain ⟨inside, rfl, rfl⟩ : ∃ inside, body = lexemes begun ++ .comment comment :: inside ∧
      inBack = inside ++ .mark '}' :: rest := by
    rcases List.append_eq_append_iff.1 hclosing with ⟨later', hlater, hrest⟩ | ⟨later', hlater, hrest⟩
    · cases later' with
      | nil => cases hrest
      | cons m inside =>
        obtain ⟨rfl, rfl⟩ := List.cons.inj hrest
        exact ⟨inside, hlater, rfl⟩
    · cases later' with
      | nil => cases hrest
      | cons m later' =>
        obtain ⟨rfl, -⟩ := List.cons.inj hrest
        rw [balancedBlock?_of_lexemes hbody hlater] at hopen
        cases hopen
  have hblock : Commented (lexemes begun) comment (inside ++ .mark '}' :: rest) := by
    obtain ⟨stop, hlexed⟩ := hinside
    refine ⟨stop, (?_ : Lexed ((ls ++ [.mark '{']) ++ _)).right⟩
    simpa using hlexed
  have hcomment : Commented (lexemes begun) comment inside := by
    obtain ⟨stop, hlexed⟩ := hblock
    refine ⟨'}', (?_ : Lexed (_ ++ (rest ++ [.mark stop]))).left⟩
    simpa using hlexed
  refine ⟨inside, hcomment, fun l hl => ?_⟩
  have hlexemes : lexemes (textOf (lexemes begun) ++ (l.text ++ textOf (inside ++ .mark '}' :: rest))) =
      (lexemes begun ++ l :: inside) ++ .mark '}' :: rest := by
    rw [hblock.lexemes_eq hl, List.append_assoc, List.cons_append]
  have hfound := balancedBlock?_of_lexemes (hbody.exchange (l := .comment comment) trivial hl.isPlain) hlexemes
  have hdefinition : textOf (lexemes begun ++ l :: inside) = begun ++ (l.text ++ textOf inside) := by
    rw [textOf_append, textOf_cons, textOf_lexemes]
  rw [textOf_lexemes, hdefinition] at hfound
  have hread := readValue_of_balancedBlock? hfound []
  rwa [List.append_nil] at hread

/-! ## Scripts with a comment -/

/-- A script with a comment in its declaration object. -/
structure CommentedScript where
  /-- The text in front of the declaration. -/
  before : Text
  /-- The words in front of the object. -/
  opening : Text
  /-- The text of the object in front of the comment. -/
  front : Text
  /-- The comment. -/
  comment : Text
  /-- The text of the object behind the comment. -/
  behind : Text
  /-- The text behind the object. -/
  after : Text
  /-- The first declaration object is found there. -/
  found : search objectHere? none
    (before ++ (opening ++ '{' :: (front ++ (comment ++ (behind ++ '}' :: after))))) =
      some (before, '{' :: (front ++ (comment ++ (behind ++ '}' :: after))))
  /-- Its brackets are closed in order. -/
  closed : balancedBlock? ('{' :: (front ++ (comment ++ (behind ++ '}' :: after)))) =
    some (front ++ (comment ++ behind), after)
  /-- The comment is one of its lexemes. -/
  isComment : lexemes (front ++ (comment ++ behind)) =
    lexemes front ++ .comment comment :: lexemes behind
  /-- Lists of type arguments that start in front of the object are closed there. -/
  typed : ∀ x y u, before ++ opening = x ++ ("defineProps".toList ++ y) → stripLeft y = '<' :: u →
    '>' ∈ u

namespace CommentedScript

variable (script : CommentedScript)

/-- The script with another text in place of the comment. -/
def filled (filler : Text) : Text :=
  script.before ++ (script.opening ++ '{' ::
    (script.front ++ (filler ++ (script.behind ++ '}' :: script.after))))

/-- Its text. -/
def text : Text := script.filled script.comment

/-- The script with a blank in place of the comment. -/
def blanked : Text := script.filled [' ']

/-- The lexemes of the object are well bracketed, and they are those of their text with all that stands behind
the object. -/
theorem lexed_block :
    WellBracketed (lexemes script.front ++ .comment script.comment :: lexemes script.behind) ∧
      Lexed (lexemes script.front ++ .comment script.comment ::
        (lexemes script.behind ++ .mark '}' :: lexemes script.after)) := by
  obtain ⟨b, ls, hshape, hscan, hls⟩ := balancedBlock?_eq_some_iff.1 script.closed
  obtain ⟨hopen, -⟩ := List.cons.inj hshape
  obtain rfl : b = .curly := by
    cases b with
    | round => cases hopen
    | square => cases hopen
    | curly => rfl
  have hbody : textOf ls = script.front ++ (script.comment ++ script.behind) :=
    List.append_cancel_right hscan.eq_append.symm
  have hlexemes := hscan.lexemes_eq
  rw [lexemes_closing] at hlexemes
  have hlexed : Lexed (ls ++ .mark Bracket.curly.closing :: lexemes script.after) := by
    rw [← hlexemes]
    exact lexed_lexemes _
  have hinside := hlexed.left
  rw [Lexed, hbody, script.isComment] at hinside
  rw [hinside]
  refine ⟨hls, ?_⟩
  rw [← List.cons_append, ← List.append_assoc, hinside]
  exact hlexed

theorem commented : Commented (lexemes script.front) script.comment (lexemes script.behind) := by
  refine ⟨'}', (?_ : Lexed (_ ++ lexemes script.after)).left⟩
  simpa using script.lexed_block.2

/-- The declaration object, with the comment or the blank in its place. -/
theorem declarationObject?_filled (hl : IsFiller script.comment l) :
    declarationObject? (script.filled l.text) = some (script.front ++ (l.text ++ script.behind)) := by
  have hsearch := search_objectHere?_congr script.typed script.found
    (script.front ++ (l.text ++ (script.behind ++ '}' :: script.after)))
  obtain ⟨hbracketed, hlexed⟩ := script.lexed_block
  have hlexemes : lexemes (script.front ++ (l.text ++ (script.behind ++ '}' :: script.after))) =
      (lexemes script.front ++ l :: lexemes script.behind) ++ .mark '}' :: lexemes script.after := by
    have hfilled := hl.lexed hlexed
    rw [Lexed] at hfilled
    simp only [textOf_append, textOf_cons, textOf_lexemes] at hfilled
    rw [List.append_assoc, List.cons_append]
    exact hfilled
  have hblock := balancedBlock?_of_lexemes
    (hbracketed.exchange (l := .comment script.comment) trivial hl.isPlain) hlexemes
  simp only [textOf_append, textOf_cons, textOf_lexemes] at hblock
  have htext : script.filled l.text = script.before ++ (script.opening ++ '{' ::
      (script.front ++ (l.text ++ (script.behind ++ '}' :: script.after)))) := rfl
  rw [declarationObject?, htext, hsearch]
  simp only [Option.bind_eq_bind, Option.bind_some, hblock]
  rfl

theorem declarationObject?_blanked :
    declarationObject? script.blanked = some (script.front ++ ' ' :: script.behind) :=
  script.declarationObject?_filled (.inr rfl)

/-- **Only the entry in which the comment stands** can be read otherwise with a blank in place of it. -/
theorem declared_filled
    (hpart : IsPartAround (· == ',') (lexemes script.front) (lexemes script.behind) earlier inFront inBack
      later)
    (hentry : entryAt? (leadingComments (openPart script.front)).2 = some (name, c :: v))
    (hl : IsFiller script.comment l) :
    declared (script.filled l.text) = (earlier.filterMap property?).map undescribed ++
      propertyOf name (readValue (strip (c :: v ++ (l.text ++ textOf inBack)))) ::
        (later.filterMap property?).map undescribed := by
  have hlexemes := script.commented.lexemes_eq hl
  simp only [textOf_lexemes] at hlexemes
  rw [openPart_of_parts hpart.parts_front] at hentry
  have hread := (script.commented.part hpart).property?_eq hl hentry
  obtain ⟨property, hproperty, hundescribed⟩ := Option.map_eq_some_iff.1 hread
  rw [declared, objectProperties_eq (script.declarationObject?_filled hl), hlexemes,
    hpart.parts_eq l hl.isPlain (hl.not_separates _), List.filterMap_append,
    List.filterMap_cons_some hproperty, List.map_append, List.map_cons, hundescribed]

/-- A comment behind the definition of an entry is not read. -/
theorem declared_eq_of_behindDefinition
    (h : commentPlace? script.front = some .behindDefinition) :
    declared script.text = declared script.blanked := by
  obtain ⟨earlier, inFront, inBack, later, hpart⟩ :=
    exists_part_around (· == ',') (lexemes script.front) (lexemes script.behind)
  unfold commentPlace? at h
  split at h
  · next name t hentry =>
    split at h
    · next hsome =>
      obtain ⟨⟨definition, rest⟩, hblock⟩ := Option.isSome_iff_exists.1 hsome
      have hread (l : Lexeme) (hl : IsFiller script.comment l) := script.declared_filled hpart hentry hl
      simp only [readValue_of_balancedBlock? hblock] at hread
      exact (hread _ (.inl rfl)).trans (hread _ (.inr rfl)).symm
    · cases h
  · cases h
  · cases h

/-- A comment in or behind a shorthand is a part of the type. -/
theorem declared_ne_of_inShorthand (h : commentPlace? script.front = some .inShorthand) :
    declared script.text ≠ declared script.blanked := by
  obtain ⟨earlier, inFront, inBack, later, hpart⟩ :=
    exists_part_around (· == ',') (lexemes script.front) (lexemes script.behind)
  unfold commentPlace? at h
  split at h
  · split at h <;> cases h
  · next name c v hbrace hentry =>
    have hread (l : Lexeme) (hl : IsFiller script.comment l) := script.declared_filled hpart hentry hl
    simp only [List.cons_append, readValue_shorthand (not_blank_of_entryAt? hentry) hbrace] at hread
    have hless := script.commented.count_lt (c :: v) (textOf inBack)
    intro hsame
    have hvalue := read_eq_of_append_eq
      ((hread _ (.inl rfl)).symm.trans (hsame.trans (hread _ (.inr rfl))))
    have htype : strip (c :: v ++ (script.comment ++ textOf inBack)) =
        strip (c :: v ++ ([' '] ++ textOf inBack)) := (Prod.mk.inj hvalue).1
    rw [htype] at hless
    exact absurd hless (lt_irrefl _)
  · cases h

/-- A comment in the definition of an entry stands in what is read as type, default and required mark. -/
theorem exists_declared_of_inDefinition
    (h : commentPlace? script.front = some (.inDefinition begun)) :
    ∃ earlier name later inside, Commented (lexemes begun) script.comment inside ∧
      declared script.text =
        earlier ++ propertyOf name (readDefinition (begun ++ (script.comment ++ textOf inside))) :: later ∧
      declared script.blanked =
        earlier ++ propertyOf name (readDefinition (begun ++ ([' '] ++ textOf inside))) :: later := by
  obtain ⟨earlier, inFront, inBack, later, hpart⟩ :=
    exists_part_around (· == ',') (lexemes script.front) (lexemes script.behind)
  unfold commentPlace? at h
  split at h
  · next name t hentry =>
    split at h
    · cases h
    · next hnone =>
      obtain rfl := CommentPlace.inDefinition.inj (Option.some.inj h)
      have hinFront := hentry
      rw [openPart_of_parts hpart.parts_front] at hinFront
      obtain ⟨inside, hcommented, hread⟩ := script.commented.exists_definition script.lexed_block.1 hpart
        hinFront (Option.not_isSome_iff_eq_none.1 hnone)
      have hfilled (l : Lexeme) (hl : IsFiller script.comment l) := script.declared_filled hpart hentry hl
      have hcomment := hread _ (.inl rfl) ▸ hfilled _ (.inl rfl)
      have hblank := hread _ (.inr rfl) ▸ hfilled _ (.inr rfl)
      exact ⟨_, name, _, inside, hcommented, hcomment, hblank⟩
  · cases h
  · cases h

end CommentedScript

/-- A comment with `front` in front of it is in no value that is read. -/
inductive IsPassedOver (front : Text) : Prop where
  /-- It stands behind the definition of an entry. -/
  | behindDefinition : commentPlace? front = some .behindDefinition → IsPassedOver front
  /-- It stands in the definition of an entry, and no value is taken from the part around it. -/
  | inDefinition {begun : Text} : commentPlace? front = some (.inDefinition begun) →
      (∀ key, ¬ EndsInValue key begun ∧ ¬ EndsBehindWord key begun) → IsPassedOver front

/-- A comment with `front` in front of it is read as a part of a type or a default. -/
inductive IsReadAsValue (front : Text) : Prop where
  /-- It stands in the type of an entry without a definition. -/
  | inShorthand : commentPlace? front = some .inShorthand → IsReadAsValue front
  /-- It stands in the value of a key. -/
  | inValue {begun : Text} {key : Key} : commentPlace? front = some (.inDefinition begun) →
      EndsInValue key begun → key = .type ∨ key = .default → IsReadAsValue front

/-- **What a comment changes.** What is declared is the same with a blank in place of a comment that is passed
over, and another with a blank in place of one that is read as a part of a type or a default. In the value of
`required` a comment takes away the required mark of its entry, and changes nothing else. -/
theorem declared_blanked (script : CommentedScript) :
    (IsPassedOver script.front → declared script.text = declared script.blanked) ∧
    (IsReadAsValue script.front → declared script.text ≠ declared script.blanked) ∧
    ∀ begun, commentPlace? script.front = some (.inDefinition begun) → EndsInValue .required begun →
      ∃ earlier property later,
        declared script.text = earlier ++ { property with required := false } :: later ∧
        declared script.blanked = earlier ++ property :: later := by
  refine ⟨fun h => ?_, fun h => ?_, fun begun hplace hrequired => ?_⟩
  · cases h with
    | behindDefinition hplace => exact script.declared_eq_of_behindDefinition hplace
    | @inDefinition begun hplace hno =>
      obtain ⟨earlier, name, later, inside, hcommented, htext, hblanked⟩ :=
        script.exists_declared_of_inDefinition hplace
      rw [← textOf_lexemes begun] at hno htext hblanked
      rw [htext, hblanked, hcommented.readDefinition_blank hno]
  · cases h with
    | inShorthand hplace => exact script.declared_ne_of_inShorthand hplace
    | @inValue begun key hplace hvalue hkey =>
      obtain ⟨earlier, name, later, inside, hcommented, htext, hblanked⟩ :=
        script.exists_declared_of_inDefinition hplace
      rw [← textOf_lexemes begun] at hvalue htext hblanked
      intro hsame
      rw [htext, hblanked] at hsame
      exact hcommented.readDefinition_ne hvalue hkey (read_eq_of_append_eq hsame)
  · obtain ⟨earlier, name, later, inside, hcommented, htext, hblanked⟩ :=
      script.exists_declared_of_inDefinition hplace
    rw [← textOf_lexemes begun] at hrequired htext hblanked
    refine ⟨earlier, _, later, ?_, hblanked⟩
    rw [htext, hcommented.readDefinition_required hrequired]
    rfl

/-- Where no list of type arguments starts, none is left open. -/
theorem typed_of_not_mem (h : '<' ∉ t) (x y u : Text) (ht : t = x ++ ("defineProps".toList ++ y))
    (hy : stripLeft y = '<' :: u) : '>' ∈ u := by
  refine absurd ?_ h
  have hin : '<' ∈ stripLeft y := by
    rw [hy]
    exact List.mem_cons_self
  rw [ht]
  exact List.mem_append_right _ (List.mem_append_right _ ((List.dropWhile_sublist _).subset hin))

/-- A comment in front of a key. -/
def leadScript : CommentedScript where
  before := "export default \x7b "
  opening := "props: "
  front := " a: \x7b "
  comment := "/* note */"
  behind := " required: true \x7d "
  after := " \x7d"
  found := by decide
  closed := by cbv
  isComment := by cbv
  typed := typed_of_not_mem (by decide)

/-- Nothing stands in front of the key but blanks. -/
theorem declared_leadScript :
    leadScript.text = "export default \x7b props: \x7b a: \x7b /* note */ required: true \x7d \x7d \x7d".toList ∧
      declared leadScript.text = declared leadScript.blanked := by
  have hlead : (leadingComments (openPart " a: \x7b ")).2 = "a: \x7b ".toList := by cbv
  have hentry : entryAt? "a: \x7b " = some ("a".toList, '{' :: " ".toList) := by decide
  rw [← hlead] at hentry
  have hopen : balancedBlock? ('{' :: " ".toList) = none := by cbv
  have hkey : (leadingComments (openPart " ")).2 = [] := by cbv
  refine ⟨by decide, (declared_blanked leadScript).1
    (.inDefinition (commentPlace?_inDefinition hentry hopen) fun key => ⟨?_, ?_⟩)⟩
  · rintro ⟨-, hvalue⟩
    rw [valueIn?, hkey] at hvalue
    cases key <;> exact hvalue rfl
  · rintro ⟨-, blank, hword⟩
    rw [hkey] at hword
    cases key <;> cases hword

/-- A comment behind a required mark. -/
def markScript : CommentedScript where
  before := "export default \x7b "
  opening := "props: "
  front := " a: \x7b required: true "
  comment := "/* note */"
  behind := " \x7d "
  after := " \x7d"
  found := by decide
  closed := by cbv
  isComment := by cbv
  typed := typed_of_not_mem (by decide)

/-- The entry without the comment. -/
theorem property?_required : property? " a: \x7b required: true   \x7d " =
    some ⟨"a", "any", true, none, "", "options"⟩ := by
  have hlead : leadingComments " a: \x7b required: true   \x7d " =
      (" ".toList, "a: \x7b required: true   \x7d ".toList) := by cbv
  have hentry : entryAt? "a: \x7b required: true   \x7d " =
      some ("a".toList, '{' :: " required: true   \x7d ".toList ++ []) := by decide
  have hblock : balancedBlock? ('{' :: " required: true   \x7d ".toList) =
      some (" required: true   ".toList, " ".toList) := by cbv
  have hkeys : partsTopLevel (· == ',') 0 (lexemes " required: true   ") =
      [" required: true   ".toList] := by cbv
  have hkey : (leadingComments " required: true   ").2 = "required: true   ".toList := by cbv
  have hvalue (key : Key) : valueOf? key " required: true   " = keyValue? key "required: true   " := by
    rw [valueOf?_eq, hkeys, List.findSome?_singleton, valueIn?, hkey]
  have hdefinition : readDefinition " required: true   " = ("any".toList, none, true) := by
    rw [readDefinition, hvalue, hvalue, hvalue]
    decide
  rw [property?, hlead]
  simp only [hentry, Option.bind_eq_bind, Option.bind_some, readValue_of_balancedBlock? hblock, hdefinition]
  decide

/-- With a blank in its place the mark is read. -/
theorem declared_blanked_markScript :
    declared markScript.blanked = [⟨"a", "any", true, none, "", "options"⟩] := by
  have hparts : partsTopLevel (· == ',') 0 (lexemes " a: \x7b required: true   \x7d ") =
      [" a: \x7b required: true   \x7d ".toList] := by cbv
  have hinside : markScript.front ++ ' ' :: markScript.behind = " a: \x7b required: true   \x7d ".toList := by
    decide
  rw [declared, objectProperties_eq markScript.declarationObject?_blanked, hinside, hparts,
    List.filterMap_cons_some property?_required]
  rfl

/-- The comment takes the required mark away. -/
theorem declared_ne_markScript :
    markScript.text = "export default \x7b props: \x7b a: \x7b required: true /* note */ \x7d \x7d \x7d".toList ∧
      declared markScript.text = [⟨"a", "any", false, none, "", "options"⟩] ∧
      declared markScript.text ≠ declared markScript.blanked := by
  have hlead : (leadingComments (openPart " a: \x7b required: true ")).2 =
      "a: \x7b required: true ".toList := by cbv
  have hentry : entryAt? "a: \x7b required: true " =
      some ("a".toList, '{' :: " required: true ".toList) := by decide
  rw [← hlead] at hentry
  have hopen : balancedBlock? ('{' :: " required: true ".toList) = none := by cbv
  have hparts : closedParts " required: true " = [] := by cbv
  have hpart : (leadingComments (openPart " required: true ")).2 = "required: true ".toList := by cbv
  have hvalue : EndsInValue .required " required: true " := by
    rw [EndsInValue, IsOpen, hparts, valueIn?, hpart]
    decide
  obtain ⟨earlier, property, later, htext, hblanked⟩ :=
    (declared_blanked markScript).2.2 _ (commentPlace?_inDefinition hentry hopen) hvalue
  rw [declared_blanked_markScript] at hblanked ⊢
  obtain ⟨rfl, rfl, rfl⟩ : earlier = [] ∧ property = ⟨"a", "any", true, none, "", "options"⟩ ∧
      later = [] := by
    cases earlier with
    | nil =>
      obtain ⟨rfl, rfl⟩ := List.cons.inj hblanked
      exact ⟨rfl, rfl, rfl⟩
    | cons e earlier => cases earlier <;> cases (List.cons.inj hblanked).2
  rw [htext]
  refine ⟨by decide, rfl, fun hsame => ?_⟩
  cases congrArg Property.required (List.cons.inj hsame).1

end ComponentBook.ObjectDeclaration
