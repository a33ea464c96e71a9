import ComponentBook.Proofs.Property.ObjectRoundTrip
import ComponentBook.Proofs.Script.CommentPlace

/-! # What the readers of an entry look at

The readers of a declaration object go from the start of a part to the value in it, and what stands behind
has no say in what they find: the words in front of the object (`search_objectHere?_congr`), blanks and
comments (**`snd_leadingComments`**), the name of an entry (`entryAt?_append`), the word of a key
(`keyValue?_append`). The value itself is taken as it is, with all that stands behind it up to the end of the
part.

No slash is ever lost on the way (`count_strip`, `count_unquote`): a value with a comment in it is not that
value without the comment (**`count_type`**, **`count_default`**). -/

namespace ComponentBook.ObjectDeclaration

open Script Text

variable {a name s t u v x y body definition script : Text} {c d : Char} {o : Option Char} {key : Key}
  {ls : List Lexeme}

/-! ## The declaration object -/

/-- A list of type arguments that is closed is left out, whatever stands behind. -/
theorem dropTypeArguments_append (ht : ∀ u, t = '<' :: u → '>' ∈ u) (r : Text) :
    dropTypeArguments (t ++ '{' :: r) = dropTypeArguments t ++ '{' :: r := by
  rcases t with _ | ⟨c, t⟩
  · rfl
  · by_cases hc : c = '<'
    · -- the list is closed in front of the brace, so that what follows is not looked at
      subst hc
      have hmem := ht t rfl
      obtain ⟨u, hu⟩ : ∃ u, t.dropWhile (· ≠ '>') = '>' :: u := by
        cases hdrop : t.dropWhile (· ≠ '>') with
        | nil =>
          have hall := List.dropWhile_eq_nil_iff.1 hdrop _ hmem
          simp at hall
        | cons e u =>
          have hnot := List.head?_dropWhile_not (fun c => decide (c ≠ '>')) t
          rw [hdrop] at hnot
          obtain rfl : e = '>' := by simpa using hnot
          exact ⟨u, rfl⟩
      have happ : (t ++ '{' :: r).dropWhile (· ≠ '>') = '>' :: (u ++ '{' :: r) := by
        rw [List.dropWhile_append, hu]
        rfl
      rw [List.cons_append, dropTypeArguments, dropTypeArguments, hu, happ]
      exact stripLeft_append_eq u (by simp; decide)
    · rw [List.cons_append]
      have hother (t : Text) : dropTypeArguments (c :: t) = c :: t := by
        unfold dropTypeArguments
        split
        · next he =>
          obtain ⟨rfl, -⟩ := List.cons.inj he
          exact absurd rfl hc
        · rfl
      rw [hother, hother, List.cons_append]

/-- A word, and behind blanks a character, after which blanks are left out. -/
def afterWords? (word mark : Text) (between : Text → Text) (t : Text) : Option Text :=
  (dropPrefix? word t).bind fun y => (dropPrefix? mark (between y)).bind fun z => some (stripLeft z)

theorem stripLeft_append_brace (t r : Text) : stripLeft (t ++ '{' :: r) = stripLeft t ++ '{' :: r :=
  stripLeft_append_eq t (by simp; decide)

theorem afterWords?_append {word mark : Text} {between : Text → Text} (hword : '{' ∉ word)
    (hmark : '{' ∉ mark) (r : Text)
    (hbetween : ∀ y, t = word ++ y → between (y ++ '{' :: r) = between y ++ '{' :: r) :
    afterWords? word mark between (t ++ '{' :: r) =
      (afterWords? word mark between t).map (· ++ '{' :: r) := by
  rw [afterWords?, afterWords?, dropPrefix?_append_cons hword]
  cases hy : dropPrefix? word t with
  | none => rfl
  | some y =>
    simp only [Option.map_some, Option.bind_some]
    rw [hbetween y (dropPrefix?_eq_some_iff.1 hy), dropPrefix?_append_cons hmark]
    cases dropPrefix? mark (between y) with
    | none => rfl
    | some z => exact congrArg some (stripLeft_append_brace z r)

theorem objectHere?_eq (before : Option Char) (t : Text) : objectHere? before t = (do
    guard (boundary before t.head?)
    let rest ← afterWords? "props" ":" stripLeft t <|>
      afterWords? "defineProps" "(" (fun t => dropTypeArguments (stripLeft t)) t
    guard (rest.head? = some '{')
    return rest) := rfl

/-- Whether a declaration object starts at a place is told by the text up to its brace. -/
theorem exists_objectHere? (before : Option Char)
    (ht : ∀ y u, t = "defineProps".toList ++ y → stripLeft y = '<' :: u → '>' ∈ u) :
    ∃ o : Option Text, ∀ r, objectHere? before (t ++ '{' :: r) = o.map (· ++ '{' :: r) := by
  have hcall (r y : Text) (hy : t = "defineProps".toList ++ y) :
      dropTypeArguments (stripLeft (y ++ '{' :: r)) = dropTypeArguments (stripLeft y) ++ '{' :: r := by
    rw [stripLeft_append_brace, dropTypeArguments_append (fun u hu => ht y u hy hu)]
  have hhead (t r : Text) : (t ++ '{' :: r).head? = (t ++ ['{']).head? := by cases t <;> rfl
  -- the answer is found in the text up to the brace, and what follows is put behind it
  refine ⟨do
    guard (boundary before (t ++ ['{']).head?)
    let rest ← afterWords? "props" ":" stripLeft t <|>
      afterWords? "defineProps" "(" (fun t => dropTypeArguments (stripLeft t)) t
    guard ((rest ++ ['{']).head? = some '{')
    return rest, fun r => ?_⟩
  rw [objectHere?_eq, hhead, afterWords?_append (by decide) (by decide) r
    (fun y _ => stripLeft_append_brace y r), afterWords?_append (by decide) (by decide) r (hcall r)]
  cases boundary before (t ++ ['{']).head? with
  | false => rfl
  | true =>
    cases afterWords? "props" ":" stripLeft t with
    | some rest => simp [guard, hhead]
    | none =>
      cases afterWords? "defineProps" "(" (fun t => dropTypeArguments (stripLeft t)) t with
      | none => rfl
      | some rest => simp [guard, hhead]

/-- The declaration object is found by what stands in front of it, as long as no list of type arguments is
open there. -/
theorem search_objectHere?_congr {before opening : Text}
    (htyped : ∀ x y u, before ++ opening = x ++ ("defineProps".toList ++ y) → stripLeft y = '<' :: u →
      '>' ∈ u)
    (h : search objectHere? none (before ++ (opening ++ '{' :: t)) = some (before, '{' :: t)) (r : Text) :
    search objectHere? none (before ++ (opening ++ '{' :: r)) = some (before, '{' :: r) := by
  obtain ⟨u, hu, hhere, hearlier⟩ := exists_of_search h
  obtain rfl := List.append_cancel_left hu
  rw [Option.or_none] at hhere
  refine search_of_first_place (fun x y hxy hy => ?_) ?_
  · -- at an earlier place nothing starts, which the text up to the brace tells already
    have hnone := hearlier x y hxy hy
    rw [Option.or_none] at hnone
    obtain ⟨o, ho⟩ := exists_objectHere? (t := y ++ opening) x.getLast? fun z w hz hw =>
      htyped x z w (by rw [hxy, List.append_assoc, hz]) hw
    simp only [List.append_assoc] at ho
    rw [ho, Option.map_eq_none_iff] at hnone
    rw [ho, hnone]
    rfl
  · -- the object at the place starts with the brace, whatever it holds
    obtain ⟨o, ho⟩ := exists_objectHere? (t := opening) before.getLast? fun z w hz hw =>
      htyped before z w (by rw [hz]) hw
    rw [ho] at hhere
    obtain ⟨z, rfl, hz⟩ := Option.map_eq_some_iff.1 hhere
    obtain rfl : z = [] := by
      have hlength := congrArg List.length hz
      simp only [List.length_append, List.length_cons] at hlength
      exact List.length_eq_zero_iff.1 (by omega)
    exact ho r

/-! ## In front of an entry or a key -/

/-- A lexeme that is passed over in front of an entry or a key. -/
def isPassed : Lexeme → Bool
  | .literal _ => false
  | .comment _ => true
  | .mark c => isBlank c

/-- A comment that ends in front of the end of a text is passed over. -/
theorem leadingComment?_of_comment? (hy : Replaces y x) (hx : x ≠ []) (h : comment? s = some (a, x)) :
    leadingComment? (a ++ y) = some (a, y) := by
  have hread := comment?_congr hy h
  unfold comment? at h
  split at h
  · obtain ⟨rfl, -⟩ := Prod.mk.inj (Option.some.inj h)
    exact hread
  · split at h
    · next rest body behind hcut =>
      obtain ⟨rfl, -⟩ := Prod.mk.inj (Option.some.inj h)
      have hshape : '/' :: '*' :: body ++ "*/" ++ y = '/' :: '*' :: (body ++ ("*/" ++ y)) := by simp
      have hblank : leadingComment? ('/' :: '*' :: (body ++ ("*/" ++ y))) =
          (cut? "*/" (body ++ ("*/" ++ y))).map fun found => ('/' :: '*' :: found.1 ++ "*/", found.2) :=
        rfl
      rw [hshape, hblank, cut?_congr y hcut]
      rfl
    · obtain ⟨-, rfl⟩ := Prod.mk.inj (Option.some.inj h)
      exact absurd rfl hx
  · cases h

/-- Where no comment starts, none is passed over. -/
theorem leadingComment?_eq_none (hc : isBlank c = false) (h : comment? (c :: t) = none) :
    leadingComment? (c :: t) = none := by
  have hdrop : (c :: t).dropWhile isBlank = c :: t := List.dropWhile_cons_of_neg (by simp [hc])
  unfold leadingComment?
  rw [hdrop]
  split
  · next he =>
    rw [he, comment?] at h
    cases h
  · next he =>
    rw [he, comment?] at h
    split at h <;> cases h
  · rfl

theorem leadingComments_of_none (h : leadingComment? t = none) :
    leadingComments t = (t.takeWhile isBlank, t.dropWhile isBlank) := by
  rw [leadingComments]
  split
  · next hsome => rw [h] at hsome; cases hsome
  · rfl

theorem snd_leadingComments_of_some (h : leadingComment? t = some (a, u)) :
    (leadingComments t).2 = (leadingComments u).2 := by
  rw [leadingComments]
  split
  · next hsome =>
    rw [h] at hsome
    obtain ⟨rfl, rfl⟩ := Prod.mk.inj (Option.some.inj hsome)
    rfl
  · next hnone => rw [h] at hnone; cases hnone

/-- A blank is passed over. -/
theorem snd_leadingComments_blank (hc : isBlank c = true) :
    (leadingComments (c :: t)).2 = (leadingComments t).2 := by
  have hhead : leadingComment? (c :: t) = (leadingComment? t).map fun found => (c :: found.1, found.2) := by
    unfold leadingComment?
    rw [List.takeWhile_cons_of_pos hc, List.dropWhile_cons_of_pos hc]
    split
    · rfl
    · rw [Option.map_map]
      rfl
    · rfl
  cases h : leadingComment? t with
  | none =>
    rw [h] at hhead
    rw [leadingComments_of_none h, leadingComments_of_none hhead]
    exact List.dropWhile_cons_of_pos hc
  | some found =>
    rw [h] at hhead
    rw [snd_leadingComments_of_some h, snd_leadingComments_of_some hhead]

/-- **What is passed over** in front of an entry or a key are whole lexemes: blanks and comments. -/
theorem snd_leadingComments (h : Lexed (ls ++ [.mark d])) :
    (leadingComments (textOf ls)).2 = textOf (ls.dropWhile isPassed) := by
  have hstop {c : Char} {t : Text} (hc : isBlank c = false) (hnone : comment? (c :: t) = none) :
      (leadingComments (c :: t)).2 = c :: t := by
    rw [leadingComments_of_none (leadingComment?_eq_none hc hnone)]
    exact List.dropWhile_cons_of_neg (by simp [hc])
  induction ls with
  | nil =>
    rw [textOf_nil, leadingComments_of_none rfl]
    rfl
  | cons l ls ih =>
    have hrest := ih h.tail
    have hhead : ∀ e, (textOf ls).head? = some e → (textOf (ls ++ [.mark d])).head? = some e := by
      intro e he
      rw [textOf_append, List.head?_append, he]
      rfl
    cases l with
    | comment a =>
      have hpassed : leadingComment? (a ++ textOf ls) = some (a, textOf ls) :=
        leadingComment?_of_comment? (fun e he => .inl (hhead e he)) (by simp [Lexeme.text]) h.comment?
      rw [List.dropWhile_cons_of_pos rfl, ← hrest]
      exact snd_leadingComments_of_some hpassed
    | literal a =>
      rw [List.dropWhile_cons_of_neg (by simp [isPassed])]
      -- a quote is not blank and starts no comment
      obtain ⟨quote, tail, rfl, hquote⟩ := h.head_literal
      have hslash : quote ≠ '/' := ne_of_apply_ne isQuote (by rw [hquote]; decide)
      exact hstop (not_blank_of_isQuote hquote) (comment?_eq_none (apart_of_getLast? (by simpa using hslash)))
    | mark c =>
      by_cases hblank : isBlank c = true
      · rw [List.dropWhile_cons_of_pos (by exact hblank), ← hrest]
        exact snd_leadingComments_blank hblank
      · -- a mark that is not blank has been cut off where no comment starts
        rw [List.dropWhile_cons_of_neg (by exact hblank)]
        have hapart : Apart [c] (textOf ls) := fun hlast e he =>
          apart_of_comment? h.comment?_mark hlast e (hhead e he)
        exact hstop (by simpa using hblank) (comment?_eq_none hapart)

/-! ## Parts -/

theorem property?_of_allBlank (h : t.allBlank = true) : property? t = none := by
  have hlead := leadingComments_of_blank ⟨t, h⟩ (t := []) (by simp)
  rw [List.append_nil] at hlead
  rw [property?, hlead]
  rfl

/-- The properties are those of the parts of the declaration object. -/
theorem objectProperties_eq (h : declarationObject? script = some body) :
    objectProperties script = (partsTopLevel (· == ',') 0 (lexemes body)).filterMap property? := by
  have hmap := List.filterMap_map (f := Segment.text) (g := property?) (l := commaSegments body)
  rw [objectProperties, h]
  refine hmap.symm.trans ?_
  rw [commaSegments, map_text_splitTopLevel, List.filterMap_filter]
  refine List.filterMap_congr fun part _ => ?_
  by_cases hblank : part.allBlank = true
  · rw [property?_of_allBlank hblank, ite_self]
  · rw [if_pos (by simpa using hblank)]

/-- What a part of an entry's object gives for a key. -/
def valueIn? (key : Key) (part : Text) : Option Text := keyValue? key (leadingComments part).2

theorem valueIn?_of_allBlank (h : t.allBlank = true) : valueIn? key t = none := by
  have hlead := leadingComments_of_blank ⟨t, h⟩ (t := []) (by simp)
  rw [List.append_nil] at hlead
  rw [valueIn?, hlead]
  cases key <;> rfl

/-- The value of a key is what the first part with the key gives. -/
theorem valueOf?_eq (key : Key) (definition : Text) :
    valueOf? key definition =
      (partsTopLevel (· == ',') 0 (lexemes definition)).findSome? (valueIn? key) :=
  findSome?_splitTopLevel (fun _ hblank => valueIn?_of_allBlank hblank) _ definition

/-- Of a list of parts, none of them blank, the first one that gives a value for the key gives it. -/
theorem valueOf?_parts {parts : List Text} (hcode : ∀ part ∈ parts, Code true (· == ',') part)
    (hblank : ∀ part ∈ parts, allBlank part = false) (tail : Option BlankText) (key : Key) :
    valueOf? key (listed parts tail) = parts.findSome? (valueIn? key) := by
  have hmap := List.findSome?_map (f := Segment.text) (p := valueIn? key)
    (l := commaSegments (listed parts tail))
  rw [valueOf?]
  refine hmap.symm.trans ?_
  rw [commaSegments_listed hcode hblank]

/-! ## Text behind -/

theorem splitQuote_append (h : t ≠ []) (r : Text) :
    splitQuote (t ++ r) = ((splitQuote t).1, (splitQuote t).2 ++ r) := by
  cases t with
  | nil => exact absurd rfl h
  | cons c t =>
    by_cases hsingle : c = '\''
    · subst hsingle
      rfl
    · by_cases hdouble : c = '"'
      · subst hdouble
        rfl
      · simp [splitQuote, hsingle, hdouble]

/-- An entry: its name in quotes or without them, a colon between blanks, and the value. -/
theorem entryAt?_eq_some_iff : entryAt? t = some (name, v) ↔ ∃ quote x y,
    splitQuote t = (quote, name ++ (quote.toList ++ x)) ∧
      (name ++ (quote.toList ++ x)).head?.any isIdentifierStart = true ∧
      (name ++ (quote.toList ++ x)).takeWhile (fun c => isIdentifierChar c || c = '-') = name ∧
      stripLeft x = ':' :: y ∧ stripLeft y = v := by
  rw [entryAt?_eq]
  obtain ⟨quote, u⟩ := splitQuote t
  simp only [Option.bind_eq_bind, Option.bind_eq_some_iff, guard_eq_some_iff, Option.pure_def,
    Option.some.injEq, Prod.mk.injEq, dropPrefix?_eq_some_iff]
  constructor
  · rintro ⟨-, hstart, x, hx, y, hy, hname, rfl⟩
    have hprefix : name <+: u := by
      rw [← hname]
      exact List.takeWhile_prefix _
    have hu : u = name ++ (quote.toList ++ x) := by
      rw [← hx, hname]
      exact List.prefix_iff_eq_append.1 hprefix |>.symm
    rw [hu] at hstart hname
    exact ⟨quote, x, y, ⟨rfl, hu⟩, hstart, hname, hy, rfl⟩
  · rintro ⟨quote, x, y, ⟨rfl, rfl⟩, hstart, hname, hy, rfl⟩
    exact ⟨(), hstart, x, by rw [hname, List.drop_left], y, hy, hname, rfl⟩

theorem splitQuote_eq (h : splitQuote t = (o, u)) :
    t = o.toList ++ u ∧ ∀ q, o = some q → q = '\'' ∨ q = '"' := by
  unfold splitQuote at h
  split at h
  · obtain ⟨rfl, rfl⟩ := Prod.mk.inj h
    exact ⟨rfl, fun q hq => .inl (Option.some.inj hq).symm⟩
  · obtain ⟨rfl, rfl⟩ := Prod.mk.inj h
    exact ⟨rfl, fun q hq => .inr (Option.some.inj hq).symm⟩
  · obtain ⟨rfl, rfl⟩ := Prod.mk.inj h
    exact ⟨rfl, fun q hq => by cases hq⟩

/-- Blanks in front of a value are left out. -/
theorem not_blank_of_entryAt? (h : entryAt? t = some (name, c :: v)) : isBlank c = false := by
  obtain ⟨_, _, y, _, _, _, _, hy⟩ := entryAt?_eq_some_iff.1 h
  have hnot := List.head?_dropWhile_not isBlank y
  rw [← stripLeft, hy] at hnot
  simpa using hnot

/-- What stands behind the start of a value has no part in how the entry is read. -/
theorem entryAt?_append (h : entryAt? t = some (name, v)) (hv : v ≠ []) (r : Text) :
    entryAt? (t ++ r) = some (name, v ++ r) := by
  obtain ⟨quote, x, y, hsplit, hstart, hname, hx, rfl⟩ := entryAt?_eq_some_iff.1 h
  have hxne : x ≠ [] := by
    rintro rfl
    cases hx
  have hshape : name ++ (quote.toList ++ (x ++ r)) = name ++ (quote.toList ++ x) ++ r := by simp
  have hne : name ++ (quote.toList ++ x) ≠ [] := by simp [hxne]
  have htne : t ≠ [] := by
    rintro rfl
    exact hne (Prod.mk.inj hsplit).2.symm
  refine entryAt?_eq_some_iff.2 ⟨quote, x ++ r, y ++ r, ?_, ?_, ?_, ?_, ?_⟩
  · rw [splitQuote_append htne, hsplit, hshape]
  · rwa [hshape, List.head?_append_of_ne_nil _ hne]
  · rw [hshape, List.takeWhile_append, if_neg, hname]
    rw [hname]
    simp [hxne]
  · rw [stripLeft_append_right (by simp [hx]), hx, List.cons_append]
  · exact stripLeft_append_right hv r

/-- The lexemes of an entry are those in front of its value and those of the value. -/
theorem lexemes_of_entryAt? (h : entryAt? t = some (name, v)) :
    ∃ w, t = w ++ v ∧ ∀ r, lexemes (w ++ r) = lexemes w ++ lexemes r := by
  obtain ⟨quote, x, y, hsplit, -, hname, hx, rfl⟩ := entryAt?_eq_some_iff.1 h
  obtain ⟨rfl, hquote⟩ := splitQuote_eq hsplit
  have hchars : ∀ c ∈ name, (isIdentifierChar c || c = '-') = true := by
    intro c hc
    rw [← hname] at hc
    simpa using List.mem_takeWhile_imp hc
  obtain ⟨beforeColon, hbefore⟩ := exists_blank_stripLeft x
  obtain ⟨afterColon, hafter⟩ := exists_blank_stripLeft y
  have hcode : Code false (· == ',') (quote.toList ++ (name ++ quote.toList) ++
      (beforeColon.1 ++ ':' :: afterColon.1)) := by
    refine (code_quoted hchars hquote).append (code_blank_append beforeColon (code_colon
      (code_blank afterColon))) ?_
    exact apart_append_right (apart_blank_right beforeColon) fun _ => apart_of_head (by decide)
  refine ⟨_, ?_, fun r => hcode.lexemes_append (apart_of_getLast? ?_)⟩
  · conv_lhs => rw [hbefore, hx, hafter]
    simp
  · -- the last character is the colon or a blank
    intro hlast
    simp only [List.getLast?_append, List.getLast?_cons, Option.some_or] at hlast
    cases hend : afterColon.1.getLast? with
    | none =>
      rw [hend] at hlast
      exact absurd hlast (by decide)
    | some c =>
      rw [hend] at hlast
      have hblank := allBlank_eq_true_iff.1 afterColon.2 c (List.mem_of_getLast? hend)
      exact (not_slash_of_isBlank hblank).1 (Option.some.inj hlast)

/-- A key: its word, and the value behind a colon or from a parenthesis on. -/
theorem keyValue?_eq_some_iff : keyValue? key t = some v ↔ ∃ x y,
    t = key.word ++ x ∧ boundary key.word.getLast? x.head? = true ∧
      (stripLeft x = ':' :: y ∨ stripLeft x = y ∧ y.head? = some '(') ∧ strip y = v := by
  simp only [keyValue?, Option.bind_eq_bind, Option.bind_eq_some_iff, guard_eq_some_iff,
    dropPrefix?_eq_some_iff]
  constructor
  · rintro ⟨x, rfl, -, hend, h⟩
    split at h
    · next y hy => exact ⟨x, y, rfl, hend, .inl hy, Option.some.inj h⟩
    · next y hy => exact ⟨x, '(' :: y, rfl, hend, .inr ⟨hy, rfl⟩, Option.some.inj h⟩
    · cases h
  · rintro ⟨x, y, rfl, hend, hy, rfl⟩
    refine ⟨x, rfl, (), hend, ?_⟩
    rcases hy with hy | ⟨hy, hhead⟩
    · rw [hy]
      rfl
    · obtain ⟨y, rfl⟩ := List.head?_eq_some_iff.1 hhead
      rw [hy]
      rfl

/-- What stands behind a colon has no part in how the key is read. -/
theorem keyValue?_append (h : keyValue? key t = some v) :
    ∃ y, ∀ r, keyValue? key (t ++ r) = some (strip (y ++ r)) := by
  obtain ⟨x, y, rfl, hend, hy, rfl⟩ := keyValue?_eq_some_iff.1 h
  have hne : stripLeft x ≠ [] := by
    rcases hy with hy | ⟨rfl, hhead⟩
    · simp [hy]
    · intro hnil
      rw [hnil] at hhead
      cases hhead
  have hx : x ≠ [] := by
    rintro rfl
    exact hne rfl
  refine ⟨y, fun r => keyValue?_eq_some_iff.2 ⟨x ++ r, y ++ r, by rw [List.append_assoc], ?_, ?_, rfl⟩⟩
  · rwa [List.head?_append_of_ne_nil _ hx]
  · rw [stripLeft_append_right hne]
    rcases hy with hy | ⟨rfl, hhead⟩
    · exact .inl (by rw [hy, List.cons_append])
    · exact .inr ⟨rfl, by rw [List.head?_append, hhead]; rfl⟩

/-- A key that is read from a text and the blank or slash behind it is read from the text, unless this is
the word alone. -/
theorem keyValue?_of_append (hc : c = '/' ∨ c = ' ') (h : keyValue? key (t ++ c :: u) = some v) :
    keyValue? key t ≠ none ∨ c = ' ' ∧ ∃ blank : BlankText, t = key.word ++ blank.1 := by
  obtain ⟨x, y, hshape, hend, hy, rfl⟩ := keyValue?_eq_some_iff.1 h
  have hother : c ∉ key.word := by
    rcases hc with rfl | rfl <;> cases key <;> decide
  -- the word stands in the text in front
  obtain ⟨w, rfl, rfl⟩ : ∃ w, t = key.word ++ w ∧ x = w ++ c :: u := by
    rcases List.append_eq_append_iff.1 hshape with ⟨w, hword, hx⟩ | ⟨w, ht, hx⟩
    · cases w with
      | nil => exact ⟨[], by rw [hword, List.append_nil, List.append_nil], hx.symm⟩
      | cons d w =>
        obtain ⟨rfl, -⟩ := List.cons.inj hx
        exact absurd (by rw [hword]; simp) hother
    · exact ⟨w, ht, hx⟩
  by_cases hblank : w.allBlank = true
  · refine .inr ⟨?_, ⟨w, hblank⟩, rfl⟩
    rcases hc with rfl | rfl
    · rw [stripLeft_append hblank (by simp; decide)] at hy
      rcases hy with hy | ⟨rfl, hhead⟩
      · cases hy
      · cases hhead
    · rfl
  · have hne : stripLeft w ≠ [] := fun hnil => hblank (stripLeft_eq_nil_iff.1 hnil)
    have hw : w ≠ [] := by
      rintro rfl
      exact hne rfl
    rw [stripLeft_append_right hne] at hy
    rw [List.head?_append_of_ne_nil _ hw] at hend
    left
    rw [Option.ne_none_iff_exists']
    obtain ⟨d, z, hz⟩ := List.exists_cons_of_ne_nil hne
    rw [hz] at hy
    rcases hy with hy | ⟨rfl, hhead⟩
    · obtain ⟨rfl, -⟩ := List.cons.inj hy
      exact ⟨strip z, keyValue?_eq_some_iff.2 ⟨w, z, rfl, hend, .inl hz, rfl⟩⟩
    · obtain rfl := Option.some.inj hhead
      exact ⟨strip ('(' :: z), keyValue?_eq_some_iff.2 ⟨w, '(' :: z, rfl, hend, .inr ⟨hz, rfl⟩, rfl⟩⟩

/-- A text with one key has no other. -/
theorem keyValue?_of_ne {key' : Key} (h : key ≠ key') (t : Text) : keyValue? key (key'.word ++ t) = none := by
  rw [keyValue?, dropPrefix?_word, if_neg (Ne.symm h)]
  rfl

/-! ## Slashes -/

/-- Only quotes are taken off a value. -/
theorem count_unquote (hc : isBlank c = false) (hquote : isQuote c = false) (t : Text) :
    (unquote t).count c = t.count c := by
  rw [← count_strip hc t, unquote]
  rcases t.strip with _ | ⟨q, _ | ⟨d, t⟩⟩
  · rfl
  · rfl
  · show (if isQuote q && (d :: t).getLast? = some q then (d :: t).dropLast else q :: d :: t).count c = _
    split
    · next h =>
      rw [Bool.and_eq_true, decide_eq_true_eq] at h
      have hne : q ≠ c := by
        rintro rfl
        rw [h.1] at hquote
        cases hquote
      obtain ⟨front, hfront⟩ := List.getLast?_eq_some_iff.1 h.2
      rw [hfront, List.dropLast_concat, List.count_cons_of_ne hne, List.count_append,
        List.count_singleton]
      simp [hne]
    · rfl

/-- The type has the slashes of the value that gives it. -/
theorem count_type (definition : Text) :
    (readDefinition definition).1.count '/' = ((valueOf? .type definition).getD []).count '/' := by
  rw [readDefinition]
  have hany : "any".toList.count '/' = 0 := by decide
  rcases valueOf? .type definition with _ | _ | ⟨c, t⟩
  · exact hany
  · exact hany
  · rfl

/-- The default has the slashes of the value that gives it. -/
theorem count_default (definition : Text) :
    ((readDefinition definition).2.1.getD []).count '/' =
      ((valueOf? .default definition).getD []).count '/' := by
  rw [readDefinition]
  rcases valueOf? .default definition with _ | _ | ⟨c, t⟩
  · rfl
  · rfl
  · exact count_unquote (by decide) (by decide) (c :: t)

/-! ## The value of an entry -/

/-- A value that does not start with a brace is the type. -/
theorem readValue_shorthand (hc : isBlank c = false) (hbrace : c ≠ '{') (t : Text) :
    readValue (strip (c :: t)) = (strip (c :: t), none, false) := by
  have hlast : ∀ d, ([c] : Text).getLast? = some d → isBlank d = false := by
    intro d hd
    obtain rfl := Option.some.inj hd
    exact hc
  have hstrip : strip (c :: t) = c :: stripRight t := by
    rw [strip, stripLeft_eq_self (by simpa using hc)]
    exact stripRight_append_eq hlast t
  rw [hstrip]
  unfold readValue
  split
  · next he => cases he
  · next he => exact absurd (List.cons.inj he).1 hbrace
  · next he =>
    rw [he]

/-- An object of code between braces is read as what stands in it. -/
theorem readValue_braces (h : Code true (fun _ => false) t) :
    readValue ('{' :: (t ++ ['}'])) = readDefinition t := by
  have hblock : balancedBlock? ('{' :: (t ++ ['}'])) = some (t, []) := balancedBlock?_code h .curly []
  rw [readValue, hblock]

theorem strip_braces (t : Text) : strip ('{' :: (t ++ ['}'])) = '{' :: (t ++ ['}']) := by
  refine strip_eq_self (fun c hc => ?_) fun c hc => ?_
  · obtain rfl := Option.some.inj hc
    decide
  · rw [← List.cons_append, List.getLast?_concat] at hc
    obtain rfl := Option.some.inj hc
    decide

/-- What stands behind an entry's object has no part in it. -/
theorem readValue_of_balancedBlock? (h : balancedBlock? ('{' :: t) = some (definition, u)) (r : Text) :
    readValue (strip ('{' :: t ++ r)) = readDefinition definition := by
  obtain ⟨b, hshape, hblock⟩ := balancedBlock?_congr (stripRight (u ++ r)) h
  obtain ⟨hopen, rfl⟩ := List.cons.inj hshape
  have hlast : ∀ c, ('{' :: (definition ++ [b.closing])).getLast? = some c → isBlank c = false := by
    intro c hc
    rw [← List.cons_append, List.getLast?_concat] at hc
    obtain rfl := Option.some.inj hc
    cases b <;> decide
  have hstrip : strip ('{' :: (definition ++ b.closing :: u) ++ r) =
      '{' :: (definition ++ b.closing :: stripRight (u ++ r)) := by
    have hsplit : '{' :: (definition ++ b.closing :: u) ++ r =
        '{' :: (definition ++ [b.closing]) ++ (u ++ r) := by simp
    rw [strip, hsplit, List.cons_append, stripLeft_eq_self (by simp; decide), ← List.cons_append,
      stripRight_append_eq hlast]
    simp
  rw [← hopen] at hblock
  rw [hstrip, readValue, hblock]

end ComponentBook.ObjectDeclaration
