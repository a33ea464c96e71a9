import ComponentBook.Proofs.Property.DefaultExpression
import ComponentBook.Proofs.Property.MemberText

/-! # Values behind a name

The default that is assigned to a name is looked for without regard to brackets: at any place where the name
stands with a colon and is no part of another name (**`valueHere?_ne_none_iff`**). What is read there goes up to
the next quote, or up to a comma, a line feed, a closing brace or a semicolon (**`valueAt?_cases`**). So an
expression is read as what it stands for when it is a literal without its own quote in it, or when none of these
characters stands in it (**`valueAt?_iff_readsAs`**), and an expression that holds the name with a colon is taken
for an entry (`Offers`, **`passes_expression`**). -/

namespace ComponentBook.AssignedDefault

open Script Text ObjectDeclaration InterfaceDeclaration

variable {before : Option Char} {c d : Char} {contents name rest s t u value : Text}

/-! ## What stands at a place -/

theorem joinsName_of_isBlank (h : isBlank c = true) : joinsName c = false := by
  have hno : ∀ d, isBlank d = false → c ≠ d := by
    rintro d hd rfl
    rw [h] at hd
    cases hd
  simp [joinsName, isWord_of_isBlank h, hno '$' (by decide), hno '.' (by decide), hno '?' (by decide)]

theorem joinsName_of_isIdentifierChar (h : isIdentifierChar c = true) : joinsName c = true := by
  rw [joinsName, ← isIdentifierChar, h]
  rfl

/-- The characters that no value starts with. -/
def stops : List Char := [',', '{', '}', ';']

/-- A character in front of the end of a value without quotes. -/
def goesOn (d : Char) : Bool := !(d = ',' || d = '\n' || d = '}' || d = ';')

/-- A character in front of the end of a value between quotes. -/
def isInside (quote d : Char) : Bool := d ≠ quote && d ≠ '\n'

/-- The value that is read at the start of a text, for an entry whose name and colon stand in front. -/
def valueAt? : Text → Option Text
  | [] => none
  | c :: t => do
    let inside := t.takeWhile (isInside c)
    if isQuote c && (t.drop inside.length).head? = some c then some inside
    else
      guard (!(c = ',' || c = '{' || c = '}' || c = ';'))
      return strip (c :: t.takeWhile goesOn)

theorem valueHere?_eq (name : Text) (before : Option Char) (t : Text) : valueHere? name before t = (do
    guard (!before.any joinsName)
    let t ← dropPrefix? name t
    let t ← dropPrefix? ":" (stripLeft t)
    valueAt? (stripLeft t)) := rfl

theorem takeWhile_isInside (h : ∀ d ∈ contents, isInside c d = true) (t : Text) :
    (contents ++ c :: t).takeWhile (isInside c) = contents := by
  refine takeWhile_append_of_stop h fun d hd => ?_
  obtain rfl : c = d := Option.some.inj hd
  simp [isInside]

/-- A value that starts with a quote is what stands up to the next one, on the same line. -/
theorem valueAt?_quoted (hquote : isQuote c = true) (h : ∀ d ∈ contents, isInside c d = true) (t : Text) :
    valueAt? (c :: (contents ++ c :: t)) = some contents := by
  have hinside := takeWhile_isInside h t
  simp only [valueAt?, hinside, hquote, List.drop_left, List.head?_cons, decide_true, Bool.and_self, if_true]

theorem isQuote_of_mem_stops (h : c ∈ stops) : isQuote c = false := by
  revert c
  decide

theorem not_mem_stops_iff : c ∉ stops ↔ (!(c = ',' || c = '{' || c = '}' || c = ';')) = true := by
  simp [stops, and_assoc]

/-- Any other value goes up to the next comma, line feed, closing brace or semicolon. -/
theorem valueAt?_plain (hquote : isQuote c = false) (hstop : c ∉ stops) (t : Text) :
    valueAt? (c :: t) = some (strip (c :: t.takeWhile goesOn)) := by
  rw [not_mem_stops_iff] at hstop
  simp only [valueAt?, hquote, Bool.false_and, hstop]
  rfl

/-- Some value is read unless one of these characters stands there. -/
theorem valueAt?_eq_none_iff : valueAt? (c :: t) = none ↔ c ∈ stops := by
  simp only [valueAt?]
  split
  · next h =>
    rw [Bool.and_eq_true] at h
    constructor
    · intro hnone
      cases hnone
    · intro hstop
      rw [isQuote_of_mem_stops hstop] at h
      cases h.1
  · rw [← not_iff_not, not_mem_stops_iff]
    cases !(c = ',' || c = '{' || c = '}' || c = ';') <;> simp [guard]

/-- What a value that is read is: the text between two quotes, else the text up to the next character at which
a value ends. -/
theorem valueAt?_cases (h : valueAt? (c :: t) = some value) :
    (isQuote c = true ∧ (∀ d ∈ value, isInside c d = true) ∧ ∃ rest, t = value ++ c :: rest) ∨
    (c ∉ stops ∧ value = strip (c :: t.takeWhile goesOn) ∧ ∀ contents rest, isQuote c = true →
      (∀ d ∈ contents, isInside c d = true) → t ≠ contents ++ c :: rest) := by
  simp only [valueAt?] at h
  split at h
  · next hclosed =>
    obtain rfl := Option.some.inj h
    rw [Bool.and_eq_true, decide_eq_true_eq] at hclosed
    obtain ⟨hquote, hclosed⟩ := hclosed
    obtain ⟨rest, hrest⟩ := List.head?_eq_some_iff.1 hclosed
    have hprefix := List.prefix_iff_eq_append.1 (List.takeWhile_prefix (isInside c) (l := t))
    rw [hrest] at hprefix
    exact .inl ⟨hquote, fun d hd => List.mem_takeWhile_imp hd, rest, hprefix.symm⟩
  · next hclosed =>
    simp only [Option.bind_eq_bind, Option.bind_eq_some_iff, guard_eq_some_iff, Option.pure_def,
      Option.some.injEq] at h
    obtain ⟨-, hstop, rfl⟩ := h
    refine .inr ⟨not_mem_stops_iff.2 hstop, rfl, ?_⟩
    rintro contents rest hquote hinside rfl
    rw [takeWhile_isInside hinside, hquote, List.drop_left] at hclosed
    exact hclosed (by simp)

/-- The name with a colon, and something behind it that a value may start with. -/
def OpensEntry (name t : Text) : Prop :=
  ∃ (beforeColon afterColon : BlankText) (c : Char) (rest : Text),
    t = name ++ (beforeColon.1 ++ ':' :: (afterColon.1 ++ c :: rest)) ∧ isBlank c = false ∧ c ∉ stops

theorem OpensEntry.append (h : OpensEntry name t) (r : Text) : OpensEntry name (t ++ r) := by
  obtain ⟨beforeColon, afterColon, c, rest, rfl, hc, hstop⟩ := h
  exact ⟨beforeColon, afterColon, c, rest ++ r, by simp, hc, hstop⟩

theorem OpensEntry.ne_nil (h : OpensEntry name t) : t ≠ [] := by
  obtain ⟨_, _, _, _, rfl, _⟩ := h
  simp

/-- Behind its name and its colon the value of an entry is read. -/
theorem valueHere?_entry (hbefore : before.any joinsName = false) (name : Text) (beforeColon afterColon : BlankText)
    (hc : isBlank c = false) (t : Text) :
    valueHere? name before (name ++ (beforeColon.1 ++ ':' :: (afterColon.1 ++ c :: t))) = valueAt? (c :: t) := by
  have hcolon : stripLeft (beforeColon.1 ++ ':' :: (afterColon.1 ++ c :: t)) = ":" ++ (afterColon.1 ++ c :: t) :=
    stripLeft_append_cons (by decide) _ _
  rw [valueHere?_eq, hbefore]
  simp only [dropPrefix?_append, hcolon, stripLeft_append_cons hc, Option.bind_eq_bind, Option.bind_some]
  rfl

theorem valueHere?_ne_none_iff :
    valueHere? name before t ≠ none ↔ before.any joinsName = false ∧ OpensEntry name t := by
  constructor
  · intro h
    obtain ⟨value, hvalue⟩ := Option.ne_none_iff_exists'.1 h
    simp only [valueHere?_eq, Option.bind_eq_bind, Option.bind_eq_some_iff, guard_eq_some_iff,
      dropPrefix?_eq_some_iff] at hvalue
    obtain ⟨-, hbefore, u, rfl, v, hcolon, hvalue⟩ := hvalue
    obtain ⟨beforeColon, hu⟩ := exists_blank_stripLeft u
    obtain ⟨afterColon, hv⟩ := exists_blank_stripLeft v
    cases hstart : stripLeft v with
    | nil =>
      rw [hstart] at hvalue
      cases hvalue
    | cons c w =>
      have hc : isBlank c = false := by
        have hnot := List.head?_dropWhile_not isBlank v
        rw [← stripLeft, hstart] at hnot
        simpa using hnot
      have hstop : c ∉ stops := by
        rw [← valueAt?_eq_none_iff (t := w), ← hstart, hvalue]
        simp
      refine ⟨by simpa using hbefore, beforeColon, afterColon, c, w, ?_, hc, hstop⟩
      rw [← hstart, ← hv, hu, hcolon]
      rfl
  · rintro ⟨hbefore, beforeColon, afterColon, c, w, rfl, hc, hstop⟩
    rw [valueHere?_entry hbefore name beforeColon afterColon hc, Ne, valueAt?_eq_none_iff]
    exact hstop

/-! ## Expressions that are read -/

/-- What an expression is read as, if it is read to its end. -/
inductive ReadsAs (t : Text) : Text → Prop where
  /-- A string literal without its quote and without line feeds in it. -/
  | literal {quote : Char} {contents : Text} : isQuote quote = true →
      (∀ d ∈ contents, isInside quote d = true) → t = quote :: (contents ++ [quote]) → ReadsAs t contents
  /-- An expression on one line, without commas, semicolons and braces, that starts with no quote. -/
  | plain {c : Char} {rest : Text} : isQuote c = false → c ∉ stops →
      (∀ d ∈ rest, goesOn d = true) → t = c :: rest → ReadsAs t t

/-- Without its quote inside, an expression between equal quotes is one literal. -/
theorem isLiteral_of_code (hcode : Code false (· == ',') (c :: (contents ++ [c]))) (hquote : isQuote c = true)
    (h : ∀ d ∈ contents, isInside c d = true) : IsLiteral contents (c :: (contents ++ [c])) := by
  obtain ⟨tail, rest, hsplit, htail, -⟩ := hcode.exists_literal hquote
  obtain ⟨inner, rfl⟩ := htail.exists_concat
  -- the literal ends at the first quote behind the opening one, which is the last character
  obtain rfl : rest = [] := by
    obtain hnil | ⟨front, last, hrest⟩ := List.eq_nil_or_concat rest
    · exact hnil
    · rw [hrest, List.concat_eq_append, ← List.append_assoc] at hsplit
      have hin : c ∈ contents := by
        rw [(List.append_inj' hsplit rfl).1]
        simp
      simpa [isInside] using h c hin
  rw [List.append_nil] at hsplit
  obtain rfl := (List.append_inj' hsplit rfl).1
  exact ⟨c, hquote, htail, rfl⟩

/-- A literal does not start with its own quote. -/
theorem not_literalTail_cons_self (hquote : isQuote c = true) (hne : t ≠ []) : ¬ LiteralTail c (c :: t) := by
  generalize hshape : c :: t = u
  intro h
  cases h with
  | close =>
    obtain ⟨-, hnil⟩ := List.cons.inj hshape
    exact hne hnil
  | escape d =>
    obtain ⟨rfl, -⟩ := List.cons.inj hshape
    exact absurd hquote (by decide)
  | char _ hother =>
    obtain ⟨he, -⟩ := List.cons.inj hshape
    exact hother he.symm

/-- A literal on one line is closed by the first quote behind the opening one, or ends behind it. -/
theorem exists_first_quote (hcode : Code false (· == ',') (c :: t)) (hquote : isQuote c = true) (hfeed : '\n' ∉ t) :
    ∃ contents rest, (∀ d ∈ contents, isInside c d = true) ∧ t = contents ++ c :: rest := by
  obtain ⟨tail, later, rfl, htail, -⟩ := hcode.exists_literal hquote
  obtain ⟨inner, rfl⟩ := htail.exists_concat
  have hin : c ∈ inner ++ [c] ++ later := by simp
  obtain ⟨contents, rest, hsplit, hno⟩ := List.eq_append_cons_of_mem hin
  refine ⟨contents, rest, fun d hd => ?_, hsplit⟩
  have hline : d ≠ '\n' := by
    rintro rfl
    exact hfeed (hsplit ▸ List.mem_append_left _ hd)
  simp [isInside, ne_of_mem_of_not_mem hd hno, hline]

/-- Behind an expression that goes on to its end only blank characters are taken along. -/
theorem exists_takeWhile_goesOn (h : ∀ c ∈ t, goesOn c = true) (behind : BlankText) (hd : d = ',' ∨ d = '}')
    (rest : Text) : ∃ blank : BlankText, (t ++ (behind.1 ++ d :: rest)).takeWhile goesOn = t ++ blank.1 := by
  refine ⟨⟨behind.1.takeWhile goesOn, ?_⟩, ?_⟩
  · exact allBlank_eq_true_iff.2 fun c hc => allBlank_eq_true_iff.1 behind.2 c (List.takeWhile_subset _ hc)
  · rw [List.takeWhile_append_of_pos h, takeWhile_append_cons_of_neg]
    rcases hd with rfl | rfl <;> decide

/-- **Which expressions are read as what they stand for** when they are the value of an entry. -/
theorem valueAt?_iff_readsAs (hexpr : IsExpression t) (behind : BlankText) (hd : d = ',' ∨ d = '}') (rest : Text) :
    (valueAt? (t ++ (behind.1 ++ d :: rest)) = some value ∧ IsValueOf t value) ↔ ReadsAs t value := by
  have hcode := hexpr.code
  have htrim := hexpr.trimmed
  obtain ⟨c, u, rfl⟩ := List.exists_cons_of_ne_nil hexpr.ne_nil
  have hc : isBlank c = false := head?_strip_not_blank (t := c :: u) (by rw [htrim]; rfl)
  constructor
  · rintro ⟨hread, hvalue⟩
    rcases valueAt?_cases hread with ⟨hquote, hinside, -⟩ | ⟨hstop, hread, hclosed⟩
    · cases hvalue with
      | contents hliteral =>
        obtain ⟨quote, -, -, hshape⟩ := hliteral
        obtain ⟨rfl, rfl⟩ := List.cons.inj hshape
        exact .literal hquote hinside rfl
      | whole => simpa [isInside] using hinside c List.mem_cons_self
    · -- what is read starts with the first character
      rw [strip_cons hc] at hread
      cases hvalue with
      | contents hliteral =>
        obtain ⟨quote, hquote, htail, hshape⟩ := hliteral
        obtain ⟨rfl, rfl⟩ := List.cons.inj hshape
        rw [hread, List.cons_append] at htail
        exact absurd htail (not_literalTail_cons_self hquote (by simp))
      | whole =>
        have hplain : ∀ e ∈ u, goesOn e = true := by
          intro e he
          rw [(List.cons.inj hread).2] at he
          exact List.mem_takeWhile_imp ((List.rdropWhile_prefix isBlank _).subset he)
        refine .plain ?_ hstop hplain rfl
        -- a quote would be closed on the line
        rw [Bool.eq_false_iff]
        intro hquote
        have hfeed : '\n' ∉ u := fun hin => absurd (hplain '\n' hin) (by decide)
        obtain ⟨contents, later, hinside, rfl⟩ := exists_first_quote hcode hquote hfeed
        exact hclosed contents (later ++ (behind.1 ++ d :: rest)) hquote hinside (by simp)
  · intro h
    cases h with
    | @literal quote contents hquote hplain hshape =>
      obtain ⟨rfl, rfl⟩ := List.cons.inj hshape
      constructor
      · rw [List.cons_append, List.append_assoc]
        exact valueAt?_quoted hquote hplain _
      · exact .contents (isLiteral_of_code hcode hquote hplain)
    | @plain c' u' hquote hstop hplain hshape =>
      obtain ⟨rfl, rfl⟩ := List.cons.inj hshape
      constructor
      · obtain ⟨blank, htake⟩ := exists_takeWhile_goesOn hplain behind hd rest
        rw [List.cons_append, valueAt?_plain hquote hstop, htake, ← List.cons_append,
          strip_append_blank blank.2, htrim]
      · refine .whole ?_
        rintro contents ⟨quote, hquote', -, hliteral⟩
        obtain ⟨rfl, -⟩ := List.cons.inj hliteral
        rw [hquote'] at hquote
        cases hquote

/-! ## Places in front of an entry -/

/-- Somewhere in a text the name stands with a colon and something that a value may start with, and no character
in front makes it part of another name. -/
def Offers (t name : Text) : Prop :=
  ∃ x y, t = x ++ y ∧ x.getLast?.any joinsName = false ∧ OpensEntry name y

/-- What a text offers is found by a search. -/
theorem offers_iff : Offers t name ↔ (search (valueHere? name) none t).isSome = true := by
  rw [Option.isSome_iff_ne_none, Ne, search_eq_none_iff]
  simp only [Option.or_none, not_forall, ← Ne.eq_def, valueHere?_ne_none_iff, exists_prop]
  rfl

instance decidableOffers (t name : Text) : Decidable (Offers t name) := decidable_of_iff _ offers_iff.symm

/-- At no place of `s`, with `t` behind it, a value is read for the name. -/
def Passes (name s t : Text) : Prop :=
  ∀ (before : Option Char) (x y : Text), s = x ++ y → y ≠ [] →
    valueHere? name (x.getLast?.or before) (y ++ t) = none

theorem Passes.append (hs : Passes name s (u ++ t)) (hu : Passes name u t) : Passes name (s ++ u) t := by
  intro before x y hxy hy
  rcases List.append_eq_append_iff.1 hxy with ⟨a, rfl, rfl⟩ | ⟨a, rfl, rfl⟩
  · rw [List.getLast?_append, Option.or_assoc]
    exact hu (s.getLast?.or before) a y rfl hy
  · by_cases ha : a = []
    · have hhere := hu ((x ++ a).getLast?.or before) [] u rfl (by simpa [ha] using hy)
      simpa [ha] using hhere
    · rw [List.append_assoc]
      exact hs before x a rfl ha

/-- A name does not start at a character that stands in no name. -/
theorem passes_of_no_name (hname : IsIdentifier name) (h : ∀ c ∈ s, isIdentifierChar c = false) (t : Text) :
    Passes name s t := by
  intro before x y hxy hy
  by_contra hread
  obtain ⟨-, beforeColon, afterColon, d, rest, hopen, -⟩ := valueHere?_ne_none_iff.1 hread
  obtain ⟨c, y, rfl⟩ := List.exists_cons_of_ne_nil hy
  obtain ⟨e, name, rfl, he⟩ := hname.exists_cons
  obtain rfl : c = e := (List.cons.inj hopen).1
  rw [h c (by simp [hxy])] at he
  cases he

theorem passes_blank (hname : IsIdentifier name) (blank : BlankText) (t : Text) : Passes name blank.1 t :=
  passes_of_no_name hname
    (fun _ hc => not_isIdentifierChar_of_isBlank (allBlank_eq_true_iff.1 blank.2 _ hc)) t

theorem passes_mark (hname : IsIdentifier name) (hc : isIdentifierChar c = false) (t : Text) :
    Passes name [c] t :=
  passes_of_no_name hname (List.forall_mem_singleton.2 hc) t

/-- Behind blanks and a colon no name goes on. -/
theorem head_of_colon (blank : BlankText) (t : Text) :
    ∀ c, (blank.1 ++ ':' :: t).head? = some c → isIdentifierChar c = false := by
  obtain ⟨blank, hblank⟩ := blank
  intro c hc
  cases blank with
  | nil =>
    obtain rfl : ':' = c := Option.some.inj hc
    decide
  | cons d blank =>
    obtain rfl : d = c := Option.some.inj hc
    exact not_isIdentifierChar_of_isBlank (allBlank_eq_true_iff.1 hblank d List.mem_cons_self)

/-- Another name is passed over: as a whole it is another one, and its characters belong together. -/
theorem passes_name {other : Text} (hname : IsIdentifier name) (hother : IsIdentifier other)
    (hne : other ≠ name) (blank : BlankText) (t : Text) : Passes name other (blank.1 ++ ':' :: t) := by
  intro before x y hxy hy
  by_contra hread
  obtain ⟨hjoins, beforeColon, afterColon, d, rest, hopen, -⟩ := valueHere?_ne_none_iff.1 hread
  obtain rfl | ⟨front, last, rfl⟩ := List.eq_nil_or_concat x
  · obtain rfl : other = y := hxy
    have htake := congrArg (List.takeWhile isIdentifierChar) hopen
    rw [takeWhile_append_of_stop hother.2 (head_of_colon blank t),
      takeWhile_append_of_stop hname.2 (head_of_colon beforeColon _)] at htake
    exact hne htake
  · have hlast : isIdentifierChar last = true := hother.2 last (by simp [hxy])
    rw [List.concat_eq_append, List.getLast?_concat] at hjoins
    have hjoin := joinsName_of_isIdentifierChar hlast
    simp [hjoin] at hjoins

/-- A text without `d` whose last character is not blank does not reach into blanks with `d` behind them. -/
theorem prefix_of_prefix_behind (hd : d ∉ s) (hlast : ∀ c, s.getLast? = some c → isBlank c = false)
    (behind : BlankText) (h : s <+: t ++ (behind.1 ++ d :: rest)) : s <+: t := by
  rcases List.prefix_or_prefix_of_prefix h (List.prefix_append t _) with hin | ⟨w, rfl⟩
  · exact hin
  · obtain rfl : w = [] := by
      by_contra hne
      have hbehind : w <+: behind.1 ++ d :: rest := (List.prefix_append_right_inj t).1 h
      have hshort : behind.1 ++ [d] <+: behind.1 ++ d :: rest := ⟨rest, by simp⟩
      have hnot : ¬ behind.1 ++ [d] <+: w := fun hin => hd (List.mem_append_right _ (hin.subset (by simp)))
      have hin : w <+: behind.1 := by
        rcases List.prefix_or_prefix_of_prefix hbehind hshort with hin | hin
        · rcases List.prefix_concat_iff.1 hin with rfl | hin
          · exact absurd List.prefix_rfl hnot
          · exact hin
        · exact absurd hin hnot
      obtain ⟨c, hc⟩ : ∃ c, w.getLast? = some c := ⟨_, List.getLast?_eq_some_getLast hne⟩
      have hblank := allBlank_eq_true_iff.1 behind.2 c (hin.subset (List.mem_of_getLast? hc))
      rw [hlast c (by rw [List.getLast?_append_of_ne_nil _ hne, hc])] at hblank
      cases hblank
    rw [List.append_nil]

/-- A name with a colon and the start of a value in front of blanks and a comma or closing brace does not reach
over these. -/
theorem OpensEntry.of_append (hname : IsIdentifier name) (behind : BlankText) (hd : d = ',' ∨ d = '}')
    (h : OpensEntry name (t ++ (behind.1 ++ d :: rest))) : OpensEntry name t := by
  obtain ⟨beforeColon, afterColon, c, r, hopen, hc, hstop⟩ := h
  have hmark : isIdentifierChar d = false ∧ isBlank d = false ∧ d ≠ ':' ∧ d ∈ stops := by
    rcases hd with rfl | rfl <;> decide
  obtain ⟨hother, hfilled, hcolon, hstops⟩ := hmark
  have hblank (blank : BlankText) : d ∉ blank.1 := by
    intro hin
    rw [allBlank_eq_true_iff.1 blank.2 d hin] at hfilled
    cases hfilled
  have hnot : d ∉ name := by
    intro hin
    rw [hname.2 d hin] at hother
    cases hother
  -- no comma and no brace stands up to the start of the value
  have hno : d ∉ name ++ (beforeColon.1 ++ ':' :: afterColon.1) ++ [c] := by
    simp [hnot, hblank, hcolon, ne_of_mem_of_not_mem hstops hstop]
  have hlast : ∀ e, (name ++ (beforeColon.1 ++ ':' :: afterColon.1) ++ [c]).getLast? = some e →
      isBlank e = false := by
    intro e he
    rw [List.getLast?_concat] at he
    obtain rfl : c = e := Option.some.inj he
    exact hc
  obtain ⟨r', hr⟩ := prefix_of_prefix_behind hno hlast behind ⟨r, by rw [hopen]; simp⟩
  exact ⟨beforeColon, afterColon, c, r', by rw [← hr]; simp, hc, hstop⟩

/-- An expression that does not offer a value for the name is passed over. -/
theorem passes_expression (hname : IsIdentifier name) (h : ¬ Offers t name) (behind : BlankText)
    (hd : d = ',' ∨ d = '}') (rest : Text) : Passes name t (behind.1 ++ d :: rest) := by
  intro before x y hxy hy
  by_contra hread
  obtain ⟨hjoins, hopen⟩ := valueHere?_ne_none_iff.1 hread
  refine h ⟨x, y, hxy, ?_, hopen.of_append hname behind hd⟩
  cases hlast : x.getLast? with
  | none => rfl
  | some c => rwa [hlast] at hjoins

end ComponentBook.AssignedDefault
