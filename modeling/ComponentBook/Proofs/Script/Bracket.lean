import ComponentBook.Proofs.Script.Code
import ComponentBook.Script.Place
import Mathlib.Data.List.TakeWhile

/-! # Brackets that are found

**`Encloses`** says of two places of a text, apart from the search for brackets, that a bracket opens at the
first and is closed at the second: a scan that starts behind the opening character arrives at the closing
one, and the lexemes on its way are well bracketed. The bracket that is found at a place is exactly the one
that stands there (**`blockAt?_encloses`**).

A search that has several brackets open leaves a trace of all of them (**`Unwinds`**). A lexeme is settled by
its own text and the character behind it (**`nextLexeme_congr`**); so what follows the closing character has
no part in the scan up to it (**`ScansTo.congr_rest`**) and may be any other text. -/

namespace ComponentBook.Script

open Text

variable {c d quote : Char} {b inner next outermost : Bracket} {around : List Bracket}
  {a s t x y body rest : Text} {l : Lexeme} {ls ms : List Lexeme} {place close : Nat}

/-! ## Where a lexeme ends -/

/-- Behind a lexeme with `x` behind it, `y` may stand instead: `y` is empty, or starts as `x` does, or opens no
comment there, and it is not the line feed in `x` that ends the lexeme. -/
def Replaces (y x : Text) : Prop :=
  ∀ e, y.head? = some e → x.head? = some e ∨ (∃ d, x.head? = some d ∧ d ≠ '\n') ∧ e ≠ '/' ∧ e ≠ '*'

theorem replaces_nil (x : Text) : Replaces [] x := by simp [Replaces]

theorem replaces_cons (d : Char) (x y : Text) : Replaces (d :: y) (d :: x) := fun _ he => .inl he

/-- At the end of a text nothing else may stand. -/
theorem Replaces.eq_nil (h : Replaces y []) : y = [] := by
  cases y with
  | nil => rfl
  | cons e y => rcases h e rfl with he | ⟨⟨d, hd, -⟩, -⟩ <;> contradiction

/-- For the end of a line only the end of a line may stand. -/
theorem Replaces.head_of_line (h : Replaces y x) (hx : ∀ d, x.head? = some d → d = '\n') :
    ∀ e, y.head? = some e → e = '\n' := by
  intro e he
  rcases h e he with hhead | ⟨⟨d, hd, hline⟩, -⟩
  · exact hx e hhead
  · exact absurd (hx d hd) hline

theorem Replaces.apart (h : Replaces y x) (hx : Apart a x) : Apart a y := by
  intro hlast e he
  rcases h e he with hhead | ⟨-, hopen⟩
  · exact hx hlast e hhead
  · exact hopen

/-- What stands behind a string literal has no part in where the literal ends, up to the end of the line. -/
theorem literalTail_congr (hy : Replaces y x) (hslash : quote ≠ '\\') (h : literalTail quote s = (a, x)) :
    literalTail quote (a ++ y) = (a, y) := by
  -- along the literal: the end of the text, an escaped character, the closing quote, the end of the line,
  -- any other character
  fun_induction literalTail quote s generalizing a with
  | case1 =>
    obtain ⟨rfl, rfl⟩ := Prod.mk.inj h
    rw [hy.eq_nil]
    rfl
  | case2 e t tail rest hrest ih =>
    obtain ⟨rfl, rfl⟩ := Prod.mk.inj h
    rw [List.cons_append, List.cons_append, literalTail, ih hrest]
  | case3 t =>
    obtain ⟨rfl, rfl⟩ := Prod.mk.inj h
    rw [List.singleton_append, literalTail, if_pos rfl]
    exact fun e u he => absurd he hslash
  | case4 e t hlone hquote hstop =>
    obtain ⟨rfl, rfl⟩ := Prod.mk.inj h
    have hline : e = '\n' := by
      rw [Bool.and_eq_true, decide_eq_true_eq] at hstop
      exact hstop.1
    have hhead := hy.head_of_line fun d hd => (Option.some.inj hd).symm.trans hline
    cases y with
    | nil => rfl
    | cons f y =>
      obtain rfl : f = e := (hhead f rfl).trans hline.symm
      rw [List.nil_append, literalTail, if_neg hquote, if_pos hstop]
      rw [hline]
      exact fun e' u he => absurd he (by decide)
  | case5 e t hlone hquote hstop tail rest hrest ih =>
    obtain ⟨rfl, rfl⟩ := Prod.mk.inj h
    by_cases he : e = '\\'
    · -- a backslash with nothing behind it
      obtain rfl : t = [] := by
        cases t with
        | nil => rfl
        | cons e' t => exact absurd rfl (hlone e' t he)
      obtain ⟨rfl, rfl⟩ := Prod.mk.inj hrest
      rw [hy.eq_nil, List.append_nil, literalTail, if_neg hquote, if_neg hstop, literalTail]
      exact fun e' u _ hnil => by cases hnil
    · rw [List.cons_append, literalTail, if_neg hquote, if_neg hstop, ih hrest]
      exact fun e' u he' => absurd he' he

/-- What stands behind a comment has no part in where the comment ends, up to the end of the line. -/
theorem comment?_congr (hy : Replaces y x) (h : comment? s = some (a, x)) :
    comment? (a ++ y) = some (a, y) := by
  unfold comment? at h
  split at h
  · next t =>
    obtain ⟨rfl, rfl⟩ := Prod.mk.inj (Option.some.inj h)
    -- a line comment with something behind it ends at a line feed
    have hend : ∀ d, (t.dropWhile (· ≠ '\n')).head? = some d → d = '\n' := by
      intro d hd
      have hnot := List.head?_dropWhile_not (fun c => decide (c ≠ '\n')) t
      rw [hd] at hnot
      simpa using hnot
    have hbody : ∀ c ∈ t.takeWhile (· ≠ '\n'), decide (c ≠ '\n') = true := by
      intro c hc
      simpa using List.mem_takeWhile_imp hc
    have hstop : ∀ e, y.head? = some e → decide (e ≠ '\n') = false := by
      intro e he
      simpa using hy.head_of_line hend e he
    rw [List.cons_append, List.cons_append, comment?, takeWhile_append_of_stop hbody hstop,
      dropWhile_append_of_stop hbody hstop]
  · next t =>
    split at h
    · next body rest hcut =>
      obtain ⟨rfl, rfl⟩ := Prod.mk.inj (Option.some.inj h)
      have hshape : '/' :: '*' :: body ++ "*/" ++ y = '/' :: '*' :: (body ++ ("*/" ++ y)) := by simp
      rw [hshape, comment?, cut?_congr y hcut]
    · next hcut =>
      obtain ⟨rfl, rfl⟩ := Prod.mk.inj (Option.some.inj h)
      rw [hy.eq_nil, List.append_nil, comment?, hcut]
  · cases h

/-- A character that starts no comment is apart from what follows. -/
theorem apart_of_comment? (h : comment? (c :: t) = none) : Apart [c] t := by
  intro hlast e he
  obtain rfl : c = '/' := by simpa using hlast
  cases t with
  | nil => cases he
  | cons d t =>
    obtain rfl : d = e := Option.some.inj he
    constructor
    · rintro rfl
      rw [comment?] at h
      cases h
    · rintro rfl
      rw [comment?] at h
      split at h <;> cases h

/-- A lexeme is settled by its own text and the character behind it. -/
theorem nextLexeme_congr (hy : Replaces y x) (h : nextLexeme c t = (l, x)) :
    ∃ u, l.text ++ y = c :: u ∧ nextLexeme c u = (l, y) := by
  have happ := nextLexeme_append c t
  have hne := nextLexeme_text_ne_nil c t
  rw [h] at happ hne
  unfold nextLexeme at h ⊢
  split at h
  · next hquote =>
    obtain ⟨rfl, hrest⟩ := Prod.mk.inj h
    have htail : literalTail c t = ((literalTail c t).1, x) := by rw [← hrest]
    refine ⟨(literalTail c t).1 ++ y, rfl, ?_⟩
    rw [if_pos hquote, literalTail_congr hy (isQuote_ne_backslash hquote) htail]
  · next hquote =>
    split at h
    · next a rest hcomment =>
      obtain ⟨rfl, rfl⟩ := Prod.mk.inj h
      cases a with
      | nil => exact absurd rfl hne
      | cons e a =>
        obtain ⟨rfl, -⟩ := List.cons.inj happ
        have hother := comment?_congr hy hcomment
        rw [List.cons_append] at hother
        refine ⟨a ++ y, rfl, ?_⟩
        rw [if_neg hquote, hother]
    · next hnone =>
      obtain ⟨rfl, rfl⟩ := Prod.mk.inj h
      -- whether a comment starts is told by the character behind this one
      refine ⟨y, rfl, ?_⟩
      rw [if_neg hquote, comment?_eq_none (hy.apart (apart_of_comment? hnone))]

/-! ## Scans -/

/-- A scan of a text reads some lexemes and arrives at the rest of the text. -/
inductive ScansTo : Text → List Lexeme → Text → Prop where
  /-- It has not yet read anything. -/
  | here (t : Text) : ScansTo t [] t
  /-- It reads a lexeme and goes on behind it. -/
  | next {c : Char} {t u : Text} {l : Lexeme} {ls : List Lexeme} {rest : Text} :
      nextLexeme c t = (l, u) → ScansTo u ls rest → ScansTo (c :: t) (l :: ls) rest

/-- What a scan reads stands in front of where it arrives. -/
theorem ScansTo.eq_append (h : ScansTo t ls rest) : t = textOf ls ++ rest := by
  induction h with
  | here t => rfl
  | @next c t u l ls rest hnext _ ih =>
    have happ := nextLexeme_append c t
    rw [hnext] at happ
    rw [textOf_cons, List.append_assoc, ← ih, happ]

theorem ScansTo.lexemes_eq (h : ScansTo t ls rest) : lexemes t = ls ++ lexemes rest := by
  induction h with
  | here t => rfl
  | next hnext _ ih => rw [lexemes, hnext, ih, List.cons_append]

/-- A scan arrives at the text of the lexemes that it has not read. -/
theorem scansTo_of_lexemes (h : lexemes t = ls ++ ms) : ScansTo t ls (textOf ms) := by
  induction ls generalizing t with
  | nil =>
    rw [List.nil_append] at h
    rw [← h, textOf_lexemes]
    exact .here t
  | cons l ls ih =>
    cases t with
    | nil =>
      rw [lexemes] at h
      cases h
    | cons c t =>
      rw [lexemes, List.cons_append] at h
      obtain ⟨rfl, hrest⟩ := List.cons.inj h
      exact .next rfl (ih hrest)

/-- What stands behind the place at which a scan arrives has no part in it, up to the character there. -/
theorem ScansTo.congr_rest (hy : Replaces y x) (h : ScansTo t ls x) : ScansTo (textOf ls ++ y) ls y := by
  induction h with
  | here t => exact .here y
  | @next c t u l ls rest hnext hscan ih =>
    -- the lexemes still to be read give the character behind this one
    have hbehind : Replaces (textOf ls ++ y) u := by
      rw [hscan.eq_append]
      cases textOf ls with
      | nil => exact hy
      | cons e v => exact replaces_cons e (v ++ rest) (v ++ y)
    obtain ⟨s, hs, hread⟩ := nextLexeme_congr hbehind hnext
    rw [textOf_cons, List.append_assoc, hs]
    exact .next hread (ih hy)

/-! ## The search for the closing bracket -/

/-- Lexemes in front of the character that closes the outermost one of some open brackets: the others are
closed on the way, and in between the lexemes are well bracketed. The innermost open bracket is given
apart from those around it. -/
inductive Unwinds (outermost : Bracket) : Bracket → List Bracket → List Lexeme → Prop where
  /-- Only the outermost bracket is open. -/
  | last {ls : List Lexeme} : WellBracketed ls → Unwinds outermost outermost [] ls
  /-- The innermost bracket is closed first. -/
  | close {inner next : Bracket} {around : List Bracket} {ls ms : List Lexeme} : WellBracketed ls →
      Unwinds outermost next around ms →
      Unwinds outermost inner (next :: around) (ls ++ .mark inner.closing :: ms)

/-- A well-bracketed part in front changes nothing. -/
theorem Unwinds.append (hls : WellBracketed ls) (h : Unwinds outermost inner around ms) :
    Unwinds outermost inner around (ls ++ ms) := by
  cases h with
  | last hms => exact .last (hls.append hms)
  | close hms hrest =>
    rw [← List.append_assoc]
    exact .close (hls.append hms) hrest

theorem Unwinds.plain (hl : l.IsPlain) (h : Unwinds outermost inner around ls) :
    Unwinds outermost inner around (l :: ls) :=
  h.append (.plain hl .nil)

/-- An opening character in front opens one more bracket. -/
theorem Unwinds.opening (h : Unwinds outermost b (inner :: around) ls) :
    Unwinds outermost inner around (.mark b.opening :: ls) := by
  cases h with
  | @close _ _ _ ls ms hls hms =>
    have hshape : Lexeme.mark b.opening :: (ls ++ .mark b.closing :: ms) =
        (.mark b.opening :: ls ++ .mark b.closing :: []) ++ ms := by simp
    rw [hshape]
    exact hms.append (.block b hls .nil)

/-- A lexeme that has been passed over stands in front of what is found behind it. -/
theorem exists_cons_of_map {body rest : List Lexeme} {found : Option (List Lexeme × List Lexeme)}
    (h : (found.map fun o => (l :: o.1, o.2)) = some (body, rest)) :
    ∃ inside, body = l :: inside ∧ found = some (inside, rest) := by
  obtain ⟨⟨inside, behind⟩, hfound, he⟩ := Option.map_eq_some_iff.1 h
  obtain ⟨rfl, rfl⟩ := Prod.mk.inj he
  exact ⟨inside, rfl, hfound⟩

/-- What the search for the end of a bracket passes over, and the character at which it ends. -/
theorem unwinds_of_blockTail? {body rest : List Lexeme} (h : blockTail? inner around ls = some (body, rest)) :
    ∃ outermost, Unwinds outermost inner around body ∧
      ls = body ++ .mark outermost.closing :: rest := by
  -- along the search: an opening character, a plain one, the last closing one, another closing one, one
  -- that closes nothing, and a literal or a comment
  fun_induction blockTail? inner around ls generalizing body with
  | case1 => cases h
  | case2 inner around ls c b hopen ih =>
    obtain ⟨inside, rfl, hfound⟩ := exists_cons_of_map h
    obtain ⟨outermost, hinside, rfl⟩ := ih hfound
    obtain rfl := Bracket.eq_opening_of_ofOpening? hopen
    exact ⟨outermost, hinside.opening, by simp⟩
  | case3 inner around ls c hopen hclose ih =>
    obtain ⟨inside, rfl, hfound⟩ := exists_cons_of_map h
    obtain ⟨outermost, hinside, rfl⟩ := ih hfound
    exact ⟨outermost, hinside.plain ⟨hopen, hclose⟩, by simp⟩
  | case4 c ls _ b hclose =>
    obtain ⟨rfl, rfl⟩ := Prod.mk.inj (Option.some.inj h)
    obtain rfl := Bracket.eq_closing_of_ofClosing? hclose
    exact ⟨b, .last .nil, by simp⟩
  | case5 c ls _ b hclose inner around ih =>
    obtain ⟨inside, rfl, hfound⟩ := exists_cons_of_map h
    obtain ⟨outermost, hinside, rfl⟩ := ih hfound
    obtain rfl := Bracket.eq_closing_of_ofClosing? hclose
    exact ⟨outermost, hinside.close .nil, by simp⟩
  | case6 => cases h
  | case7 inner around l ls hmark ih =>
    obtain ⟨inside, rfl, hfound⟩ := exists_cons_of_map h
    obtain ⟨outermost, hinside, rfl⟩ := ih hfound
    have hplain : l.IsPlain := by
      cases l with
      | literal t => trivial
      | comment t => trivial
      | mark c => exact absurd rfl (hmark c)
    exact ⟨outermost, hinside.plain hplain, by simp⟩

/-- **The end of a bracket** is found exactly where the lexemes up to it are well bracketed. -/
theorem blockTail?_eq_some_iff {body rest : List Lexeme} :
    blockTail? b [] ls = some (body, rest) ↔ WellBracketed body ∧ ls = body ++ .mark b.closing :: rest := by
  constructor
  · intro h
    obtain ⟨outermost, hbody, rfl⟩ := unwinds_of_blockTail? h
    cases hbody with
    | last hbody => exact ⟨hbody, rfl⟩
  · rintro ⟨hbody, rfl⟩
    rw [blockTail?_append hbody]
    simp [blockTail?]

/-- A text starts with a bracket that is closed in order, a scan going through what is inside. -/
theorem balancedBlock?_eq_some_iff :
    balancedBlock? t = some (body, rest) ↔ ∃ (b : Bracket) (ls : List Lexeme),
      t = b.opening :: (body ++ b.closing :: rest) ∧
        ScansTo (body ++ b.closing :: rest) ls (b.closing :: rest) ∧ WellBracketed ls := by
  constructor
  · intro h
    cases t with
    | nil => cases h
    | cons c t =>
      rw [balancedBlock?] at h
      split at h
      · cases h
      · next b hopen =>
        obtain ⟨⟨inside, behind⟩, hfound, he⟩ := Option.map_eq_some_iff.1 h
        obtain ⟨rfl, rfl⟩ := Prod.mk.inj he
        obtain ⟨hinside, hlexemes⟩ := blockTail?_eq_some_iff.1 hfound
        have hscan := scansTo_of_lexemes hlexemes
        have htext : t = textOf inside ++ b.closing :: textOf behind := hscan.eq_append
        refine ⟨b, inside, ?_, htext ▸ hscan, hinside⟩
        rw [Bracket.eq_opening_of_ofOpening? hopen, ← htext]
  · rintro ⟨b, ls, rfl, hscan, hls⟩
    have hlexemes := hscan.lexemes_eq
    rw [lexemes_closing] at hlexemes
    have hbody : textOf ls = body := List.append_cancel_right hscan.eq_append.symm
    rw [balancedBlock?, Bracket.ofOpening?_opening]
    dsimp only
    rw [blockTail?_eq_some_iff.2 ⟨hls, hlexemes⟩]
    simp [hbody, textOf_lexemes]

/-- A bracket is found when a scan of what is inside arrives at its closing character. -/
theorem balancedBlock?_opening_iff (b : Bracket) :
    balancedBlock? (b.opening :: (body ++ b.closing :: rest)) = some (body, rest) ↔
      ∃ ls, ScansTo (body ++ b.closing :: rest) ls (b.closing :: rest) ∧ WellBracketed ls := by
  rw [balancedBlock?_eq_some_iff]
  constructor
  · rintro ⟨other, ls, ht, h⟩
    obtain rfl : b = other := by
      have hopening := congrArg Bracket.ofOpening? (List.cons.inj ht).1
      rw [Bracket.ofOpening?_opening, Bracket.ofOpening?_opening] at hopening
      exact Option.some.inj hopening
    exact ⟨ls, h⟩
  · rintro ⟨ls, h⟩
    exact ⟨b, ls, rfl, h⟩

/-- What stands inside a bracket that is found stands in the text. -/
theorem infix_of_balancedBlock? (h : balancedBlock? t = some (body, rest)) : body <:+: t := by
  obtain ⟨b, ls, rfl, -⟩ := balancedBlock?_eq_some_iff.1 h
  exact ⟨[b.opening], b.closing :: rest, by simp⟩

/-- What follows a bracket has no part in it. -/
theorem balancedBlock?_congr (other : Text) (h : balancedBlock? t = some (body, rest)) :
    ∃ b : Bracket, t = b.opening :: (body ++ b.closing :: rest) ∧
      balancedBlock? (b.opening :: (body ++ b.closing :: other)) = some (body, other) := by
  obtain ⟨b, ls, ht, hscan, hls⟩ := balancedBlock?_eq_some_iff.1 h
  have hbody : textOf ls = body := List.append_cancel_right hscan.eq_append.symm
  have hother := hscan.congr_rest (replaces_cons b.closing rest other)
  rw [hbody] at hother
  exact ⟨b, ht, balancedBlock?_eq_some_iff.2 ⟨b, ls, rfl, hother, hls⟩⟩

/-! ## The bracket at a place -/

/-- The bracket `b` opens at one place of a text and is closed at another one, with the text `body` between
them. -/
structure Encloses (b : Bracket) (t : Text) (place : Nat) (body : Text) (close : Nat) : Prop where
  /-- The opening character stands at the first place. -/
  opening : t[place]? = some b.opening
  /-- The closing character of the same bracket stands at the second one. -/
  closing : t[close]? = some b.closing
  /-- The body is the text between the two. -/
  inside : (t.take close).drop (place + 1) = body
  /-- A scan from behind the first place arrives at the second one, and what it reads is well bracketed when
  literals and comments are left aside. -/
  scanned : ∃ ls, ScansTo (t.drop (place + 1)) ls (t.drop close) ∧ WellBracketed ls

/-- The text behind the first and from the last character of a part that starts at a place. -/
theorem drop_of_drop_eq (h : t.drop place = c :: (body ++ d :: rest)) :
    t.drop (place + 1) = body ++ d :: rest ∧ t.drop (place + 1 + body.length) = d :: rest := by
  have hbehind : t.drop (place + 1) = body ++ d :: rest := by
    rw [← List.drop_drop, h]
    rfl
  refine ⟨hbehind, ?_⟩
  rw [← List.drop_drop, hbehind, List.drop_left]

/-- From an opening place on, the text is the bracket and what stands behind it. -/
theorem Encloses.drop_eq (h : Encloses b t place body close) :
    close = place + 1 + body.length ∧
      t.drop place = b.opening :: (body ++ b.closing :: t.drop (close + 1)) := by
  obtain ⟨hplace, hopening⟩ := List.getElem?_eq_some_iff.1 h.opening
  obtain ⟨hclose, hclosing⟩ := List.getElem?_eq_some_iff.1 h.closing
  obtain ⟨ls, hscan, -⟩ := h.scanned
  have hbehind := hscan.eq_append
  -- what the scan reads reaches from the one place to the other
  have hlength : close = place + 1 + (textOf ls).length := by
    have hsum := congrArg List.length hbehind
    simp only [List.length_append, List.length_drop] at hsum
    omega
  have hbody : textOf ls = body := by
    rw [← h.inside, List.drop_take, hbehind, List.take_left']
    omega
  rw [hbody] at hlength hbehind
  refine ⟨hlength, ?_⟩
  rw [List.drop_eq_getElem_cons hplace, hopening, hbehind, List.drop_eq_getElem_cons hclose, hclosing]

/-- A bracket stands at a place exactly when the text from there on starts with one that is found. -/
theorem exists_encloses_iff : (∃ b, Encloses b t place body close) ↔
    close = place + 1 + body.length ∧ ∃ rest, balancedBlock? (t.drop place) = some (body, rest) := by
  constructor
  · rintro ⟨b, h⟩
    obtain ⟨rfl, hdrop⟩ := h.drop_eq
    obtain ⟨hbehind, hend⟩ := drop_of_drop_eq hdrop
    obtain ⟨ls, hscan, hls⟩ := h.scanned
    rw [hbehind, hend] at hscan
    exact ⟨rfl, _, balancedBlock?_eq_some_iff.2 ⟨b, ls, hdrop, hscan, hls⟩⟩
  · rintro ⟨rfl, rest, h⟩
    obtain ⟨b, ls, hdrop, hscan, hls⟩ := balancedBlock?_eq_some_iff.1 h
    obtain ⟨hbehind, hend⟩ := drop_of_drop_eq hdrop
    refine ⟨b, ?_, ?_, ?_, ls, ?_, hls⟩
    · rw [← List.head?_drop, hdrop]
      rfl
    · rw [← List.head?_drop, hend]
      rfl
    · rw [List.drop_take, hbehind, List.take_left']
      omega
    · rwa [hbehind, hend]

theorem blockAt?_eq_some_iff {stop : Int} : blockAt? t place = some (body, stop) ↔
    stop = (place + 1 + body.length : Nat) + 1 ∧
      ∃ rest, balancedBlock? (t.drop place) = some (body, rest) := by
  rw [blockAt?, if_neg (by omega), Int.toNat_natCast, Option.map_eq_some_iff]
  constructor
  · rintro ⟨⟨body, rest⟩, h, he⟩
    obtain ⟨rfl, rfl⟩ := Prod.mk.inj he
    exact ⟨by omega, rest, h⟩
  · rintro ⟨rfl, rest, h⟩
    refine ⟨(body, rest), h, ?_⟩
    dsimp only
    rw [Prod.mk.injEq]
    exact ⟨rfl, by omega⟩

/-- **The bracket at a place.** What is found at a place is the text between the opening character there and
the character that closes it, with the place behind that one; nothing is found where no bracket opens or the
one that opens is not closed in order. The text behind the bracket may be any other. -/
theorem blockAt?_encloses (t : Text) (place : Nat) :
    (∀ (body : Text) (stop : Int), blockAt? t place = some (body, stop) ↔
      ∃ (b : Bracket) (close : Nat), Encloses b t place body close ∧ stop = close + 1) ∧
    (blockAt? t place = none ↔ ∀ b body close, ¬ Encloses b t place body close) ∧
    ∀ (body : Text) (stop : Int), blockAt? t place = some (body, stop) →
      ∀ other : Text, blockAt? (t.take stop.toNat ++ other) place = some (body, stop) := by
  have hfound (body : Text) (stop : Int) : blockAt? t place = some (body, stop) ↔
      ∃ (b : Bracket) (close : Nat), Encloses b t place body close ∧ stop = close + 1 := by
    rw [blockAt?_eq_some_iff]
    constructor
    · rintro ⟨rfl, h⟩
      obtain ⟨b, hb⟩ := exists_encloses_iff.2 ⟨rfl, h⟩
      exact ⟨b, _, hb, rfl⟩
    · rintro ⟨b, close, hb, rfl⟩
      obtain ⟨rfl, h⟩ := exists_encloses_iff.1 ⟨b, hb⟩
      exact ⟨rfl, h⟩
  refine ⟨hfound, ?_, ?_⟩
  · rw [Option.eq_none_iff_forall_ne_some]
    constructor
    · intro h b body close hb
      exact h _ ((hfound body (close + 1)).2 ⟨b, close, hb, rfl⟩)
    · rintro h ⟨body, stop⟩ hsome
      obtain ⟨b, close, hb, -⟩ := (hfound body stop).1 hsome
      exact h b body close hb
  · intro body stop h other
    rw [blockAt?_eq_some_iff] at h ⊢
    obtain ⟨rfl, rest, h⟩ := h
    obtain ⟨b, hdrop, hother⟩ := balancedBlock?_congr other h
    refine ⟨rfl, other, ?_⟩
    have hplace : (t.take place).length = place := by
      rw [List.length_take_of_le]
      by_contra hle
      rw [List.drop_of_length_le (by omega)] at hdrop
      cases hdrop
    -- the text up to the place behind the bracket ends with the bracket
    have htext : t.take place ++ b.opening :: (body ++ [b.closing]) ++ rest = t := by
      rw [List.append_assoc, List.cons_append, List.append_assoc, List.singleton_append, ← hdrop,
        List.take_append_drop]
    have hfront : t.take (((place + 1 + body.length : Nat) : Int) + 1).toNat =
        t.take place ++ b.opening :: (body ++ [b.closing]) := by
      conv_lhs => rw [← htext]
      apply List.take_left'
      simp only [List.length_append, List.length_cons, List.length_nil, hplace]
      omega
    have hshape : t.take place ++ b.opening :: (body ++ [b.closing]) ++ other =
        t.take place ++ b.opening :: (body ++ b.closing :: other) := by simp
    rw [hfront, hshape, List.drop_left' hplace]
    exact hother

/-- The arguments of a call with a parenthesis in a string are found whatever follows the call. -/
theorem blockAt?_callArguments :
    blockAt? "f([1, ')'])" (1 : Nat) = some ("[1, ')']".toList, 11) ∧
      ∀ other : Text, blockAt? ("f([1, ')'])" ++ other) (1 : Nat) = some ("[1, ')']".toList, 11) := by
  have h : blockAt? "f([1, ')'])" (1 : Nat) = some ("[1, ')']".toList, 11) := by decide +kernel
  exact ⟨h, (blockAt?_encloses "f([1, ')'])" 1).2.2 _ _ h⟩

end ComponentBook.Script
