import ComponentBook.Proofs.Script.Bracket

/-! # Reading from place to place

The scans of a script are defined over its lexemes. Here they are written as the loops that hold a place of
the text, look at the character there and move on: by one character, behind a string literal
(**`skipLiteral?`**) or behind a comment (**`commentEnd`**). A **`Loop`** is given a number of rounds; it lists
the places at which it looks, and it comes to nothing when a character outside the text is read, when the rounds
do not suffice, or when it cannot do what it does at a character, as when the innermost one of no open brackets is
asked for.

A round moves on behind the lexeme that stands at the place (**`Loop.round_eq`**). So a loop that may have as many
rounds as there are characters goes through the lexemes of the text, at places that grow and stay inside
(**`Loop.exists_visited`**). The three scans of a script are such loops, and each of them gives what the scan over
the lexemes gives (**`scans_advance`**). -/

namespace ComponentBook.Script

open Text

variable {σ ρ : Type} {isSeparator : Char → Bool} {c quote : Char} {t rest : Text} {l : Lexeme}
  {ls : List Lexeme} {rounds place start index : Nat}

/-! ## Places in a text -/

theorem exists_drop_eq_cons (h : place < t.length) :
    ∃ c, t[place]? = some c ∧ t.drop place = c :: t.drop (place + 1) :=
  ⟨t[place], List.getElem?_eq_getElem h, List.drop_eq_getElem_cons h⟩

theorem getElem?_of_drop_eq_cons (h : t.drop place = c :: rest) : place < t.length ∧ t[place]? = some c := by
  have hc : t[place]? = some c := by
    rw [← List.head?_drop, h]
    rfl
  exact ⟨(List.getElem?_eq_some_iff.1 hc).1, hc⟩

theorem drop_add_length {a : Text} (h : t.drop place = a ++ rest) : t.drop (place + a.length) = rest := by
  rw [← List.drop_drop, h, List.drop_left]

theorem add_length_le {a : Text} (h : t.drop place = a ++ rest) (hplace : place ≤ t.length) :
    place + a.length ≤ t.length := by
  have hlength := congrArg List.length h
  rw [List.length_drop, List.length_append] at hlength
  omega

/-- What stands between two places goes on with the text that stands at the second one. -/
theorem slice_append {a : Text} (h : t.drop place = a ++ rest) (hstart : start ≤ place)
    (hplace : place ≤ t.length) : (t.take (place + a.length)).drop start = (t.take place).drop start ++ a := by
  rw [List.take_add, h, List.take_left, List.drop_append_of_le_length]
  rwa [List.length_take_of_le hplace]

/-! ## Literals and comments -/

/-- The place behind a string literal, from a place inside the literal on. -/
def literalEnd? (t : Text) (quote : Char) : (rounds place : Nat) → Option Nat
  | 0, place => if place < t.length then none else some t.length
  | rounds + 1, place =>
    if place < t.length then
      match t[place]? with
      | none => none
      | some c =>
        if c = '\\' then literalEnd? t quote rounds (place + 2)
        else if c = quote then some (place + 1)
        else if c = '\n' && quote ≠ backquote then some place
        else literalEnd? t quote rounds (place + 1)
    else some t.length

/-- The place behind the string literal at a place. -/
def skipLiteral? (t : Text) (place : Nat) : Option Nat :=
  match t[place]? with
  | none => none
  | some quote => literalEnd? t quote t.length (place + 1)

/-- The first place from `start` on at which `needle` stands. -/
def findFrom? (needle t : Text) (start : Nat) : Option Nat :=
  (cut? needle (t.drop start)).map fun found => start + found.1.length

/-- The place behind the comment at a place, and the place itself when no comment stands there. -/
def commentEnd (t : Text) (place : Nat) : Nat :=
  if "//".toList.isPrefixOf (t.drop place) then (findFrom? "\n" t place).getD t.length
  else if "/*".toList.isPrefixOf (t.drop place) then
    ((findFrom? "*/" t (place + 2)).map (· + 2)).getD t.length
  else place

theorem literalTail_backslash (hslash : quote ≠ '\\') : literalTail quote ['\\'] = (['\\'], []) := by
  rw [literalTail, if_neg hslash.symm, if_neg (by simp), literalTail]
  exact fun _ _ _ hnil => by cases hnil

theorem literalTail_char (hback : c ≠ '\\') (t : Text) : literalTail quote (c :: t) =
    if c = quote then ([c], t)
    else if c = '\n' && quote ≠ backquote then ([], c :: t)
    else (c :: (literalTail quote t).1, (literalTail quote t).2) := by
  rw [literalTail]
  exact fun _ _ he => absurd he hback

/-- Past the end of the text nothing is left to read. -/
theorem literalEnd?_of_le (h : t.length ≤ place) : literalEnd? t quote rounds place =
    some (min place t.length + (literalTail quote (t.drop place)).1.length) := by
  rw [List.drop_of_length_le h, Nat.min_eq_right h]
  cases rounds <;> rw [literalEnd?, if_neg (by omega)] <;> rfl

/-- A literal is read to its end, also when a backslash at the end of the text leads past it. -/
theorem literalEnd?_eq (hslash : quote ≠ '\\') (h : t.length - place ≤ rounds) :
    literalEnd? t quote rounds place =
      some (min place t.length + (literalTail quote (t.drop place)).1.length) := by
  induction rounds generalizing place with
  | zero => exact literalEnd?_of_le (by omega)
  | succ rounds ih =>
    rcases Nat.lt_or_ge place t.length with hplace | hplace
    · obtain ⟨c, hc, hdrop⟩ := exists_drop_eq_cons hplace
      rw [literalEnd?, if_pos hplace, hc, hdrop, Nat.min_eq_left hplace.le]
      dsimp only
      by_cases hback : c = '\\'
      · subst hback
        rw [if_pos rfl, ih (by omega)]
        cases hbehind : t.drop (place + 1) with
        | nil =>
          -- nothing follows the backslash, and the scan goes two places on, past the end
          have hend := List.drop_eq_nil_iff.1 hbehind
          rw [List.drop_of_length_le (by omega), literalTail_backslash hslash, Nat.min_eq_right (by omega)]
          congr 1
          exact le_antisymm hend hplace
        | cons d u =>
          -- the character behind the backslash is passed over with it
          have htwo : t.drop place = ['\\', d] ++ u := by rw [hdrop, hbehind]; rfl
          have hlater : t.drop (place + 2) = u := drop_add_length htwo
          have hle : place + 2 ≤ t.length := add_length_le htwo hplace.le
          rw [hlater, Nat.min_eq_left hle, literalTail]
          simp only [List.length_cons]
          congr 1
          omega
      · rw [literalTail_char hback, if_neg hback]
        split
        · rfl
        · split
          · rfl
          · rw [ih (by omega), Nat.min_eq_left hplace, List.length_cons]
            congr 1
            omega
    · exact literalEnd?_of_le hplace

/-- The place behind a literal is behind its quote and its tail. -/
theorem skipLiteral?_eq (h : t.drop place = quote :: rest) (hquote : isQuote quote = true) :
    skipLiteral? t place = some (place + (quote :: (literalTail quote rest).1).length) := by
  obtain ⟨hplace, hc⟩ := getElem?_of_drop_eq_cons h
  have hrest : t.drop (place + 1) = rest := drop_add_length (a := [quote]) h
  rw [skipLiteral?, hc, ← hrest]
  dsimp only
  rw [literalEnd?_eq (isQuote_ne_backslash hquote) (by omega), Nat.min_eq_left hplace, List.length_cons]
  congr 1
  omega

/-- The place behind a comment is behind its text. -/
theorem commentEnd_of_some {a : Text} (h : comment? (t.drop place) = some (a, rest)) (hplace : place ≤ t.length) :
    commentEnd t place = place + a.length := by
  have hlength : place + (t.drop place).length = t.length := by
    rw [List.length_drop]
    omega
  unfold comment? at h
  split at h
  · next u hdrop =>
    obtain ⟨rfl, -⟩ := Prod.mk.inj (Option.some.inj h)
    -- the line feed is looked for from the slashes on
    have hline := length_cut?_singleton '\n' ('/' :: '/' :: u)
    rw [List.takeWhile_cons_of_pos (by decide), List.takeWhile_cons_of_pos (by decide)] at hline
    rw [commentEnd, if_pos (by rw [hdrop]; simp), findFrom?, ← hline, ← hlength, hdrop]
    show ((cut? ['\n'] _).map _).getD _ = _
    cases cut? ['\n'] ('/' :: '/' :: u) <;> rfl
  · next u hdrop =>
    have hbehind : t.drop (place + 2) = u := drop_add_length (a := ['/', '*']) hdrop
    rw [commentEnd, if_neg (by rw [hdrop]; simp), if_pos (by rw [hdrop]; simp), findFrom?, hbehind,
      ← hlength, hdrop]
    split at h
    · next body behind hcut =>
      obtain ⟨rfl, -⟩ := Prod.mk.inj (Option.some.inj h)
      rw [hcut]
      simp
      omega
    · next hcut =>
      obtain ⟨rfl, -⟩ := Prod.mk.inj (Option.some.inj h)
      rw [hcut]
      rfl
  · cases h

/-- Where no comment stands, none is passed over. -/
theorem commentEnd_of_none (h : comment? (t.drop place) = none) : commentEnd t place = place := by
  rw [commentEnd, if_neg, if_neg]
  · intro hstart
    obtain ⟨u, hu⟩ := List.isPrefixOf_iff_prefix.1 hstart
    rw [← hu] at h
    change comment? ('/' :: '*' :: u) = none at h
    rw [comment?] at h
    split at h <;> cases h
  · intro hstart
    obtain ⟨u, hu⟩ := List.isPrefixOf_iff_prefix.1 hstart
    rw [← hu] at h
    cases h

/-! ## Loops -/

/-- What a loop does with a character: it goes on with a state or is done with a result. -/
inductive Turn (σ ρ : Type) where
  /-- It goes on. -/
  | onward (state : σ)
  /-- It is done. -/
  | done (result : ρ)

/-- A loop over the places of a text that leaves string literals and comments aside. -/
structure Loop (σ ρ : Type) where
  /-- What it does with any other character at a place; nothing when it cannot. -/
  onMark : σ → Nat → Char → Option (Turn σ ρ)
  /-- Its result at the end of the text. -/
  atEnd : σ → ρ

/-- One round of a loop at a place inside the text, with the place at which it goes on. -/
def Loop.round (loop : Loop σ ρ) (t : Text) (place : Nat) (state : σ) : Option (Turn (Nat × σ) ρ) :=
  match t[place]? with
  | none => none
  | some c =>
    if isQuote c then (skipLiteral? t place).map fun stop => .onward (stop, state)
    else if commentEnd t place ≠ place then some (.onward (commentEnd t place, state))
    else match loop.onMark state place c with
      | none => none
      | some (.onward state) => some (.onward (place + 1, state))
      | some (.done result) => some (.done result)

/-- The places at which a loop looks, and its result. -/
def Loop.run (loop : Loop σ ρ) (t : Text) : (rounds place : Nat) → σ → Option (List Nat × ρ)
  | 0, place, state => if place < t.length then none else some ([], loop.atEnd state)
  | rounds + 1, place, state =>
    if place < t.length then
      match loop.round t place state with
      | none => none
      | some (.onward (next, state)) =>
        (loop.run t rounds next state).map fun (visited, result) => (place :: visited, result)
      | some (.done result) => some ([place], result)
    else some ([], loop.atEnd state)

/-- What a loop does with a lexeme. -/
def Loop.onLexeme (loop : Loop σ ρ) (state : σ) (place : Nat) : Lexeme → Option (Turn σ ρ)
  | .mark c => loop.onMark state place c
  | _ => some (.onward state)

/-- The result of a loop over lexemes, the first of which stands at a place. -/
def Loop.overLexemes (loop : Loop σ ρ) (place : Nat) (state : σ) : List Lexeme → Option ρ
  | [] => some (loop.atEnd state)
  | l :: ls =>
    match loop.onLexeme state place l with
    | none => none
    | some (.onward state) => loop.overLexemes (place + l.text.length) state ls
    | some (.done result) => some result

/-- Places that are looked at from a place on: they grow, they are inside the text, and there are no more of
them than characters. -/
structure Ascends (t : Text) (start : Nat) (visited : List Nat) : Prop where
  /-- Each place is behind the one before it. -/
  increasing : visited.Pairwise (· < ·)
  /-- No place is in front of the first one or outside the text. -/
  inside : ∀ place ∈ visited, start ≤ place ∧ place < t.length
  /-- There are no more places than characters. -/
  length_le : visited.length ≤ t.length - start

/-- **A round** treats the lexeme at a place and goes on behind it. -/
theorem Loop.round_eq (loop : Loop σ ρ) (h : t.drop place = c :: rest) (state : σ) :
    loop.round t place state =
      match loop.onLexeme state place (nextLexeme c rest).1 with
      | none => none
      | some (.onward state) => some (.onward (place + (nextLexeme c rest).1.text.length, state))
      | some (.done result) => some (.done result) := by
  obtain ⟨hplace, hc⟩ := getElem?_of_drop_eq_cons h
  rw [round, hc]
  dsimp only
  unfold nextLexeme
  by_cases hquote : isQuote c = true
  · rw [if_pos hquote, if_pos hquote, skipLiteral?_eq h hquote]
    rfl
  · rw [if_neg hquote, if_neg hquote]
    cases hcomment : comment? (c :: rest) with
    | none =>
      -- no comment leads on from here, and the character is a mark
      rw [← h] at hcomment
      rw [commentEnd_of_none hcomment, if_neg (by simp)]
      rfl
    | some found =>
      have hpos := List.length_pos_iff.2 (ne_nil_of_comment? hcomment)
      rw [← h] at hcomment
      rw [commentEnd_of_some hcomment hplace.le, if_pos (by omega)]
      rfl

/-- Nothing is looked at. -/
theorem Ascends.nil (t : Text) (start : Nat) : Ascends t start [] :=
  ⟨.nil, by simp, Nat.zero_le _⟩

/-- A place in front of the others is looked at first. -/
theorem Ascends.cons {visited : List Nat} {next : Nat} (h : Ascends t next visited) (hplace : place < t.length)
    (hnext : place < next) (hle : next ≤ t.length) : Ascends t place (place :: visited) := by
  refine ⟨.cons (fun p hp => hnext.trans_le (h.inside p hp).1) h.increasing, ?_, ?_⟩
  · intro p hp
    rcases List.mem_cons.1 hp with rfl | hlater
    · exact ⟨le_rfl, hplace⟩
    · exact ⟨hnext.le.trans (h.inside p hlater).1, (h.inside p hlater).2⟩
  · have hlength := h.length_le
    rw [List.length_cons]
    omega

/-- At the end of the text no lexeme is left. -/
theorem Loop.run_of_le (loop : Loop σ ρ) (h : t.length ≤ place) (state : σ) :
    loop.run t rounds place state =
      (loop.overLexemes place state (lexemes (t.drop place))).map fun result => ([], result) := by
  rw [List.drop_of_length_le h, lexemes]
  cases rounds <;> rw [run, if_neg (by omega)] <;> rfl

/-- **A run** that may have a round for each character goes through the lexemes of the text, at growing places
inside the text. -/
theorem Loop.exists_visited (loop : Loop σ ρ) (h : t.length - place ≤ rounds) (state : σ) :
    ∃ visited, Ascends t place visited ∧ loop.run t rounds place state =
      (loop.overLexemes place state (lexemes (t.drop place))).map fun result => (visited, result) := by
  induction rounds generalizing place state with
  | zero => exact ⟨[], .nil t place, loop.run_of_le (by omega) state⟩
  | succ rounds ih =>
    rcases Nat.lt_or_ge place t.length with hplace | hplace
    · obtain ⟨c, -, hdrop⟩ := exists_drop_eq_cons hplace
      have happ := hdrop.trans (nextLexeme_append c (t.drop (place + 1))).symm
      have hpos := List.length_pos_iff.2 (nextLexeme_text_ne_nil c (t.drop (place + 1)))
      have hle := add_length_le happ hplace.le
      have hbehind := drop_add_length happ
      rw [run, if_pos hplace, loop.round_eq hdrop, hdrop, lexemes, overLexemes, ← hbehind]
      generalize (nextLexeme c (t.drop (place + 1))).1 = l at hpos hle ⊢
      cases loop.onLexeme state place l with
      | none => exact ⟨[], .nil t place, rfl⟩
      | some turn =>
        cases turn with
        | done result => exact ⟨[place], (Ascends.nil t _).cons hplace (Nat.lt_succ_self place) hplace, rfl⟩
        | onward next =>
          -- the next round finds what the lexeme leaves
          have hrounds : t.length - (place + l.text.length) ≤ rounds := by omega
          obtain ⟨visited, hvisited, hrun⟩ := ih hrounds next
          refine ⟨place :: visited, hvisited.cons hplace (by omega) hle, ?_⟩
          dsimp only
          rw [hrun, Option.map_map]
          rfl
    · exact ⟨[], .nil t place, loop.run_of_le hplace state⟩

/-! ## The three scans -/

/-- The search for the end of the bracket whose inside starts at `start`. Its state are the open brackets, the
innermost one on top; only when one is open there is a top to look at. -/
def blockLoop (t : Text) (start : Nat) : Loop (List Bracket) (Option (Text × Int)) where
  onMark stack place c :=
    match Bracket.ofOpening? c, Bracket.ofClosing? c with
    | some b, _ => some (.onward (b :: stack))
    | none, none => some (.onward stack)
    | none, some b =>
      match stack with
      | [] => none
      | top :: around =>
        if b ≠ top then some (.done none)
        else if around = [] then some (.done (some ((t.take place).drop start, place + 1)))
        else some (.onward around)
  atEnd _ := none

/-- The places at which the search for the end of a bracket looks, and what it finds. -/
def scanBlock? (t : Text) (index : Nat) : Option (List Nat × Option (Text × Int)) :=
  if t.length ≤ index then some ([], none)
  else match t[index]? with
    | none => none
    | some c =>
      match Bracket.ofOpening? c with
      | none => some ([], none)
      | some b => (blockLoop t (index + 1)).run t t.length (index + 1) [b]

/-- The segments that are found, the number of open brackets, and the place at which the next segment starts. -/
structure Splitting where
  /-- The segments in front of the next one. -/
  segments : List Segment
  /-- The number of open brackets. -/
  depth : Nat
  /-- The place at which the next segment starts. -/
  start : Nat

/-- The search for separators outside all brackets. -/
def splitLoop (isSeparator : Char → Bool) (t : Text) : Loop Splitting (List Segment) where
  onMark s place c := some <| .onward <|
    if (Bracket.ofOpening? c).isSome then { s with depth := s.depth + 1 }
    else if (Bracket.ofClosing? c).isSome then { s with depth := s.depth - 1 }
    else if isSeparator c && s.depth = 0 then
      { s with segments := s.segments ++ [⟨s.start, (t.take place).drop s.start⟩], start := place + 1 }
    else s
  atEnd s := s.segments ++ [⟨s.start, t.drop s.start⟩]

/-- The places at which the search for separators looks, and the segments that are not blank. -/
def scanSegments? (isSeparator : Char → Bool) (t : Text) : Option (List Nat × List Segment) :=
  ((splitLoop isSeparator t).run t t.length 0 ⟨[], 0, 0⟩).map fun (visited, segments) =>
    (visited, segments.filter fun s => !s.text.allBlank)

/-- The count of braces. -/
def braceLoop : Loop Int Int where
  onMark delta _ c := some <| .onward <|
    if c = '{' then delta + 1 else if c = '}' then delta - 1 else delta
  atEnd delta := delta

/-- The places at which the count of braces looks, and the count. -/
def scanBraces? (t : Text) : Option (List Nat × Int) := braceLoop.run t t.length 0 0

/-- The text from `start` to the closing character behind some lexemes that stand at a place, and the place behind
that character. -/
def blockTo (t : Text) (start place : Nat) (body : List Lexeme) : Text × Int :=
  ((t.take (place + (textOf body).length)).drop start, ((place + (textOf body).length : Nat) : Int) + 1)

/-- A lexeme that is passed over moves the place. -/
theorem map_blockTo_cons (t : Text) (start place : Nat) (l : Lexeme) (found : Option (List Lexeme × List Lexeme)) :
    (found.map fun (body, rest) => (l :: body, rest)).map (fun o => blockTo t start place o.1) =
      found.map fun o => blockTo t start (place + l.text.length) o.1 := by
  cases found with
  | none => rfl
  | some found => simp [blockTo, Nat.add_assoc]

/-- The search for the end of a bracket finds what the search among the lexemes finds. Some bracket is open from
the first round to the last. -/
theorem overLexemes_blockLoop (t : Text) (start place : Nat) (inner : Bracket) (around : List Bracket)
    (ls : List Lexeme) : (blockLoop t start).overLexemes place (inner :: around) ls =
      some ((blockTail? inner around ls).map fun o => blockTo t start place o.1) := by
  -- along the search: an opening character, a plain one, the last closing one, another closing one, one
  -- that closes nothing, and a literal or a comment
  fun_induction blockTail? inner around ls generalizing place with
  | case1 => rfl
  | case2 inner around ls c b hopen ih =>
    rw [map_blockTo_cons, ← ih]
    simp [Loop.overLexemes, Loop.onLexeme, blockLoop, hopen]
  | case3 inner around ls c hopen hclose ih =>
    rw [map_blockTo_cons, ← ih]
    simp [Loop.overLexemes, Loop.onLexeme, blockLoop, hopen, hclose]
  | case4 c ls hopen b hclose =>
    simp [Loop.overLexemes, Loop.onLexeme, blockLoop, blockTo, hopen, hclose]
  | case5 c ls hopen b hclose inner around ih =>
    rw [map_blockTo_cons, ← ih]
    simp [Loop.overLexemes, Loop.onLexeme, blockLoop, hopen, hclose]
  | case6 inner around ls c hopen b hclose hother =>
    simp [Loop.overLexemes, Loop.onLexeme, blockLoop, hopen, hclose, hother]
  | case7 inner around l ls hmark ih =>
    rw [map_blockTo_cons, ← ih]
    cases l with
    | literal u => rfl
    | comment u => rfl
    | mark c => exact absurd rfl (hmark c)

/-- The search for the end of a bracket finds it, in rounds at growing places. -/
theorem exists_scanBlock? (t : Text) (index : Nat) :
    ∃ visited, Ascends t (index + 1) visited ∧ scanBlock? t index = some (visited, blockAt? t index) := by
  rw [blockAt?, if_neg (by omega), Int.toNat_natCast]
  rcases Nat.lt_or_ge index t.length with hindex | hindex
  · obtain ⟨c, hc, hdrop⟩ := exists_drop_eq_cons hindex
    rw [scanBlock?, if_neg (by omega), hc, hdrop, balancedBlock?]
    dsimp only
    cases hopen : Bracket.ofOpening? c with
    | none => exact ⟨[], .nil t _, rfl⟩
    | some b =>
      obtain ⟨visited, hvisited, hrun⟩ :=
        (blockLoop t (index + 1)).exists_visited (Nat.sub_le t.length (index + 1)) [b]
      refine ⟨visited, hvisited, ?_⟩
      dsimp only
      rw [hrun, overLexemes_blockLoop]
      cases hfound : blockTail? b [] (lexemes (t.drop (index + 1))) with
      | none => rfl
      | some found =>
        -- what was passed over stands behind the opening character
        have hscan := (scansTo_of_lexemes (blockTail?_eq_some_iff.1 hfound).2).eq_append
        have hbody : (t.take (index + 1 + (textOf found.1).length)).drop (index + 1) = textOf found.1 := by
          rw [slice_append hscan le_rfl hindex, List.drop_of_length_le (List.length_take_le _ _), List.nil_append]
        simp [blockTo, hbody]
        omega
  · refine ⟨[], .nil t _, ?_⟩
    rw [scanBlock?, if_pos hindex, List.drop_of_length_le hindex]
    rfl

/-- A lexeme that does not separate leaves the segments as they are. -/
theorem onLexeme_splitLoop {s : Splitting} (h : l.separates isSeparator s.depth = false) :
    (splitLoop isSeparator t).onLexeme s place l = some (.onward { s with depth := l.depthAfter s.depth }) := by
  cases l with
  | literal u => rfl
  | comment u => rfl
  | mark c =>
    simp only [Loop.onLexeme, splitLoop, Lexeme.depthAfter]
    split
    · rfl
    · next hopen =>
      split
      · rfl
      · next hclose =>
        rw [if_neg]
        intro hsep
        rw [Bool.and_eq_true, decide_eq_true_eq] at hsep
        simp [Lexeme.separates, hsep, Option.not_isSome_iff_eq_none.1 hopen,
          Option.not_isSome_iff_eq_none.1 hclose] at h

/-- A lexeme that separates ends a segment. -/
theorem onLexeme_splitLoop_separates {s : Splitting} (h : (Lexeme.mark c).separates isSeparator s.depth = true) :
    (splitLoop isSeparator t).onLexeme s place (.mark c) = some (.onward
      { s with segments := s.segments ++ [⟨s.start, (t.take place).drop s.start⟩], start := place + 1 }) := by
  obtain ⟨hdepth, ⟨hopen, hclose⟩, d, hmark, hsep⟩ := Lexeme.separates_iff.1 h
  obtain rfl := Lexeme.mark.inj hmark
  simp [Loop.onLexeme, splitLoop, hdepth, hsep, hopen, hclose]

/-- The search for separators finds the parts between them: the first one goes on from where it starts, the others
stand behind it. -/
theorem overLexemes_splitLoop {s : Splitting} (h : t.drop place = textOf ls) (hstart : s.start ≤ place)
    (hplace : place ≤ t.length) : (splitLoop isSeparator t).overLexemes place s ls =
      some (s.segments ++ placeParts s.start
        (prepend ((t.take place).drop s.start) (partsTopLevel isSeparator s.depth ls))) := by
  induction ls generalizing place s with
  | nil =>
    have hend := List.drop_eq_nil_iff.1 h
    simp [Loop.overLexemes, splitLoop, partsTopLevel, prepend, placeParts, List.take_of_length_le hend]
  | cons l ls ih =>
    rw [textOf_cons] at h
    have hbehind := drop_add_length h
    have hle := add_length_le h hplace
    cases hsep : l.separates isSeparator s.depth with
    | true =>
      -- a part ends in front of the separator, and the next one starts behind it
      obtain ⟨-, -, c, rfl, -⟩ := Lexeme.separates_iff.1 hsep
      have hlength : s.start + ((t.take place).drop s.start).length + 1 = place + 1 := by
        rw [List.length_drop, List.length_take_of_le hplace]
        omega
      have hblank : (t.take (place + 1)).drop (place + 1) = [] :=
        List.drop_of_length_le (List.length_take_le _ _)
      rw [Loop.overLexemes, onLexeme_splitLoop_separates hsep, partsTopLevel_separates hsep, prepend,
        List.append_nil, placeParts, hlength]
      refine (ih hbehind le_rfl hle).trans ?_
      show some (_ ++ placeParts (place + 1) (prepend ((t.take (place + 1)).drop (place + 1)) _)) = _
      rw [hblank, prepend_nil, List.append_assoc]
      rfl
    | false =>
      -- the part that has begun goes on over the lexeme
      rw [Loop.overLexemes, onLexeme_splitLoop hsep, partsTopLevel_cons hsep, ← prepend_append,
        ← slice_append h hstart hplace]
      exact ih hbehind (by simp; omega) hle

theorem overLexemes_braceLoop (place : Nat) (delta : Int) (ls : List Lexeme) :
    braceLoop.overLexemes place delta ls = some (delta + ls.count (.mark '{') - ls.count (.mark '}')) := by
  induction ls generalizing place delta with
  | nil => simp [Loop.overLexemes, braceLoop]
  | cons l ls ih =>
    cases l with
    | literal u =>
      simp [Loop.overLexemes, Loop.onLexeme, ih]
    | comment u =>
      simp [Loop.overLexemes, Loop.onLexeme, ih]
    | mark c =>
      simp only [Loop.overLexemes, Loop.onLexeme, braceLoop]
      refine (ih _ _).trans ?_
      by_cases hopen : c = '{'
      · subst hopen
        simp
        omega
      · by_cases hclose : c = '}'
        · subst hclose
          simp
          omega
        · simp [hopen, hclose]

/-- A string literal ends behind its opening quote and inside the text. -/
theorem exists_skipLiteral? (h : t[index]? = some quote) (hquote : isQuote quote = true) :
    ∃ stop, skipLiteral? t index = some stop ∧ index < stop ∧ stop ≤ t.length ∧
      t.drop stop = (literalTail quote (t.drop (index + 1))).2 := by
  obtain ⟨hindex, rfl⟩ := List.getElem?_eq_some_iff.1 h
  have hdrop := List.drop_eq_getElem_cons hindex
  have happ : t.drop index = (t[index] :: (literalTail t[index] (t.drop (index + 1))).1) ++
      (literalTail t[index] (t.drop (index + 1))).2 := by
    rw [List.cons_append, literalTail_append, hdrop]
  exact ⟨_, skipLiteral?_eq hdrop hquote, by rw [List.length_cons]; omega, add_length_le happ hindex.le,
    drop_add_length happ⟩

/-- A comment ends behind the place at which it starts and inside the text. -/
theorem commentEnd_cases (hindex : index < t.length) :
    (commentEnd t index = index ∧ comment? (t.drop index) = none) ∨
      index < commentEnd t index ∧ commentEnd t index ≤ t.length ∧
        (comment? (t.drop index)).map (·.2) = some (t.drop (commentEnd t index)) := by
  cases h : comment? (t.drop index) with
  | none => exact .inl ⟨commentEnd_of_none h, rfl⟩
  | some found =>
    have happ := (append_of_comment? h).symm
    have hpos := List.length_pos_iff.2 (ne_nil_of_comment? h)
    rw [commentEnd_of_some h hindex.le, drop_add_length happ]
    exact .inr ⟨by omega, add_length_le happ hindex.le, rfl⟩

/-- **Scans always advance** and stay inside the text. A string literal ends behind its opening quote, a comment
behind its start, both inside the text. The loops of the three scans look at growing places inside the text, in no
more rounds than the text has characters; they read nothing outside it, never ask for the innermost one of no open
brackets, and give what the scans give. -/
theorem scans_advance (t : Text) :
    (∀ index quote, t[index]? = some quote → isQuote quote = true →
      ∃ stop, skipLiteral? t index = some stop ∧ index < stop ∧ stop ≤ t.length ∧
        t.drop stop = (literalTail quote (t.drop (index + 1))).2) ∧
    (∀ index < t.length, (commentEnd t index = index ∧ comment? (t.drop index) = none) ∨
      index < commentEnd t index ∧ commentEnd t index ≤ t.length ∧
        (comment? (t.drop index)).map (·.2) = some (t.drop (commentEnd t index))) ∧
    (∀ index : Nat, ∃ visited, Ascends t (index + 1) visited ∧
      scanBlock? t index = some (visited, blockAt? t index)) ∧
    (∀ isSeparator : Char → Bool, ∃ visited, Ascends t 0 visited ∧
      scanSegments? isSeparator t = some (visited, splitTopLevel isSeparator t)) ∧
    ∃ visited, Ascends t 0 visited ∧ scanBraces? t = some (visited, braceDelta t) := by
  refine ⟨fun _ _ => exists_skipLiteral?, fun _ => commentEnd_cases, exists_scanBlock? t, ?_, ?_⟩
  · intro isSeparator
    obtain ⟨visited, hvisited, hrun⟩ :=
      (splitLoop isSeparator t).exists_visited (Nat.sub_le t.length 0) ⟨[], 0, 0⟩
    refine ⟨visited, hvisited, ?_⟩
    rw [scanSegments?, hrun, overLexemes_splitLoop (by rw [textOf_lexemes]) (Nat.le_refl 0) (Nat.zero_le _)]
    simp [splitTopLevel, prepend_nil]
  · obtain ⟨visited, hvisited, hrun⟩ := braceLoop.exists_visited (Nat.sub_le t.length 0) 0
    refine ⟨visited, hvisited, ?_⟩
    rw [scanBraces?, hrun, overLexemes_braceLoop]
    simp [braceDelta]

/-- The literal of a text that breaks off behind a backslash is passed over. -/
theorem scans_advance_brokenOff :
    ("f('/\\" : Text)[2]? = some '\'' ∧ isQuote '\'' = true ∧ 3 < ("f('/\\" : Text).length ∧
      (∃ stop, skipLiteral? "f('/\\" 2 = some stop ∧ 2 < stop ∧ stop ≤ ("f('/\\" : Text).length) ∧
      (commentEnd "f('/\\" 3 = 3 ∨ 3 < commentEnd "f('/\\" 3) := by
  obtain ⟨hliteral, hcomment, -⟩ := scans_advance "f('/\\"
  obtain ⟨stop, hstop, hlt, hle, -⟩ := hliteral 2 '\'' rfl rfl
  refine ⟨rfl, rfl, by decide, ⟨stop, hstop, hlt, hle⟩, ?_⟩
  exact (hcomment 3 (by decide)).imp (·.1) (·.1)

/-- The search looks at the quote and at the closing character, not at what is between. -/
example : scanBlock? "f(')', /**/ 1)" 1 = some ([2, 5, 6, 7, 11, 12, 13], some ("')', /**/ 1".toList, 14)) := by
  decide

end ComponentBook.Script
