import ComponentBook.Proofs.Script.CommentPlace
import ComponentBook.Proofs.Script.Segment

/-! # How many brackets are open

Among well-bracketed lexemes the number of open brackets is the number of opening characters less that of the
closing ones (**`WellBracketed.depthBehind_eq_delta`**), and where it is zero the lexemes so far are well
bracketed by themselves (**`WellBracketed.left`**). So a place of a text is outside of all brackets, literals
and comments (**`Outside`**) when a scan arrives there with no bracket open. The places of segments are such
places (**`exists_startsAt_of_mem_placeParts`**). -/

namespace ComponentBook.Script

open Text

variable {isSeparator : Char → Bool} {depth offset : Nat} {b : Bracket} {l : Lexeme}
  {ls ms : List Lexeme} {segment : Segment}

/-! ## Counting brackets -/

/-- The number of opening characters of a bracket less that of its closing ones. -/
def Bracket.delta (b : Bracket) (ls : List Lexeme) : Int :=
  (ls.count (.mark b.opening) : Int) - ls.count (.mark b.closing)

theorem braceDelta_eq (t : Text) : braceDelta t = Bracket.curly.delta (lexemes t) := rfl

/-- The number of opening characters of all brackets less that of the closing ones. -/
def bracketDelta (ls : List Lexeme) : Int :=
  Bracket.round.delta ls + Bracket.square.delta ls + Bracket.curly.delta ls

theorem bracketDelta_nil : bracketDelta [] = 0 := rfl

theorem bracketDelta_append (ls ms : List Lexeme) :
    bracketDelta (ls ++ ms) = bracketDelta ls + bracketDelta ms := by
  simp only [bracketDelta, Bracket.delta, List.count_append]
  omega

theorem bracketDelta_opening (b : Bracket) : bracketDelta [.mark b.opening] = 1 := by
  cases b <;> decide

theorem bracketDelta_closing (b : Bracket) : bracketDelta [.mark b.closing] = -1 := by
  cases b <;> decide

theorem bracketDelta_plain (hl : l.IsPlain) : bracketDelta [l] = 0 := by
  have hopening (b : Bracket) : l ≠ .mark b.opening := by
    rintro rfl
    have hopen := hl.1
    rw [Bracket.ofOpening?_opening] at hopen
    cases hopen
  have hclosing (b : Bracket) : l ≠ .mark b.closing := by
    rintro rfl
    have hclose := hl.2
    rw [Bracket.ofClosing?_closing] at hclose
    cases hclose
  simp [bracketDelta, Bracket.delta, hopening, hclosing]

/-- A lexeme is no bracket, opens one or closes one. -/
theorem Lexeme.plain_or_bracket (l : Lexeme) :
    l.IsPlain ∨ (∃ b : Bracket, l = .mark b.opening) ∨ ∃ b : Bracket, l = .mark b.closing := by
  cases l with
  | literal t => exact .inl trivial
  | comment t => exact .inl trivial
  | mark c =>
    cases hopen : Bracket.ofOpening? c with
    | some b => exact .inr (.inl ⟨b, by rw [Bracket.eq_opening_of_ofOpening? hopen]⟩)
    | none =>
      cases hclose : Bracket.ofClosing? c with
      | some b => exact .inr (.inr ⟨b, by rw [Bracket.eq_closing_of_ofClosing? hclose]⟩)
      | none => exact .inl ⟨hopen, hclose⟩

/-- **The depth counts brackets** in front of a place among well-bracketed lexemes. -/
theorem WellBracketed.depthBehind_eq_delta (h : WellBracketed (ls ++ ms)) (depth : Nat) :
    (depthBehind depth ls : Int) = depth + bracketDelta ls := by
  -- lexeme by lexeme; a closing one finds a bracket open, whatever the depth in front is
  induction ls using List.reverseRecOn generalizing ms depth with
  | nil => rw [bracketDelta_nil, Int.add_zero]; rfl
  | append_singleton ls l ih =>
    have hls := h
    rw [List.append_assoc] at hls
    rw [depthBehind_append, bracketDelta_append, ← Int.add_assoc, ← ih hls]
    rcases l.plain_or_bracket with hl | ⟨b, rfl⟩ | ⟨b, rfl⟩
    · rw [bracketDelta_plain hl, depthBehind_cons, hl.depthAfter]
      simp [depthBehind]
    · rw [bracketDelta_opening, depthBehind_cons, Lexeme.depthAfter_opening]
      simp [depthBehind]
    · -- with no bracket open, one that is open in front of all lexemes would be closed here
      have hpos : depthBehind depth ls ≠ 0 := by
        intro hzero
        have hle : 1 ≤ depthBehind 1 (ls ++ [.mark b.closing]) := h.le_depthBehind
        have hhere := ih hls depth
        have hone := ih hls 1
        have hone' : depthBehind 1 ls = 1 - depth := by omega
        rw [depthBehind_append, hone'] at hle
        have hclosed : depthBehind (1 - depth) [.mark b.closing] = 1 - depth - 1 := by
          simp [depthBehind, Lexeme.depthAfter]
        omega
      obtain ⟨d, hd⟩ := Nat.exists_eq_succ_of_ne_zero hpos
      rw [bracketDelta_closing, hd, depthBehind_cons, Lexeme.depthAfter_closing]
      simp only [depthBehind, List.foldl_nil]
      omega

/-- Where no bracket is open, the lexemes in front are well bracketed. -/
theorem WellBracketed.left (h : WellBracketed (ls ++ ms)) (hdepth : depthBehind 0 ls = 0) :
    WellBracketed ls := by
  have hcut := h.cut
  clear h
  induction hcut with
  | start _ => exact .nil
  | plain hl _ ih =>
    rw [depthBehind_cons, hl.depthAfter] at hdepth
    exact .plain hl (ih hdepth)
  | inside b hinner _ _ =>
    -- inside a bracket the depth is not zero
    rw [depthBehind_cons, Lexeme.depthAfter_opening] at hdepth
    have hle : 0 + 1 ≤ depthBehind (0 + 1) _ := hinner.le_depthBehind
    omega
  | behind b hbody _ ih =>
    rw [depthBehind_cons, Lexeme.depthAfter_opening, depthBehind_append, hbody.depthBehind_eq, depthBehind_cons,
      Lexeme.depthAfter_closing] at hdepth
    exact .block b hbody (ih hdepth)

/-! ## Places outside of brackets -/

/-- A place of a text outside of brackets, string literals and comments: a scan of the text arrives there,
and what it has read is well bracketed. -/
def Outside (t : Text) (place : Nat) : Prop :=
  ∃ ls, ScansTo t ls (t.drop place) ∧ WellBracketed ls

/-- A scan that goes on from where another one arrives. -/
theorem ScansTo.append {t u v : Text} (h : ScansTo t ls u) (hu : ScansTo u ms v) : ScansTo t (ls ++ ms) v := by
  induction h with
  | here t => exact hu
  | next hnext _ ih => exact .next hnext (ih hu)

/-- What is in front of the place at which a scan arrives with no bracket open. -/
theorem outside_of_scansTo {t u : Text} (h : ScansTo t ls u) (ht : WellBracketed (lexemes t))
    (hdepth : depthBehind 0 ls = 0) : Outside t (textOf ls).length := by
  refine ⟨ls, ?_, ?_⟩
  · rw [h.eq_append, List.drop_left]
    rwa [← h.eq_append]
  · rw [h.lexemes_eq] at ht
    exact ht.left hdepth

/-! ## The places of segments -/

theorem prefix_of_partsTopLevel {part : Text} {parts : List Text}
    (h : partsTopLevel isSeparator depth ls = part :: parts) : part <+: textOf ls := by
  obtain ⟨inside, after, later, rfl, -, hparts⟩ := exists_first_part isSeparator depth ls
  rw [h] at hparts
  obtain ⟨rfl, -⟩ := List.cons.inj hparts
  rw [textOf_append]
  exact List.prefix_append _ _

/-- A segment and the lexemes at which it starts: `front` are those in front of it, behind which no bracket is
open unless there are none. -/
structure StartsAt (offset depth : Nat) (front behind : List Lexeme) (segment : Segment) : Prop where
  offset_eq : segment.offset = offset + (textOf front).length
  closed : front = [] ∨ depthBehind depth front = 0
  isPrefix : segment.text <+: textOf behind

/-- A segment behind a lexeme starts where it starts without the lexeme, if no bracket is open there. -/
theorem StartsAt.cons {behind : List Lexeme} (h : StartsAt (offset + l.text.length) (l.depthAfter depth) front behind
    segment) (hfirst : front = [] → l.depthAfter depth = 0) : StartsAt offset depth (l :: front) behind segment where
  offset_eq := by
    rw [h.offset_eq, textOf_cons, List.length_append, Nat.add_assoc]
  closed := by
    refine .inr ?_
    rw [depthBehind_cons]
    rcases h.closed with rfl | hclosed
    · exact hfirst rfl
    · exact hclosed
  isPrefix := h.isPrefix

/-- **Where a segment starts** no bracket is open, unless it is the first one. -/
theorem exists_startsAt_of_mem_placeParts
    (h : segment ∈ placeParts offset (partsTopLevel isSeparator depth ls)) :
    ∃ front behind, ls = front ++ behind ∧ StartsAt offset depth front behind segment := by
  induction ls generalizing offset depth with
  | nil =>
    obtain rfl := List.mem_singleton.1 h
    exact ⟨[], [], rfl, rfl, .inl rfl, List.prefix_rfl⟩
  | cons l ls ih =>
    by_cases hsep : l.separates isSeparator depth = true
    · -- the first part is empty, and the others stand behind the separator, where no bracket is open
      rw [partsTopLevel_separates hsep] at h
      obtain ⟨hzero, hplain, c, hmark, -⟩ := Lexeme.separates_iff.1 hsep
      rcases List.mem_cons.1 h with rfl | h
      · exact ⟨[], _, rfl, rfl, .inl rfl, List.nil_prefix⟩
      · have hlength : offset + ([] : Text).length + 1 = offset + l.text.length := by
          rw [hmark]
          rfl
        have hdepth : l.depthAfter depth = depth := hplain.depthAfter
        rw [hlength, ← hdepth] at h
        obtain ⟨front, behind, rfl, hstarts⟩ := ih h
        exact ⟨l :: front, behind, rfl, hstarts.cons fun _ => by rw [hdepth, hzero]⟩
    · -- a lexeme that does not separate goes to the part behind it
      rw [Bool.not_eq_true] at hsep
      obtain ⟨part, parts, hparts⟩ :=
        List.exists_cons_of_ne_nil (partsTopLevel_ne_nil isSeparator (l.depthAfter depth) ls)
      rw [partsTopLevel_cons hsep, hparts, prepend, placeParts] at h
      rcases List.mem_cons.1 h with rfl | h
      · refine ⟨[], l :: ls, rfl, rfl, .inl rfl, ?_⟩
        rw [textOf_cons]
        exact (List.prefix_append_right_inj l.text).2 (prefix_of_partsTopLevel hparts)
      · -- a later segment of the lexemes behind this one
        have hstart : offset + (l.text ++ part).length + 1 = offset + l.text.length + part.length + 1 := by
          rw [List.length_append]
          omega
        rw [hstart] at h
        have hle := le_offset_of_mem_placeParts h
        have hlater : segment ∈ placeParts (offset + l.text.length)
            (partsTopLevel isSeparator (l.depthAfter depth) ls) := by
          rw [hparts]
          exact List.mem_cons_of_mem _ h
        obtain ⟨front, behind, rfl, hstarts⟩ := ih hlater
        refine ⟨l :: front, behind, rfl, hstarts.cons fun hfirst => ?_⟩
        have hoffset := hstarts.offset_eq
        rw [hfirst, textOf_nil, List.length_nil] at hoffset
        omega

end ComponentBook.Script
