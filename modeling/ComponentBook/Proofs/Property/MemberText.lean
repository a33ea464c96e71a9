import ComponentBook.Proofs.Property.BodyLines
import ComponentBook.Proofs.Script.DocComment
import ComponentBook.Proofs.Property.WrittenObject

/-! # The line of a member

A member stands on its line with its name, maybe with `readonly` in front and a question mark behind, a colon
and its type (**`Signature`**), maybe a semicolon, maybe a line comment (**`MemberText`**). The line starts at
the top level and leaves no brace open (**`atTop_line`**, **`next_line`**), and one entry is found on it
(**`lineMembers_line`**).

The entry is read without regard to string literals: its type ends in front of the first two slashes. It is read
to its end when these open the line comment (**`member?_entry`**) and is cut short when they stand in the type
(**`exists_member?_entry`**). -/

namespace ComponentBook.InterfaceDeclaration

open Script Text ObjectDeclaration
open Script.DocComment (commentBefore?)

variable {k : Bool} {a b t tail remark : Text}

/-! ## The shape of a member -/

/-- A text on one line with blank characters only. -/
abbrev BlankLine := {t : Text // t.allBlank = true ∧ Unbroken t}

/-- An empty line. -/
def noIndent : BlankLine := ⟨[], by decide, by decide⟩

/-- Two spaces. -/
def twoSpaces : BlankLine := ⟨[' ', ' '], by decide, by decide⟩

/-- A type on one line: its semicolons stand in brackets and string literals, and no comment stands in it. -/
structure IsLineType (t : Text) : Prop where
  code : Code false (· == ';') t
  ne_nil : t ≠ []
  trimmed : t.strip = t
  unbroken : Unbroken t
  no_separator : ∀ c, t.getLast? = some c → c ≠ ';' ∧ c ≠ ','

/-- A name: letters, numerals, underscores and dollar signs, the first one no numeral. -/
def IsIdentifier (name : Text) : Prop :=
  name.head?.any isIdentifierStart = true ∧ ∀ c ∈ name, isIdentifierChar c = true

theorem IsIdentifier.exists_cons {name : Text} (h : IsIdentifier name) :
    ∃ c rest, name = c :: rest ∧ isIdentifierChar c = true := by
  cases name with
  | nil => cases h.1
  | cons c rest => exact ⟨c, rest, rfl, h.2 c List.mem_cons_self⟩

/-- A text that may be left out. -/
def textIf (present : Bool) (t : Text) : Text := if present then t else []

/-- A member up to its type. -/
structure Signature where
  /-- Whether `readonly` stands in front of its name. -/
  isReadonly : Bool
  /-- Its name. -/
  name : Text
  /-- Whether a question mark stands behind its name. -/
  optional : Bool
  /-- Its type. -/
  type : Text
  isName : IsIdentifier name
  isType : IsLineType type

/-- The name with what stands around it, up to the colon. -/
def Signature.head (s : Signature) : Text :=
  textIf s.isReadonly "readonly " ++ (s.name ++ (textIf s.optional ['?'] ++ [':']))

/-- Its text. -/
def Signature.text (s : Signature) : Text := s.head ++ ' ' :: s.type

/-- A member on a line of its own. -/
structure MemberText where
  /-- The blank characters in front of it. -/
  indent : BlankLine
  /-- The member up to its type. -/
  signature : Signature
  /-- Whether a semicolon stands behind its type. -/
  semicolon : Bool
  /-- The text of the line comment behind it. -/
  remark : Option Text
  unbroken_remark : ∀ c, remark = some c → Unbroken c

namespace MemberText

/-- The line comment, if there is one. -/
def remarkText (m : MemberText) : Text :=
  match m.remark with
  | none => []
  | some c => ' ' :: '/' :: '/' :: ' ' :: c

/-- What stands behind the type. -/
def ending (m : MemberText) : Text := textIf m.semicolon [';'] ++ m.remarkText

/-- Its line. -/
def line (m : MemberText) : Text := m.indent.1 ++ (m.signature.text ++ m.ending)

/-- What the line comment says. -/
def remarkSaid (m : MemberText) : Text := (m.remark.map strip).getD []

end MemberText

/-! ## The line as code -/

/-- A semicolon plays no other part. -/
theorem isSeparator_semicolon : IsSeparator (· == ';') ';' := isSeparator_of_inert (by decide)

theorem not_semicolon_of {p : Char → Bool} (hp : (';' :: specialChars).all fun s => !p s)
    (h : ∀ c ∈ t, p c = true) : ∀ c ∈ t, c ∉ specialChars ∧ (c == ';') = false := by
  intro c hc
  have hno : c ∉ ';' :: specialChars := by
    intro hin
    simpa [h c hc] using List.all_eq_true.1 hp c hin
  simpa [not_or, and_comm] using hno

theorem code_blankLine_append (blank : BlankLine) (h : Code k (· == ';') t) :
    Code k (· == ';') (blank.1 ++ t) :=
  h.inert_append (not_semicolon_of (p := isBlank) (by decide) (allBlank_eq_true_iff.1 blank.2.1))

theorem not_isIdentifierChar_of_isBlank {c : Char} (h : isBlank c = true) : isIdentifierChar c = false := by
  rw [Bool.eq_false_iff]
  intro hc
  rw [not_blank_of_isIdentifierChar hc] at h
  cases h

namespace Signature

variable (s : Signature)

theorem code_head (h : Code k (· == ';') t) : Code k (· == ';') (s.head ++ t) := by
  have hmark : Code k (· == ';') (textIf s.optional ['?'] ++ ([':'] ++ t)) := by
    refine .inert_append ?_ (.inert_append (by decide) h)
    cases s.optional <;> decide
  have hname : Code k (· == ';') (s.name ++ (textIf s.optional ['?'] ++ ([':'] ++ t))) :=
    .inert_append (not_semicolon_of (p := isIdentifierChar) (by decide) s.isName.2) hmark
  rw [head, List.append_assoc, List.append_assoc, List.append_assoc]
  refine .inert_append ?_ hname
  cases s.isReadonly <;> decide

theorem code_text : Code false (· == ';') s.text :=
  s.code_head (.inert_append (a := [' ']) (by decide) s.isType.code)

/-- The text starts with a letter, a dollar sign or an underscore. -/
theorem exists_text (t : Text) : ∃ c u, s.text ++ t = c :: u ∧ isIdentifierStart c = true := by
  obtain ⟨hstart, -⟩ := s.isName
  rw [text, head]
  cases s.isReadonly with
  | true => exact ⟨'r', _, rfl, by decide⟩
  | false =>
    cases hname : s.name with
    | nil =>
      rw [hname] at hstart
      cases hstart
    | cons c name =>
      rw [hname] at hstart
      exact ⟨c, _, rfl, hstart⟩

theorem getLast?_text {c : Char} (h : s.text.getLast? = some c) : isBlank c = false := by
  rw [text, ← List.singleton_append, List.getLast?_append_of_ne_nil _ (by simp),
    List.getLast?_append_of_ne_nil _ s.isType.ne_nil, ← s.isType.trimmed] at h
  exact getLast?_strip_not_blank h

/-- Blank characters in front of the text are all that is taken off. -/
theorem stripLeft_text (hblank : a.allBlank = true) (t : Text) :
    stripLeft (a ++ (s.text ++ t)) = s.text ++ t := by
  refine stripLeft_append hblank fun d hd => ?_
  obtain ⟨c, u, he, hc⟩ := s.exists_text t
  rw [he] at hd
  obtain rfl : c = d := Option.some.inj hd
  exact not_blank_of_isIdentifierStart hc

theorem not_allBlank_text (a t : Text) : (a ++ (s.text ++ t)).allBlank = false :=
  not_blank_of_mem (c := ':') (by decide) (by simp [text, head])

omit s in
theorem not_startsWith_of_start {c : Char} {u p : Text} (hc : isIdentifierStart c = true)
    (hp : ∀ d, p.head? = some d → isIdentifierStart d = false) (hne : p ≠ []) :
    startsWith (c :: u) p = false := by
  cases p with
  | nil => exact absurd rfl hne
  | cons d p =>
    rw [Bool.eq_false_iff, ne_eq, startsWith_eq_true_iff]
    intro hprefix
    obtain rfl : d = c := (List.cons_prefix_cons.1 hprefix).1
    rw [hp d rfl] at hc
    cases hc

/-- A line with the member at its start does not start like a comment. -/
theorem strip_startsWith (hblank : a.allBlank = true) (t : Text) :
    (a ++ (s.text ++ t)).strip.startsWith "/*" = false ∧ (a ++ (s.text ++ t)).strip.startsWith "*" = false := by
  obtain ⟨c, u, he, hc⟩ := s.exists_text t
  have hfilled : isBlank c = false := not_blank_of_isIdentifierStart hc
  have hstrip : (a ++ (s.text ++ t)).strip = c :: stripRight u := by
    rw [strip, s.stripLeft_text hblank, he, ← List.singleton_append,
      stripRight_append_eq (by simpa using hfilled), List.singleton_append]
  rw [hstrip]
  exact ⟨not_startsWith_of_start hc (by decide) (by decide),
    not_startsWith_of_start hc (by decide) (by decide)⟩

omit s in
theorem unbroken_textIf (present : Bool) (ht : Unbroken t) : Unbroken (textIf present t) := by
  cases present with
  | true => exact ht
  | false => exact nofun

theorem unbroken_text : Unbroken s.text := by
  have hname : Unbroken s.name := by
    intro c hc
    rw [Bool.eq_false_iff]
    intro hbreak
    have hblank := isBlank_of_isLineBreak hbreak
    rw [not_blank_of_isIdentifierChar (s.isName.2 c hc)] at hblank
    cases hblank
  have hhead : Unbroken s.head :=
    (unbroken_textIf _ (by decide)).append (hname.append ((unbroken_textIf _ (by decide)).append (by decide)))
  have hspace : Unbroken [' '] := by decide
  exact hhead.append (hspace.append s.isType.unbroken)

end Signature

/-- A line that does not start like a comment starts at the top level when nothing is open in front of it. -/
theorem atTop_of_start {line : Text} (h : (line ++ ['\n']).strip.startsWith "/*" = false ∧
    (line ++ ['\n']).strip.startsWith "*" = false) :
    ({} : LineState).atTop (line ++ ['\n']) = true := by
  rw [LineState.atTop, h.1]
  rfl

/-- Nothing is open behind a line of code when nothing is open in front of it. -/
theorem next_of_code {line : Text} (h : (line ++ ['\n']).strip.startsWith "/*" = false ∧
    (line ++ ['\n']).strip.startsWith "*" = false) (hcode : Code true (fun _ => false) (line ++ ['\n'])) :
    ({} : LineState).next (line ++ ['\n']) = {} := by
  have hcomment : ({} : LineState).commentAfter (line ++ ['\n']) = false := by
    rw [LineState.commentAfter, h.1]
    rfl
  rw [LineState.next, hcomment, h.1, h.2, hcode.braceDelta]
  rfl

namespace MemberText

variable (m : MemberText)

/-- A semicolon, a space or the end of the line stands behind the type. -/
theorem head_ending {d : Char} (h : (m.ending ++ ['\n']).head? = some d) :
    d = ';' ∨ d = ' ' ∨ d = '\n' := by
  rw [ending, remarkText] at h
  generalize m.semicolon = semicolon, m.remark = remark at h
  cases semicolon with
  | true => exact .inl (Option.some.inj h).symm
  | false =>
    cases remark with
    | none => exact .inr (.inr (Option.some.inj h).symm)
    | some c => exact .inr (.inl (Option.some.inj h).symm)

/-- The member in front of its semicolon. -/
theorem code_signature : Code false (· == ';') (m.indent.1 ++ m.signature.text) :=
  code_blankLine_append m.indent m.signature.code_text

theorem not_feed_remark {c : Text} (h : m.remark = some c) : '\n' ∉ ' ' :: c := by
  intro hin
  rcases List.mem_cons.1 hin with he | hin
  · exact absurd he (by decide)
  · exact ((m.unbroken_remark c h).ne hin).1 rfl

/-- The line with its line feed is code. -/
theorem code_line : Code true (fun _ => false) (m.line ++ ['\n']) := by
  have hfront : Code true (fun _ => false) (m.indent.1 ++ m.signature.text) :=
    m.code_signature.mono (by simp) fun _ _ => rfl
  have hfeed : Code true (fun _ => false) ['\n'] := .of_inert (by decide)
  have hremark : Code true (fun _ => false) (m.remarkText ++ ['\n']) := by
    rw [remarkText]
    cases hremark : m.remark with
    | none => exact hfeed
    | some c =>
      have hcomment : Code true (fun _ => false) ('/' :: '/' :: (' ' :: c ++ '\n' :: [])) :=
        .lineComment rfl (m.not_feed_remark hremark) hfeed
      exact .inert_append (a := [' ']) (by decide) hcomment
  have hending : Code true (fun _ => false) (m.ending ++ ['\n']) := by
    rw [ending, List.append_assoc]
    refine .inert_append ?_ hremark
    cases m.semicolon <;> decide
  have hapart : Apart (m.indent.1 ++ m.signature.text) (m.ending ++ ['\n']) := by
    intro _ d hd
    rcases m.head_ending hd with rfl | rfl | rfl <;> decide
  have hline : m.line ++ ['\n'] = m.indent.1 ++ m.signature.text ++ (m.ending ++ ['\n']) := by simp [line]
  rw [hline]
  exact hfront.append hending hapart

/-- The line is one line. -/
theorem unbroken_line : Unbroken m.line := by
  have hremark : Unbroken m.remarkText := by
    rw [remarkText]
    cases hremark : m.remark with
    | none => exact nofun
    | some c =>
      have hfront : Unbroken [' ', '/', '/', ' '] := by decide
      exact hfront.append (m.unbroken_remark c hremark)
  have hsemicolon : Unbroken (textIf m.semicolon [';']) := Signature.unbroken_textIf _ (by decide)
  exact m.indent.2.2.append (m.signature.unbroken_text.append (hsemicolon.append hremark))

/-! ## The state behind the line -/

/-- The line is no empty line. -/
theorem isEmptyLine_line : isEmptyLine m.line = false :=
  isEmptyLine_of_mem (c := ':') (by simp [line, Signature.text, Signature.head]) (by decide)

theorem strip_line_startsWith : (m.line ++ ['\n']).strip.startsWith "/*" = false ∧
    (m.line ++ ['\n']).strip.startsWith "*" = false := by
  have hline : m.line ++ ['\n'] = m.indent.1 ++ (m.signature.text ++ (m.ending ++ ['\n'])) := by simp [line]
  rw [hline]
  exact m.signature.strip_startsWith m.indent.2.1 _

/-- The line starts at the top level when nothing is open in front of it. -/
theorem atTop_line : ({} : LineState).atTop (m.line ++ ['\n']) = true := atTop_of_start m.strip_line_startsWith

/-- Nothing is open behind the line when nothing is open in front of it. -/
theorem next_line : ({} : LineState).next (m.line ++ ['\n']) = {} := next_of_code m.strip_line_startsWith m.code_line

/-! ## The entry on the line -/

/-- The line comment behind the entry on the line. -/
def entryRemark : Text :=
  match m.remark with
  | none => []
  | some c => ' ' :: '/' :: '/' :: stripRight (' ' :: c)

/-- The entry on the line. -/
def entry : Text := m.signature.text ++ m.entryRemark

theorem stripRight_signature : (m.signature.text ++ m.remarkText).stripRight = m.entry := by
  rw [entry, stripRight_append_eq fun _ => m.signature.getLast?_text, remarkText, entryRemark]
  cases m.remark with
  | none => rfl
  | some c =>
    have hstrip := stripRight_append_eq (a := [' ', '/', '/']) (by simp; decide) (' ' :: c)
    exact congrArg _ hstrip

/-- The line comment belongs to the part in front of it. -/
theorem partsTopLevel_remarkText (h : Code false (· == ';') t) :
    partsTopLevel (· == ';') 0 (lexemes (t ++ m.remarkText)) = [t ++ m.remarkText] := by
  rw [remarkText]
  cases hremark : m.remark with
  | none =>
    rw [List.append_nil]
    exact h.partsTopLevel_eq
  | some c =>
    have hspace : Code false (· == ';') (t ++ [' ']) :=
      h.append (.of_inert (by decide)) (apart_of_head (by decide))
    have hparts := hspace.partsTopLevel_lineComment (by simp) (m.not_feed_remark hremark)
    rwa [List.append_assoc, List.singleton_append] at hparts

/-- Blank characters at the start of a part count for the place of its entry. -/
theorem length_indent (t : Text) : (m.indent.1 ++ (m.signature.text ++ t)).length -
    (stripLeft (m.indent.1 ++ (m.signature.text ++ t))).length = m.indent.1.length := by
  rw [m.signature.stripLeft_text m.indent.2.1, List.length_append]
  omega

omit m in
/-- A part alone is an entry. -/
theorem gatherMembers_singleton (part : Segment) : gatherMembers [part] =
    [⟨part.offset + (part.text.length - (stripLeft part.text).length), part.text.strip⟩] := by
  rw [gatherMembers]
  simp [gatherMembers]

omit m in
/-- A line comment behind a part belongs to its entry. -/
theorem gatherMembers_remark (part : Segment) {remark : Segment}
    (h : remark.text.strip.startsWith "//" = true) : gatherMembers [part, remark] =
      [⟨part.offset + (part.text.length - (stripLeft part.text).length),
        part.text.strip ++ ' ' :: remark.text.strip⟩] := by
  rw [gatherMembers]
  simp only [List.takeWhile_cons, List.dropWhile_cons, h]
  simp [gatherMembers]

/-- One entry is found on the line, and it starts behind the blank characters. -/
theorem lineMembers_line : lineMembers m.line = [⟨m.indent.1.length, m.entry⟩] := by
  -- behind a semicolon the line comment is a part of its own, which goes back to the part in front of it
  cases hsemicolon : m.semicolon with
  | false =>
    have hline : m.line = m.indent.1 ++ (m.signature.text ++ m.remarkText) := by
      simp [line, ending, hsemicolon, textIf]
    have hparts : partsTopLevel (· == ';') 0 (lexemes m.line) = [m.line] := by
      rw [hline, ← List.append_assoc]
      exact m.partsTopLevel_remarkText m.code_signature
    have hsegments : semicolonSegments m.line = [⟨0, m.line⟩] := by
      rw [semicolonSegments, splitTopLevel, hparts, placeParts, placeParts, List.filter_cons_of_pos,
        List.filter_nil]
      simp [hline, m.signature.not_allBlank_text m.indent.1]
    rw [lineMembers, hsegments, gatherMembers_singleton, hline, m.length_indent, strip,
      m.signature.stripLeft_text m.indent.2.1, m.stripRight_signature, Nat.zero_add]
  | true =>
    have hline : m.line = (m.indent.1 ++ m.signature.text) ++ ';' :: m.remarkText := by
      simp [line, ending, hsemicolon, textIf]
    have hparts : partsTopLevel (· == ';') 0 (lexemes m.line) =
        [m.indent.1 ++ m.signature.text, m.remarkText] := by
      rw [hline, isSeparator_semicolon.partsTopLevel_cons m.code_signature]
      exact congrArg _ (m.partsTopLevel_remarkText .nil)
    have hfirst := m.signature.not_allBlank_text m.indent.1 []
    have hlength := m.length_indent []
    have hstrip : strip (m.indent.1 ++ m.signature.text) = m.signature.text := by
      have hleft := m.signature.stripLeft_text m.indent.2.1 []
      rw [List.append_nil] at hleft
      rw [strip, hleft]
      exact stripRight_eq_self fun _ => m.signature.getLast?_text
    rw [List.append_nil] at hfirst hlength
    cases hremark : m.remark with
    | none =>
      have hsegments : semicolonSegments m.line = [⟨0, m.indent.1 ++ m.signature.text⟩] := by
        rw [semicolonSegments, splitTopLevel, hparts, placeParts, placeParts, placeParts,
          List.filter_cons_of_pos (by simp [hfirst]), List.filter_cons_of_neg, List.filter_nil]
        simp [remarkText, hremark, allBlank]
      rw [lineMembers, hsegments, gatherMembers_singleton, hlength, hstrip, Nat.zero_add, entry, entryRemark,
        hremark, List.append_nil]
    | some c =>
      have hremarkText : m.remarkText = ' ' :: '/' :: '/' :: ' ' :: c := by rw [remarkText, hremark]
      have hsegments : semicolonSegments m.line = [⟨0, m.indent.1 ++ m.signature.text⟩,
          ⟨0 + (m.indent.1 ++ m.signature.text).length + 1, m.remarkText⟩] := by
        rw [semicolonSegments, splitTopLevel, hparts, placeParts, placeParts, placeParts,
          List.filter_cons_of_pos (by simp [hfirst]), List.filter_cons_of_pos, List.filter_nil]
        rw [hremarkText, not_blank_of_mem (c := '/') (by decide) (by simp)]
        rfl
      have hstripRemark : strip m.remarkText = '/' :: '/' :: stripRight (' ' :: c) := by
        rw [hremarkText, strip]
        exact stripRight_append_eq (a := ['/', '/']) (by simp; decide) (' ' :: c)
      have hstarts : startsWith (strip m.remarkText) "//" = true := by
        rw [hstripRemark]
        rfl
      rw [lineMembers, hsegments, gatherMembers_remark _ hstarts, hlength, hstrip, hstripRemark, Nat.zero_add,
        entry, entryRemark, hremark]

end MemberText

/-! ## The type of the entry -/

/-- A text without the semicolon or the comma at its start. -/
def dropSeparator : Text → Text
  | ';' :: t => t
  | ',' :: t => t
  | t => t

/-- The line comment that a text consists of, blank characters left aside. -/
def remarkOf? (t : Text) : Option Text :=
  match stripLeft t with
  | [] => some []
  | '/' :: '/' :: remark => some (strip remark)
  | _ => none

theorem remarkAfter?_eq (t : Text) : remarkAfter? t = remarkOf? (dropSeparator (stripLeft t)) := rfl

/-- The shortest type ends where a line comment follows and none followed before. -/
theorem shortestType?_append {read y tail remark : Text} (hy : y ≠ [])
    (hnone : ∀ x z, y = x ++ z → x ≠ [] → z ≠ [] → remarkAfter? (z ++ tail) = none)
    (hsome : remarkAfter? tail = some remark) :
    shortestType? read (y ++ tail) = some (strip (read.reverse ++ y), remark) := by
  induction y generalizing read with
  | nil => exact absurd rfl hy
  | cons c y ih =>
    rw [List.cons_append, shortestType?]
    by_cases hne : y = []
    · subst hne
      simp [hsome]
    · have hhere : remarkAfter? (y ++ tail) = none := hnone [c] y rfl (by simp) hne
      have hlater : shortestType? (c :: read) (y ++ tail) =
          some (strip ((c :: read).reverse ++ y), remark) := by
        apply ih hne
        intro x z he _ hz
        exact hnone (c :: x) z (by rw [he, List.cons_append]) (by simp) hz
      rw [hhere]
      simp [hlater]

/-- A type ends in front of two slashes at the latest. -/
theorem exists_shortestType? (read : Text) {x : Text} (hx : x ≠ []) (y : Text) : ∃ found remark,
    shortestType? read (x ++ '/' :: '/' :: y) = some (found, remark) ∧
      found.length ≤ read.length + x.length := by
  -- along the characters in front of the slashes: behind the last one the type ends, if it did not before
  induction x generalizing read with
  | nil => exact absurd rfl hx
  | cons c x ih =>
    rw [List.cons_append, shortestType?]
    cases hhere : remarkAfter? (x ++ '/' :: '/' :: y) with
    | some remark =>
      have hlength : (strip (c :: read).reverse).length ≤ (c :: read).reverse.length :=
        (strip_isInfix _).length_le
      refine ⟨_, remark, rfl, hlength.trans ?_⟩
      rw [List.length_reverse, List.length_cons, List.length_cons]
      omega
    | none =>
      have hne : x ≠ [] := by
        rintro rfl
        cases hhere
      obtain ⟨found, remark, hfound, hle⟩ := ih (c :: read) hne
      refine ⟨found, remark, hfound, hle.trans ?_⟩
      rw [List.length_cons, List.length_cons]
      omega

namespace IsLineType

/-- In front of the end of a type and what stands behind it only blank characters can be taken off. -/
theorem exists_stripLeft (h : IsLineType t) {y : Text} (hy : y <:+ t) (hne : y ≠ []) (tail : Text) :
    ∃ z, z <:+ t ∧ z ≠ [] ∧ stripLeft (y ++ tail) = z ++ tail := by
  have hlast : ∀ c, y.getLast? = some c → isBlank c = false := by
    obtain ⟨x, rfl⟩ := hy
    intro c hc
    rw [← List.getLast?_append_of_ne_nil x hne, ← h.trimmed] at hc
    exact getLast?_strip_not_blank hc
  have hfilled : stripLeft y ≠ [] := by
    intro hnil
    have hin := List.getLast?_eq_some_getLast hne
    rw [stripLeft, List.dropWhile_eq_nil_iff] at hnil
    have hblank := hnil _ (List.getLast_mem hne)
    rw [hlast _ hin] at hblank
    cases hblank
  refine ⟨stripLeft y, (List.dropWhile_suffix _).trans hy, hfilled, ?_⟩
  rw [stripLeft, List.dropWhile_append, if_neg]
  · rfl
  · rwa [List.isEmpty_iff]

/-- No line comment follows inside a type that has none. -/
theorem remarkOf?_eq_none (h : IsLineType t) (hno : ¬ "//".toList <:+: t) {y : Text} (hy : y <:+ t)
    (hne : y ≠ []) (htail : ∀ d, tail.head? = some d → d ≠ '/') : remarkOf? (y ++ tail) = none := by
  obtain ⟨z, hz, hzne, he⟩ := h.exists_stripLeft hy hne tail
  rw [remarkOf?, he]
  split
  · next hnil => exact absurd (List.append_eq_nil_iff.1 hnil).1 hzne
  · next remark hremark =>
    have hprefix : '/' :: ['/'] <+: z ++ tail := ⟨remark, hremark.symm⟩
    have hin := prefix_of_prefix_append hzne (fun d hd => by simpa using htail d hd) hprefix
    exact absurd (hin.isInfix.trans hz.isInfix) hno
  · rfl

theorem remarkAfter?_eq_none (h : IsLineType t) (hno : ¬ "//".toList <:+: t) {y : Text} (hy : y <:+ t)
    (hne : y ≠ []) (htail : ∀ d, tail.head? = some d → d ≠ '/') : remarkAfter? (y ++ tail) = none := by
  obtain ⟨z, hz, hzne, he⟩ := h.exists_stripLeft hy hne tail
  -- a separator inside the type is not its last character
  have hbehind {c : Char} {u : Text} (hu : z = c :: u) (hc : c = ';' ∨ c = ',') :
      remarkOf? (u ++ tail) = none := by
    have hu' : u <:+ t := (List.suffix_cons c u).trans (hu ▸ hz)
    refine h.remarkOf?_eq_none hno hu' ?_ htail
    rintro rfl
    obtain ⟨x, hx⟩ := hz
    have hlast := h.no_separator c (by rw [← hx, hu, List.getLast?_concat])
    rcases hc with rfl | rfl
    · exact hlast.1 rfl
    · exact hlast.2 rfl
  rw [remarkAfter?_eq, he, dropSeparator.eq_def]
  cases hz' : z with
  | nil => exact absurd hz' hzne
  | cons c u =>
    rw [List.cons_append]
    split
    · next he => obtain ⟨rfl, rfl⟩ := List.cons.inj he; exact hbehind hz' (.inl rfl)
    · next he => obtain ⟨rfl, rfl⟩ := List.cons.inj he; exact hbehind hz' (.inr rfl)
    · rw [← List.cons_append, ← hz']
      exact h.remarkOf?_eq_none hno hz hzne htail

theorem stripLeft_append (h : IsLineType t) (tail : Text) : stripLeft (' ' :: (t ++ tail)) = t ++ tail := by
  have hfirst : ∀ c, (t ++ tail).head? = some c → isBlank c = false := by
    intro c hc
    rw [List.head?_append_of_ne_nil _ h.ne_nil, ← h.trimmed] at hc
    exact head?_strip_not_blank hc
  exact stripLeft_eq_self hfirst

/-- A type in which no two slashes stand is read to its end. -/
theorem shortestType?_eq (h : IsLineType t) (hno : ¬ "//".toList <:+: t)
    (htail : ∀ d, tail.head? = some d → d ≠ '/') (hsome : remarkAfter? tail = some remark) :
    shortestType? [] (stripLeft (' ' :: (t ++ tail))) = some (t, remark) := by
  rw [h.stripLeft_append, shortestType?_append h.ne_nil ?_ hsome, List.reverse_nil, List.nil_append, h.trimmed]
  -- nowhere inside the type is the rest of it a separator at most
  intro x z he _ hz
  exact h.remarkAfter?_eq_none hno ⟨x, he.symm⟩ hz htail

/-- A type in which two slashes stand is not read to its end. -/
theorem exists_shortestType? (h : IsLineType t) (hin : "//".toList <:+: t) (tail : Text) : ∃ found remark,
    shortestType? [] (stripLeft (' ' :: (t ++ tail))) = some (found, remark) ∧ found.length < t.length := by
  obtain ⟨x, y, ht⟩ := hin
  have hshape : x ++ '/' :: '/' :: y = t := by rw [← ht]; simp
  have hx : x ≠ [] := by
    rintro rfl
    exact not_code_lineComment y (hshape ▸ h.code)
  obtain ⟨found, remark, hfound, hle⟩ := InterfaceDeclaration.exists_shortestType? [] hx (y ++ tail)
  refine ⟨found, remark, ?_, ?_⟩
  · rw [h.stripLeft_append, ← hshape, List.append_assoc, List.cons_append, List.cons_append]
    exact hfound
  · rw [← hshape, List.length_append, List.length_cons]
    rw [List.length_nil] at hle
    omega

end IsLineType

/-! ## The entry is read -/

/-- No name goes on behind the name of a member. -/
theorem head?_behind_member {optional : Bool} {d : Char}
    (h : (textIf optional ['?'] ++ ':' :: t).head? = some d) : d = '?' ∨ d = ':' := by
  cases optional with
  | true => exact .inl (Option.some.inj h).symm
  | false => exact .inr (Option.some.inj h).symm

/-- The question mark at the start of a text and the text behind it. -/
def splitMark : Text → Bool × Text
  | '?' :: t => (true, t)
  | t => (false, t)

theorem splitMark_mark (optional : Bool) (t : Text) :
    splitMark (textIf optional ['?'] ++ ':' :: t) = (optional, ':' :: t) := by
  cases optional <;> rfl

theorem plainMember?_eq (t : Text) : plainMember? t = (do
    guard (t.head?.any isIdentifierStart)
    let name := t.takeWhile isIdentifierChar
    let (optional, t) := splitMark (t.drop name.length)
    let t ← dropPrefix? ":" (stripLeft t)
    let (type, remark) ← shortestType? [] (stripLeft t)
    return { name, optional, type, remark }) := rfl

/-- A member without `readonly` is read. -/
theorem plainMember?_text {name type : Text} (optional : Bool) (hname : IsIdentifier name)
    (htype : shortestType? [] (stripLeft t) = some (type, remark)) :
    plainMember? (name ++ (textIf optional ['?'] ++ ':' :: t)) = some { name, optional, type, remark } := by
  obtain ⟨hstart, hall⟩ := hname
  have hhead : (name ++ (textIf optional ['?'] ++ ':' :: t)).head?.any
      isIdentifierStart = true := by
    cases name with
    | nil => cases hstart
    | cons c name => exact hstart
  have htake : (name ++ (textIf optional ['?'] ++ ':' :: t)).takeWhile
      isIdentifierChar = name := by
    refine takeWhile_append_of_stop hall fun d hd => ?_
    rcases head?_behind_member hd with rfl | rfl <;> decide
  have hcolon (t : Text) : dropPrefix? ":" (stripLeft (':' :: t)) = some t := dropPrefix?_append [':'] t
  rw [plainMember?_eq]
  simp only [hhead, htake, List.drop_left, splitMark_mark, hcolon, htype,
    Option.bind_eq_bind, Option.bind_some]
  rfl

/-- A name that starts with the word `readonly` is no such word with a name behind it. -/
theorem dropBlanks?_readonly {name : Text} (hname : IsIdentifier name) (optional : Bool) (t : Text) :
    (dropPrefix? "readonly" (name ++ (textIf optional ['?'] ++ ':' :: t))).bind dropBlanks? = none := by
  cases hdrop : dropPrefix? "readonly" (name ++ (textIf optional ['?'] ++ ':' :: t)) with
  | none => rfl
  | some rest =>
    have he := dropPrefix?_eq_some_iff.1 hdrop
    have hne : name ≠ [] := by
      rintro rfl
      cases hname.1
    have hprefix : "readonly".toList <+: name := by
      refine prefix_of_prefix_append (c := 'r') (w := "eadonly") hne ?_ ⟨rest, he.symm⟩
      intro d hd
      rcases head?_behind_member hd with rfl | rfl <;> decide
    obtain ⟨r, rfl⟩ := hprefix
    rw [List.append_assoc] at he
    obtain rfl := List.append_cancel_left he
    -- what follows the word is a letter of the name, or it is not blank
    have hblank : ∀ d, (r ++ (textIf optional ['?'] ++ ':' :: t)).head? = some d → isBlank d = false := by
      intro d hd
      cases r with
      | nil => rcases head?_behind_member hd with rfl | rfl <;> decide
      | cons c r =>
        obtain rfl : c = d := Option.some.inj hd
        exact not_blank_of_isIdentifierChar (hname.2 c (by simp))
    show dropBlanks? _ = none
    cases hrest : r ++ (textIf optional ['?'] ++ ':' :: t) with
    | nil => rfl
    | cons d u =>
      rw [hrest] at hblank
      rw [dropBlanks?, if_neg (by simp [hblank d rfl])]

/-- The name of a member is read with or without `readonly` in front. -/
theorem member?_text {name type : Text} (isReadonly optional : Bool) (hname : IsIdentifier name)
    (htype : shortestType? [] (stripLeft t) = some (type, remark)) :
    member? (textIf isReadonly "readonly " ++ (name ++ (textIf optional ['?'] ++ ':' :: t))) =
      some { name, optional, type, remark } := by
  have hplain := plainMember?_text optional hname htype
  cases isReadonly with
  | true =>
    have hfirst : ∀ d, (name ++ (textIf optional ['?'] ++ ':' :: t)).head? = some d →
        isBlank d = false := by
      intro d hd
      obtain ⟨hstart, -⟩ := hname
      cases name with
      | nil => cases hstart
      | cons c name =>
        obtain rfl : c = d := Option.some.inj hd
        exact not_blank_of_isIdentifierStart hstart
    have hshape : textIf true "readonly " ++ (name ++ (textIf optional ['?'] ++ ':' :: t)) =
        "readonly" ++ (' ' :: (name ++ (textIf optional ['?'] ++ ':' :: t))) := rfl
    have hblanks : dropBlanks? (' ' :: (name ++ (textIf optional ['?'] ++ ':' :: t))) =
        some (name ++ (textIf optional ['?'] ++ ':' :: t)) := by
      rw [dropBlanks?, if_pos (by decide)]
      exact congrArg some (stripLeft_eq_self hfirst)
    rw [hshape, member?, dropPrefix?_append]
    simp only [Option.bind_eq_bind, Option.bind_some, hblanks, hplain]
    rfl
  | false =>
    -- the reading with `readonly` fails, also for a name that starts with this word
    have hnone := dropBlanks?_readonly hname optional t
    rw [textIf, if_neg Bool.false_ne_true, List.nil_append, member?]
    simp only [Option.bind_eq_bind, ← Option.bind_assoc, hnone, hplain, Option.bind_none]
    rfl

/-- A member is read with the type that is found behind its colon. -/
theorem Signature.member?_append (s : Signature) {found : Text}
    (h : shortestType? [] (stripLeft (' ' :: (s.type ++ tail))) = some (found, remark)) :
    member? (s.text ++ tail) = some { s with type := found, remark } := by
  have hshape : s.text ++ tail = textIf s.isReadonly "readonly " ++
      (s.name ++ (textIf s.optional ['?'] ++ ':' :: ' ' :: (s.type ++ tail))) := by
    simp [text, head]
  rw [hshape, member?_text s.isReadonly s.optional s.isName h]

namespace MemberText

variable (m : MemberText)

theorem remarkAfter?_entryRemark : remarkAfter? m.entryRemark = some m.remarkSaid := by
  rw [entryRemark, remarkSaid]
  cases m.remark with
  | none => rfl
  | some c =>
    have hstrip : strip (' ' :: c) = strip c := rfl
    show some (strip (stripRight (' ' :: c))) = some (strip c)
    rw [strip_stripRight, hstrip]

theorem head?_entryRemark {d : Char} (h : m.entryRemark.head? = some d) : d ≠ '/' := by
  rw [entryRemark] at h
  cases hremark : m.remark with
  | none =>
    rw [hremark] at h
    cases h
  | some c =>
    rw [hremark] at h
    obtain rfl : ' ' = d := Option.some.inj h
    decide

/-- The entry on the line is read to the end of its type when no two slashes stand in it. -/
theorem member?_entry (hno : ¬ "//".toList <:+: m.signature.type) :
    member? m.entry = some { m.signature with remark := m.remarkSaid } :=
  m.signature.member?_append
    (m.signature.isType.shortestType?_eq hno (fun _ => m.head?_entryRemark) m.remarkAfter?_entryRemark)

/-- The entry on the line is not read to the end of its type when two slashes stand in it. -/
theorem exists_member?_entry (hin : "//".toList <:+: m.signature.type) : ∃ found remark,
    member? m.entry = some { m.signature with type := found, remark } ∧
      found.length < m.signature.type.length := by
  obtain ⟨found, remark, hfound, hlt⟩ := m.signature.isType.exists_shortestType? hin m.entryRemark
  exact ⟨found, remark, m.signature.member?_append hfound, hlt⟩

/-- The line declares what its entry is read as, with the comment that stands in front of it. -/
theorem membersOn_line {member : Member} (h : member? m.entry = some member) (front : Text) :
    membersOn front m.line = [⟨member, commentBefore? (front ++ m.indent.1)⟩] := by
  have htake : m.line.take m.indent.1.length = m.indent.1 := List.take_left' rfl
  rw [membersOn, m.lineMembers_line]
  simp only [List.filterMap_cons, htake, commentedMember?, h, List.filterMap_nil]
  rfl

end MemberText

end ComponentBook.InterfaceDeclaration
