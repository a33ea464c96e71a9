import ComponentBook.Proofs.Script.Bracket
import ComponentBook.Proofs.Text.Blank
import ComponentBook.Script.ComponentName
import Mathlib.Data.Option.Basic

/-! # The name that a component declares

The name of a component is looked for in the entries of its object, from the start of each one on
(`leadingName?_eq_some_iff`). Where the first entry for the name has nothing but blanks in front of it, its
value is the name, whatever else is called a name in the script, in the object or in a nested one; an entry
with a comment in front is passed over, and a later entry or the first name anywhere in the script decides
(**`componentName_text`**). -/

namespace ComponentBook.Script

open Text

variable {before : Option Char} {name part t u value : Text}

/-! ## Names with their values -/

/-- The word `name`, a colon between blanks and a value between quotes. -/
structure QuotedName where
  /-- Blanks in front of the colon. -/
  beforeColon : BlankText
  /-- Blanks behind the colon. -/
  afterColon : BlankText
  /-- The quotes around the value. -/
  quote : Char
  /-- The value. -/
  value : Text
  isQuote : (quote = '\'' || quote = '"') = true
  ne_nil : value ≠ []
  no_quote : ∀ c ∈ value, (c ≠ '\'' && c ≠ '"') = true

namespace QuotedName

variable (n : QuotedName)

/-- The name as it is written. -/
def text : Text :=
  "name" ++ (n.beforeColon.1 ++ ':' :: (n.afterColon.1 ++ n.quote :: (n.value ++ [n.quote])))

theorem text_append (t : Text) : n.text ++ t =
    "name" ++ (n.beforeColon.1 ++ ':' :: (n.afterColon.1 ++ n.quote :: (n.value ++ n.quote :: t))) := by
  simp [text]

theorem head?_text_append (t : Text) : (n.text ++ t).head? = some 'n' := rfl

theorem isBlank_quote : isBlank n.quote = false := by
  have hquote := n.isQuote
  rw [Bool.or_eq_true, decide_eq_true_eq, decide_eq_true_eq] at hquote
  rcases hquote with he | he <;> rw [he] <;> decide

theorem getLast?_text : n.text.getLast? = some n.quote := by
  have hshape : n.text =
      "name" ++ (n.beforeColon.1 ++ ':' :: (n.afterColon.1 ++ n.quote :: n.value)) ++ [n.quote] := by
    simp [text]
  rw [hshape, List.getLast?_concat]

/-- The value ends at the quote behind it. -/
theorem takeWhile_value (t : Text) :
    (n.value ++ n.quote :: t).takeWhile (fun c => c ≠ '\'' && c ≠ '"') = n.value := by
  refine takeWhile_append_of_stop n.no_quote fun c hc => ?_
  obtain rfl : n.quote = c := Option.some.inj hc
  have hquote := n.isQuote
  rw [Bool.or_eq_true, decide_eq_true_eq, decide_eq_true_eq] at hquote
  rcases hquote with he | he <;> rw [he] <;> decide

/-- A name that no word goes into is read off the start of a text. -/
theorem quotedName?_text_append (hbefore : before.any isWord = false) (t : Text) :
    quotedName? before (n.text ++ t) = some n.value := by
  have hboundary : boundary before (n.text ++ t).head? = true := by
    rw [boundary, hbefore, n.head?_text_append]
    decide
  have hcolon : stripLeft (n.beforeColon.1 ++ ':' :: (n.afterColon.1 ++ n.quote :: (n.value ++ n.quote :: t))) =
      ":" ++ (n.afterColon.1 ++ n.quote :: (n.value ++ n.quote :: t)) :=
    stripLeft_append_cons (by decide) _ _
  have hvalue : stripLeft (n.afterColon.1 ++ n.quote :: (n.value ++ n.quote :: t)) =
      n.quote :: (n.value ++ n.quote :: t) :=
    stripLeft_append_cons n.isBlank_quote _ _
  rw [quotedName?, hboundary, text_append, dropPrefix?_append]
  simp only [hcolon, dropPrefix?_append, hvalue, n.takeWhile_value, n.isQuote, Option.bind_eq_bind,
    Option.bind_some, List.drop_left, List.head?_cons, List.isEmpty_eq_false_iff.2 n.ne_nil]
  simp [guard]

end QuotedName

/-- A name with a value is found exactly where one stands that is not the end of a longer word. -/
theorem quotedName?_eq_some_iff : quotedName? before t = some value ↔
    before.any isWord = false ∧ ∃ n : QuotedName, n.value = value ∧ n.text <+: t := by
  constructor
  · intro h
    unfold quotedName? at h
    simp only [Option.bind_eq_bind, Option.bind_eq_some_iff, guard_eq_some_iff, dropPrefix?_eq_some_iff] at h
    obtain ⟨-, hboundary, u, rfl, v, hcolon, hvalue⟩ := h
    obtain ⟨beforeColon, hu⟩ := exists_blank_stripLeft u
    obtain ⟨afterColon, hv⟩ := exists_blank_stripLeft v
    split at hvalue
    · cases hvalue
    · next quote w hquoted =>
      simp only [Option.bind_eq_some_iff, guard_eq_some_iff, Option.pure_def, Option.some.injEq] at hvalue
      obtain ⟨-, hquote, -, hclosed, hvalue⟩ := hvalue
      rw [Bool.and_eq_true, decide_eq_true_eq] at hclosed
      obtain ⟨hne, hclosed⟩ := hclosed
      have hplain : ∀ c ∈ w.takeWhile fun c => c ≠ '\'' && c ≠ '"', (c ≠ '\'' && c ≠ '"') = true :=
        fun c => List.mem_takeWhile_imp (p := fun c => c ≠ '\'' && c ≠ '"')
      -- the value goes up to the next quote, which is the one that has opened it
      have hprefix := List.prefix_iff_eq_append.1 (List.takeWhile_prefix (l := w) fun c => c ≠ '\'' && c ≠ '"')
      obtain ⟨rest, hrest⟩ := List.head?_eq_some_iff.1 hclosed
      rw [hrest] at hprefix
      rw [hvalue] at hne hplain hprefix
      refine ⟨?_, ⟨beforeColon, afterColon, quote, value, hquote, by simpa using hne, hplain⟩, rfl, rest, ?_⟩
      · cases hb : before.any isWord with
        | false => rfl
        | true =>
          rw [boundary, hb] at hboundary
          exact absurd hboundary (by simp; decide)
      · rw [QuotedName.text_append, hprefix, ← hquoted, ← hv, hu, hcolon]
        rfl
  · rintro ⟨hbefore, n, rfl, rest, rfl⟩
    exact n.quotedName?_text_append hbefore rest

/-! ## The start of an entry -/

/-- The name that an entry gives from its start on, if it is not blank. -/
def leadingName? (part : Text) : Option Text := do
  let value ← quotedName? none part.strip
  guard (!value.strip.isEmpty)
  return value.strip

/-- An entry starts with a name and a value that is not blank, only blanks in front. -/
def StartsWithName (part : Text) (name : Text) : Prop :=
  ∃ (blank : BlankText) (n : QuotedName), n.value.allBlank = false ∧ n.value.strip = name ∧
    blank.1 ++ n.text <+: part

theorem leadingName?_eq_some_iff : leadingName? part = some name ↔ StartsWithName part name := by
  simp only [leadingName?, Option.bind_eq_bind, Option.bind_eq_some_iff, guard_eq_some_iff, Option.pure_def,
    Option.some.injEq, quotedName?_eq_some_iff]
  constructor
  · rintro ⟨_, ⟨-, n, rfl, rest, hrest⟩, -, hne, hname⟩
    obtain ⟨a, b, hpart⟩ := exists_eq_strip part
    refine ⟨a, n, ?_, hname, rest ++ b.1, ?_⟩
    · rw [Bool.eq_false_iff]
      intro hblank
      rw [strip_eq_nil_iff.2 hblank] at hne
      cases hne
    · conv_rhs => rw [hpart, ← hrest]
      simp
  · rintro ⟨blank, n, hfilled, hname, rest, rfl⟩
    -- a name starts and ends with characters that are not blank, and is not cut
    have hstrip : strip (blank.1 ++ n.text ++ rest) = n.text ++ stripRight rest := by
      have hlast : ∀ c, n.text.getLast? = some c → isBlank c = false := by
        intro c hc
        rw [n.getLast?_text] at hc
        obtain rfl : n.quote = c := Option.some.inj hc
        exact n.isBlank_quote
      have hfirst : ∀ c, (n.text ++ rest).head? = some c → isBlank c = false := by
        rw [n.head?_text_append]
        decide
      rw [List.append_assoc, strip_blank_append blank.2, strip, stripLeft_eq_self hfirst,
        stripRight_append_eq hlast]
    refine ⟨n.value, ⟨rfl, n, rfl, _, hstrip.symm⟩, (), ?_, hname⟩
    have hne : n.value.strip ≠ [] := by
      rw [Ne, strip_eq_nil_iff, hfilled]
      decide
    simpa using hne

theorem leadingName?_eq_none_iff : leadingName? part = none ↔ ∀ name, ¬ StartsWithName part name := by
  simp only [Option.eq_none_iff_forall_ne_some, Ne, leadingName?_eq_some_iff]

theorem leadingName?_of_allBlank (h : part.allBlank = true) : leadingName? part = none := by
  rw [leadingName?, strip_eq_nil_iff.2 h]
  rfl

/-! ## Scripts with a component object -/

/-- What stands in front of the object of a component. -/
inductive ComponentOpening where
  /-- The object is exported as default. -/
  | exported (gap : BlankText) (ne_nil : gap.1 ≠ []) (beforeObject : BlankText)
  /-- It is exported as default through `defineComponent`. -/
  | defined (gap : BlankText) (ne_nil : gap.1 ≠ [])
      (beforeWord beforeParenthesis beforeObject : BlankText)
  /-- It is handed to `defineOptions`. -/
  | options (beforeParenthesis beforeObject : BlankText)

/-- The opening as it is written. -/
def ComponentOpening.text : ComponentOpening → Text
  | exported gap _ beforeObject => "export" ++ (gap.1 ++ ("default" ++ beforeObject.1))
  | defined gap _ beforeWord beforeParenthesis beforeObject =>
    "export" ++ (gap.1 ++ ("default" ++ (beforeWord.1 ++ ("defineComponent" ++
      (beforeParenthesis.1 ++ '(' :: beforeObject.1)))))
  | options beforeParenthesis beforeObject =>
    "defineOptions" ++ (beforeParenthesis.1 ++ '(' :: beforeObject.1)

/-- The object of a component is found behind its opening. -/
theorem componentObject?_text (opening : ComponentOpening) (t : Text) :
    componentObject? (opening.text ++ '{' :: t) = some ('{' :: t) := by
  have hbrace (blank : BlankText) (u : Text) : stripLeft (blank.1 ++ '{' :: u) = '{' :: u :=
    stripLeft_append_cons (by decide) blank u
  have hparenthesis (blank : BlankText) (u : Text) : stripLeft (blank.1 ++ '(' :: u) = "(" ++ u :=
    stripLeft_append_cons (by decide) blank u
  have hletter {u : Text} (hu : u.head? = some 'd') : ∀ c, u.head? = some c → isBlank c = false := by
    rw [hu]
    decide
  have hword (blank : BlankText) (u : Text) :
      stripLeft (blank.1 ++ ("defineComponent" ++ u)) = "defineComponent" ++ u :=
    stripLeft_append blank.2 (hletter rfl)
  have hdefault {gap : BlankText} (hgap : gap.1 ≠ []) (u : Text) :
      dropBlanks? (gap.1 ++ ("default" ++ u)) = some ("default" ++ u) :=
    dropBlanks?_append hgap (hletter rfl)
  cases opening with
  | exported gap hgap beforeObject =>
    have hshape : (ComponentOpening.exported gap hgap beforeObject).text ++ '{' :: t =
        "export" ++ (gap.1 ++ ("default" ++ (beforeObject.1 ++ '{' :: t))) := by
      show ("export".toList ++ (gap.1 ++ ("default".toList ++ beforeObject.1))) ++ '{' :: t = _
      simp only [List.append_assoc]
    have hplain : dropPrefix? "defineComponent" ('{' :: t) = none := rfl
    rw [hshape, componentObject?, dropPrefix?_append]
    simp only [hdefault hgap, dropPrefix?_append, hbrace, dropDefineComponent, hplain, Option.bind_eq_bind,
      Option.bind_some, Option.bind_none]
    rfl
  | defined gap hgap beforeWord beforeParenthesis beforeObject =>
    have hshape : (ComponentOpening.defined gap hgap beforeWord beforeParenthesis beforeObject).text ++
        '{' :: t = "export" ++ (gap.1 ++ ("default" ++ (beforeWord.1 ++ ("defineComponent" ++
          (beforeParenthesis.1 ++ '(' :: (beforeObject.1 ++ '{' :: t)))))) := by
      show ("export".toList ++ (gap.1 ++ ("default".toList ++ (beforeWord.1 ++ ("defineComponent".toList ++
        (beforeParenthesis.1 ++ '(' :: beforeObject.1)))))) ++ '{' :: t = _
      simp only [List.append_assoc, List.cons_append]
    rw [hshape, componentObject?, dropPrefix?_append]
    simp only [hdefault hgap, dropPrefix?_append, hword, dropDefineComponent, hparenthesis, hbrace,
      Option.bind_eq_bind, Option.bind_some]
    rfl
  | options beforeParenthesis beforeObject =>
    have hshape : (ComponentOpening.options beforeParenthesis beforeObject).text ++ '{' :: t =
        "defineOptions" ++ (beforeParenthesis.1 ++ '(' :: (beforeObject.1 ++ '{' :: t)) := by
      show ("defineOptions".toList ++ (beforeParenthesis.1 ++ '(' :: beforeObject.1)) ++ '{' :: t = _
      simp only [List.append_assoc, List.cons_append]
    have hother (u : Text) : dropPrefix? "export" ("defineOptions" ++ u) = none := rfl
    rw [hshape, componentObject?, hother]
    simp only [dropPrefix?_append, hparenthesis, hbrace, Option.bind_eq_bind, Option.bind_some,
      Option.bind_none]
    rfl

/-- A script with the object of a component, the first one in it, whose brackets are closed in order. -/
structure ComponentScript where
  /-- The script in front of the object. -/
  before : Text
  /-- What opens the object. -/
  opening : ComponentOpening
  /-- The text between the braces of the object. -/
  body : Text
  /-- The script behind the object. -/
  after : Text
  first : ∀ x y, before = x ++ y → y ≠ [] →
    componentObject? (y ++ (opening.text ++ '{' :: (body ++ '}' :: after))) = none
  closed : ∃ ls, ScansTo (body ++ '}' :: after) ls ('}' :: after) ∧ WellBracketed ls

namespace ComponentScript

/-- No object opens in front of the one that is found first. -/
theorem none_of_first {s t : Text}
    (h : (search (fun _ t => componentObject? t) none (s ++ t)).map Prod.fst = some s) :
    ∀ x y, s = x ++ y → y ≠ [] → componentObject? (y ++ t) = none := none_of_search h

variable (script : ComponentScript)

/-- The whole script. -/
def text : Text :=
  script.before ++ (script.opening.text ++ '{' :: (script.body ++ '}' :: script.after))

/-- The entries of the object: the parts between the commas that stand outside of brackets, string literals
and comments. -/
def entries : List Text := partsTopLevel (· == ',') 0 (lexemes script.body)

/-- The first entry that gives a name from its start on declares the name of the component. -/
theorem declaredName?_text : declaredName? script.text = script.entries.findSome? leadingName? := by
  have hfound : search (fun _ t => componentObject? t) none script.text =
      some (script.before, '{' :: (script.body ++ '}' :: script.after)) :=
    search_of_first_place script.first (componentObject?_text script.opening _)
  have hblock : balancedBlock? ('{' :: (script.body ++ '}' :: script.after)) =
      some (script.body, script.after) := (balancedBlock?_opening_iff .curly).2 script.closed
  rw [declaredName?, hfound]
  simp only [Option.bind_eq_bind, Option.bind_some, hblock]
  exact findSome?_splitTopLevel (fun _ => leadingName?_of_allBlank) (· == ',') script.body

end ComponentScript

/-! ## Entries for the name -/

/-- A comment, with its end. -/
inductive IsComment : Text → Prop where
  /-- A block comment. -/
  | block {body : Text} : ¬ "*/".toList <:+: body → IsComment ("/*" ++ (body ++ "*/"))
  /-- A line comment with its line feed. -/
  | line {body : Text} : '\n' ∉ body → IsComment ("//" ++ (body ++ ['\n']))

/-- An entry for the name of a component. -/
structure NameEntry where
  /-- The comments in front, each with the blanks in front of it. -/
  comments : List (BlankText × Text)
  isComment : ∀ comment ∈ comments, IsComment comment.2
  /-- The blanks in front of the name. -/
  blank : BlankText
  /-- The name and its value. -/
  name : QuotedName
  filled : name.value.allBlank = false
  /-- What stands behind the value. -/
  behind : Text

/-- The entry as it is written. -/
def NameEntry.text (entry : NameEntry) : Text :=
  (entry.comments.flatMap fun comment => comment.1.1 ++ comment.2) ++
    (entry.blank.1 ++ (entry.name.text ++ entry.behind))

/-- Behind blanks an entry gives its value. -/
theorem NameEntry.leadingName?_text {entry : NameEntry} (h : entry.comments = []) :
    leadingName? entry.text = some entry.name.value.strip := by
  refine leadingName?_eq_some_iff.2 ⟨entry.blank, entry.name, entry.filled, rfl, entry.behind, ?_⟩
  rw [NameEntry.text, h, List.append_assoc]
  rfl

/-- Behind a comment it gives nothing. -/
theorem NameEntry.leadingName?_commented {entry : NameEntry} (h : entry.comments ≠ []) :
    leadingName? entry.text = none := by
  obtain ⟨⟨blank, comment⟩, comments, hcomments⟩ := List.exists_cons_of_ne_nil h
  obtain ⟨u, hu⟩ : ∃ u, comment = '/' :: u := by
    cases entry.isComment (blank, comment) (by simp [hcomments]) with
    | block _ => exact ⟨_, rfl⟩
    | line _ => exact ⟨_, rfl⟩
  obtain ⟨v, hv⟩ : ∃ v, entry.text = blank.1 ++ '/' :: v := by
    rw [NameEntry.text, hcomments, List.flatMap_cons, hu, List.append_assoc, List.append_assoc]
    exact ⟨_, rfl⟩
  rw [leadingName?_eq_none_iff]
  rintro name ⟨other, n, -, -, rest, hrest⟩
  -- the first character that is not blank is a slash
  rw [hv, List.append_assoc] at hrest
  have hstrip := congrArg stripLeft hrest
  rw [stripLeft_append_cons (by decide), stripLeft_append other.2] at hstrip
  · have hhead := congrArg List.head? hstrip
    rw [n.head?_text_append] at hhead
    exact absurd hhead (by simp)
  · rw [n.head?_text_append]
    decide

/-- **The name of a component.** Let no entry in front of an entry for the name start with a name. If the entry
has no comments in front, its value is the name of the component, whatever else stands in the script. Behind
a comment the entry is passed over: the name is that of the first later entry that starts with one, else the
first name with a value anywhere in the script. -/
theorem componentName_text {script : ComponentScript} {front later : List Text} {entry : NameEntry}
    (hentries : script.entries = front ++ entry.text :: later)
    (hfront : ∀ part ∈ front, ∀ name, ¬ StartsWithName part name) (fallback : Text) :
    (entry.comments = [] → componentName script.text fallback = entry.name.value.strip) ∧
    (entry.comments ≠ [] → componentName script.text fallback =
      ((later.findSome? leadingName?).or (firstName? script.text)).getD fallback) := by
  have hnone : front.findSome? leadingName? = none :=
    List.findSome?_eq_none_iff.2 fun part hpart => leadingName?_eq_none_iff.2 (hfront part hpart)
  rw [componentName, script.declaredName?_text, hentries, List.findSome?_append, hnone, Option.none_or,
    List.findSome?_cons]
  constructor
  · intro hcomments
    rw [NameEntry.leadingName?_text hcomments]
    rfl
  · intro hcomments
    rw [NameEntry.leadingName?_commented hcomments]

/-- An entry with a nested object in which something else is called a name. -/
def dataEntry : Text := "\n  data() \x7b return \x7b name: 'inner' \x7d \x7d"

theorem not_startsWithName_dataEntry : ∀ name, ¬ StartsWithName dataEntry name :=
  leadingName?_eq_none_iff.1 (by decide +kernel)

/-- An entry for the name on a line of its own, with blanks at the ends of the value. -/
def plainEntry : NameEntry where
  comments := []
  isComment := by simp
  blank := ⟨"\n  ", by decide⟩
  name := ⟨space, noBlank, '"', " My Button ", by decide, by decide, by decide⟩
  filled := by decide
  behind := []

/-- A script in which other things are called a name, in front of the entry, in it, and behind it. -/
def nestedNames : ComponentScript where
  before := "const page = \x7b name: 'page' \x7d\n"
  opening := .defined space space_ne_nil space noBlank noBlank
  body := join [','] ([dataEntry] ++ plainEntry.text :: [" name: 'late' // name: 'note'\n"])
  after := ")\nname: 'last'"
  first := ComponentScript.none_of_first (by decide +kernel)
  closed := (balancedBlock?_opening_iff .curly).1 (by decide +kernel)

theorem componentName_nestedNames : componentName nestedNames.text "file" = "My Button".toList := by
  have hentries : nestedNames.entries =
      [dataEntry] ++ plainEntry.text :: [" name: 'late' // name: 'note'\n"] := by decide +kernel
  have hfront : ∀ part ∈ [dataEntry], ∀ name, ¬ StartsWithName part name := by
    rw [List.forall_mem_singleton]
    exact not_startsWithName_dataEntry
  rw [(componentName_text hentries hfront "file").1 rfl]
  decide

/-- An entry for the name behind a comment. -/
def commentedEntry : NameEntry where
  comments := [(⟨"\n  ", by decide⟩, "//" ++ (" public name" ++ ['\n']))]
  isComment := by
    rw [List.forall_mem_singleton]
    exact .line (by decide)
  blank := ⟨"  ", by decide⟩
  name := ⟨noBlank, space, '\'', "Outer", by decide, by decide, by decide⟩
  filled := by decide
  behind := "\n"

/-- A script in which it is the only entry for the name. -/
def commentedName : ComponentScript where
  before := []
  opening := .exported space space_ne_nil space
  body := join [','] [dataEntry, commentedEntry.text]
  after := []
  first := ComponentScript.none_of_first (by decide +kernel)
  closed := (balancedBlock?_opening_iff .curly).1 (by decide +kernel)

/-- The name that is declared behind a comment is not found; that in the nested object is. -/
theorem componentName_commentedName :
    commentedName.entries = [dataEntry] ++ commentedEntry.text :: [] ∧
    (∀ name, ¬ StartsWithName dataEntry name) ∧
    commentedEntry.name.value = "Outer".toList ∧
    componentName commentedName.text "file" = "inner".toList := by
  refine ⟨by decide +kernel, not_startsWithName_dataEntry, rfl, ?_⟩
  decide +kernel

end ComponentBook.Script
