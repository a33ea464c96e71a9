import ComponentBook.Proofs.Property.EntryReading

/-! # Type expressions and the commas in them

A type expression is a name, a text in brackets, a function type, a union or a name with type arguments in
angle brackets (**`TypeSyntax`**). To a scan angle brackets are no brackets: the commas between type arguments
separate unless they stand in brackets of another kind. **`TypeSyntax.parts`** are the parts between these
commas; there is one part exactly when no list of several arguments stands outside of brackets
(**`TypeSyntax.length_parts_eq_one_iff`**). Each part is code in which no entry and no key is found
(**`TypeSyntax.isTypePart`**, `IsTypePart.property?_eq_none`, `IsTypePart.valueIn?_eq_none`). -/

namespace ComponentBook.ObjectDeclaration

open Script Text

variable {a b p s t name rest : Text} {as bs ps : List Text} {c : Char} {key : Key}

/-! ## Parts that go on in other parts -/

/-- Two lists of parts, the last part of the first one going on in the first part of the second one. -/
def glue : List Text → List Text → List Text
  | [], bs => bs
  | [a], bs => prepend a bs
  | a :: a' :: as, bs => a :: glue (a' :: as) bs

theorem prepend_ne_nil (s : Text) (ps : List Text) : prepend s ps ≠ [] := by
  cases ps <;> simp [prepend]

theorem join_prepend (s : Text) (ps : List Text) : join [','] (prepend s ps) = s ++ join [','] ps := by
  match ps with
  | [] => simp [prepend]
  | [p] => simp [prepend]
  | p :: p' :: ps => simp [prepend]

theorem length_prepend (s : Text) (h : ps ≠ []) : (prepend s ps).length = ps.length := by
  cases ps with
  | nil => exact absurd rfl h
  | cons p ps => rfl

theorem forall_mem_prepend {P : Text → Prop} (hps : ∀ p ∈ ps, P p) (hne : ps ≠ [])
    (hs : ∀ p, P p → P (s ++ p)) : ∀ p ∈ prepend s ps, P p := by
  cases ps with
  | nil => exact absurd rfl hne
  | cons p ps =>
    obtain ⟨hp, hrest⟩ := List.forall_mem_cons.1 hps
    exact List.forall_mem_cons.2 ⟨hs p hp, hrest⟩

theorem glue_ne_nil (ha : as ≠ []) (bs : List Text) : glue as bs ≠ [] := by
  fun_cases glue as bs with
  | case1 => exact absurd rfl ha
  | case2 a => exact prepend_ne_nil a bs
  | case3 a a' as => exact List.cons_ne_nil _ _

/-- Nothing is lost: with commas between them the parts are the two texts, one behind the other. -/
theorem join_glue (ha : as ≠ []) (bs : List Text) :
    join [','] (glue as bs) = join [','] as ++ join [','] bs := by
  fun_induction glue as bs with
  | case1 => exact absurd rfl ha
  | case2 a bs => rw [join_prepend, join_singleton]
  | case3 a a' as bs ih =>
    have hrest := ih (List.cons_ne_nil _ _)
    obtain ⟨g, gs, hg⟩ := List.exists_cons_of_ne_nil (glue_ne_nil (List.cons_ne_nil a' as) bs)
    rw [hg] at hrest
    rw [hg, join_cons_cons, hrest, join_cons_cons]
    simp

theorem length_glue (ha : as ≠ []) (hb : bs ≠ []) : (glue as bs).length + 1 = as.length + bs.length := by
  fun_induction glue as bs with
  | case1 => exact absurd rfl ha
  | case2 a bs =>
    rw [length_prepend a hb, List.length_singleton]
    omega
  | case3 a a' as bs ih =>
    have hrest := ih (List.cons_ne_nil _ _) hb
    rw [List.length_cons, List.length_cons]
    omega

/-- What holds of all parts holds of the glued ones when it holds where the two lists meet. -/
theorem forall_mem_glue {P : Text → Prop} (ha : ∀ p ∈ as, P p) (hne : as ≠ [])
    (hb : ∀ p ∈ bs.tail, P p) (hmeet : ∀ p, P p → P (p ++ bs.headD [])) : ∀ p ∈ glue as bs, P p := by
  fun_induction glue as bs with
  | case1 => exact absurd rfl hne
  | case2 a bs =>
    have hmet := hmeet a (ha a List.mem_cons_self)
    cases bs with
    | nil => exact List.forall_mem_singleton.2 (by rwa [List.headD_nil, List.append_nil] at hmet)
    | cons b bs => exact List.forall_mem_cons.2 ⟨hmet, hb⟩
  | case3 a a' as bs ih =>
    obtain ⟨hfirst, hrest⟩ := List.forall_mem_cons.1 ha
    exact List.forall_mem_cons.2 ⟨hfirst, ih hrest (List.cons_ne_nil _ _) hb hmeet⟩

/-! ## The shape of a type expression -/

/-- A character in the name of a type, which may be qualified. -/
def isNamePart (c : Char) : Bool := isIdentifierChar c || c = '-' || c = '.'

/-- A name of a type. -/
def IsTypeName (t : Text) : Prop := t ≠ [] ∧ ∀ c ∈ t, isNamePart c = true

/-- What a piece of type syntax stands for: a type, or a list of type arguments. -/
inductive TypeSort where
  /-- A type. -/
  | type
  /-- One type argument or several. -/
  | arguments

/-- Type expressions and lists of type arguments, with the blank characters in them. -/
inductive TypeSyntax : TypeSort → Type where
  /-- A name. -/
  | name (t : Text) (h : IsTypeName t) : TypeSyntax .type
  /-- An object type, a tuple type or a type in parentheses. -/
  | bracketed (b : Bracket) (body : Text) (h : Code true (fun _ => false) body) : TypeSyntax .type
  /-- A function type with what stands between the parentheses of its parameters. -/
  | function (parameters : Text) (h : Code true (fun _ => false) parameters)
      (beforeArrow afterArrow : BlankText) (result : TypeSyntax .type) : TypeSyntax .type
  /-- A union of two types. -/
  | union (left : TypeSyntax .type) (beforeBar afterBar : BlankText) (right : TypeSyntax .type) :
      TypeSyntax .type
  /-- A generic type with its arguments. -/
  | generic (name : Text) (h : IsTypeName name) (args : TypeSyntax .arguments) : TypeSyntax .type
  /-- The last type argument. -/
  | last (before : BlankText) (t : TypeSyntax .type) (behind : BlankText) : TypeSyntax .arguments
  /-- A type argument and the arguments behind it. -/
  | more (before : BlankText) (t : TypeSyntax .type) (behind : BlankText)
      (others : TypeSyntax .arguments) : TypeSyntax .arguments

namespace TypeSyntax

variable {k : TypeSort}

/-- Its text. -/
def text {k : TypeSort} : TypeSyntax k → Text
  | .name t _ => t
  | .bracketed b body _ => b.opening :: (body ++ [b.closing])
  | .function parameters _ beforeArrow afterArrow result =>
    '(' :: (parameters ++ ')' :: (beforeArrow.1 ++ ("=>" ++ afterArrow.1))) ++ result.text
  | .union left beforeBar afterBar right =>
    left.text ++ (beforeBar.1 ++ '|' :: afterBar.1 ++ right.text)
  | .generic name _ args => name ++ ['<'] ++ (args.text ++ ['>'])
  | .last before t behind => before.1 ++ (t.text ++ behind.1)
  | .more before t behind others => before.1 ++ (t.text ++ behind.1) ++ ',' :: others.text

/-- The parts between the commas that stand outside of round, square and curly brackets. -/
def parts {k : TypeSort} : TypeSyntax k → List Text
  | .name t _ => [t]
  | .bracketed b body _ => [b.opening :: (body ++ [b.closing])]
  | .function parameters _ beforeArrow afterArrow result =>
    prepend ('(' :: (parameters ++ ')' :: (beforeArrow.1 ++ ("=>" ++ afterArrow.1)))) result.parts
  | .union left beforeBar afterBar right =>
    glue left.parts (prepend (beforeBar.1 ++ '|' :: afterBar.1) right.parts)
  | .generic name _ args => prepend (name ++ ['<']) (glue args.parts [['>']])
  | .last before t behind => prepend before.1 (glue t.parts [behind.1])
  | .more before t behind others => prepend before.1 (glue t.parts [behind.1]) ++ others.parts

/-- No list of several type arguments stands outside of round, square and curly brackets. -/
def IsWhole {k : TypeSort} : TypeSyntax k → Prop
  | .name _ _ => True
  | .bracketed _ _ _ => True
  | .function _ _ _ _ result => result.IsWhole
  | .union left _ _ right => left.IsWhole ∧ right.IsWhole
  | .generic _ _ args => args.IsWhole
  | .last _ t _ => t.IsWhole
  | .more _ _ _ _ => False

theorem parts_ne_nil (t : TypeSyntax k) : t.parts ≠ [] := by
  induction t with
  | name t h => exact List.cons_ne_nil _ _
  | bracketed b body h => exact List.cons_ne_nil _ _
  | function parameters h beforeArrow afterArrow result ih => exact prepend_ne_nil _ _
  | union left beforeBar afterBar right ihLeft ihRight => exact glue_ne_nil ihLeft _
  | generic name h args ih => exact prepend_ne_nil _ _
  | last before t behind ih => exact prepend_ne_nil _ _
  | more before t behind others ih ihOthers => simp [parts, prepend_ne_nil]

/-- The parts make up the text. -/
theorem join_parts (t : TypeSyntax k) : join [','] t.parts = t.text := by
  induction t with
  | name t h => rfl
  | bracketed b body h => rfl
  | function parameters h beforeArrow afterArrow result ih => rw [parts, join_prepend, ih, text]
  | union left beforeBar afterBar right ihLeft ihRight =>
    rw [parts, join_glue left.parts_ne_nil, join_prepend, ihLeft, ihRight, text]
  | generic name h args ih =>
    rw [parts, join_prepend, join_glue args.parts_ne_nil, ih, text, join_singleton]
  | last before t behind ih =>
    rw [parts, join_prepend, join_glue t.parts_ne_nil, ih, text, join_singleton]
  | more before t behind others ih ihOthers =>
    rw [parts, join_append _ (prepend_ne_nil _ _) others.parts_ne_nil, join_prepend,
      join_glue t.parts_ne_nil, ih, ihOthers, text, join_singleton]
    simp

/-- **When a type is one part.** -/
theorem length_parts_eq_one_iff (t : TypeSyntax k) : t.parts.length = 1 ↔ t.IsWhole := by
  induction t with
  | name t h => simp [parts, IsWhole]
  | bracketed b body h => simp [parts, IsWhole]
  | function parameters h beforeArrow afterArrow result ih =>
    rw [parts, length_prepend _ result.parts_ne_nil, ih, IsWhole]
  | union left beforeBar afterBar right ihLeft ihRight =>
    -- the part in which the two types meet is a part of both
    have hlength := length_glue left.parts_ne_nil (prepend_ne_nil (beforeBar.1 ++ '|' :: afterBar.1) right.parts)
    have hleft := List.length_pos_iff.2 left.parts_ne_nil
    have hright := List.length_pos_iff.2 right.parts_ne_nil
    rw [length_prepend _ right.parts_ne_nil] at hlength
    rw [parts, IsWhole, ← ihLeft, ← ihRight]
    omega
  | generic name h args ih =>
    have hlength := length_glue args.parts_ne_nil (List.cons_ne_nil ['>'] [])
    rw [List.length_singleton] at hlength
    rw [parts, length_prepend _ (glue_ne_nil args.parts_ne_nil _), IsWhole, ← ih]
    omega
  | last before t behind ih =>
    have hlength := length_glue t.parts_ne_nil (List.cons_ne_nil behind.1 [])
    rw [List.length_singleton] at hlength
    rw [parts, length_prepend _ (glue_ne_nil t.parts_ne_nil _), IsWhole, ← ih]
    omega
  | more before t behind others ih ihOthers =>
    -- the comma behind the argument separates, so that there are two parts at least
    have hfirst := List.length_pos_iff.2 (prepend_ne_nil before.1 (glue t.parts [behind.1]))
    have hothers := List.length_pos_iff.2 others.parts_ne_nil
    rw [parts, IsWhole, List.length_append, iff_false]
    omega

end TypeSyntax

/-! ## The parts of a type expression -/

/-- Behind a name: nothing that makes the name longer, and nothing that makes it the name of a value. -/
def EndsName (rest : Text) : Prop :=
  (∀ c, rest.head? = some c → isNamePart c = false) ∧
    ∀ c, (stripLeft rest).head? = some c → c ≠ ':' ∧ c ≠ '('

theorem EndsName.append (h : EndsName rest) (hs : EndsName s) : EndsName (rest ++ s) := by
  cases rest with
  | nil => exact hs
  | cons d rest =>
    refine ⟨h.1, fun c hc => ?_⟩
    -- what follows decides when only blank characters stand in front of it
    by_cases hblank : allBlank (d :: rest) = true
    · rw [stripLeft, List.dropWhile_append_of_pos (allBlank_eq_true_iff.1 hblank)] at hc
      exact hs.2 c hc
    · have hne : stripLeft (d :: rest) ≠ [] := mt stripLeft_eq_nil_iff.1 hblank
      rw [stripLeft_append_right hne, List.head?_append_of_ne_nil _ hne] at hc
      exact h.2 c hc

theorem not_namePart_of_isBlank (h : isBlank c = true) : isNamePart c = false := by
  have hne : ∀ d, isBlank d = false → c ≠ d := by
    rintro d hd rfl
    rw [h] at hd
    cases hd
  simp [isNamePart, isIdentifierChar, isWord_of_isBlank h, hne '$' (by decide), hne '-' (by decide),
    hne '.' (by decide)]

theorem not_blank_of_isNamePart (h : isNamePart c = true) : isBlank c = false := by
  rw [Bool.eq_false_iff]
  intro hblank
  rw [not_namePart_of_isBlank hblank] at h
  cases h

theorem endsName_blank (blank : BlankText) : EndsName blank.1 := by
  refine ⟨fun c hc => ?_, fun c hc => ?_⟩
  · exact not_namePart_of_isBlank (allBlank_eq_true_iff.1 blank.2 c (List.mem_of_head? hc))
  · rw [stripLeft_eq_nil_iff.2 blank.2] at hc
    cases hc

theorem endsName_cons (hname : isNamePart c = false) (hblank : isBlank c = false)
    (hc : c ≠ ':' ∧ c ≠ '(') (t : Text) : EndsName (c :: t) := by
  refine ⟨fun d hd => ?_, fun d hd => ?_⟩
  · obtain rfl : c = d := Option.some.inj hd
    exact hname
  · rw [stripLeft_eq_self (by simpa using hblank)] at hd
    obtain rfl : c = d := Option.some.inj hd
    exact hc

/-- Code behind which any code may stand. -/
structure IsPiece (p : Text) : Prop where
  code : Code true (· == ',') p
  no_slash : p.getLast? ≠ some '/'

theorem IsPiece.append (ha : IsPiece a) (hb : IsPiece b) : IsPiece (a ++ b) where
  code := ha.code.append hb.code (apart_of_getLast? ha.no_slash)
  no_slash := by
    rcases List.eq_nil_or_concat b with rfl | ⟨b, d, rfl⟩
    · rw [List.append_nil]
      exact ha.no_slash
    · have hlast := hb.no_slash
      rw [List.concat_eq_append, List.getLast?_concat] at hlast
      rwa [List.concat_eq_append, ← List.append_assoc, List.getLast?_concat]

/-- In front of a piece any code may stand that is apart from it. -/
theorem IsPiece.code_append (ha : Code true (· == ',') a) (hb : IsPiece b) (hne : b ≠ [])
    (hapart : Apart a b) : IsPiece (a ++ b) :=
  ⟨ha.append hb.code hapart, by rw [List.getLast?_append_of_ne_nil _ hne]; exact hb.no_slash⟩

theorem isPiece_of_inert (h : ∀ c ∈ t, c ∉ specialChars ∧ (c == ',') = false) : IsPiece t :=
  ⟨.of_inert h, fun hlast => (h '/' (List.mem_of_getLast? hlast)).1 (by decide)⟩

theorem isPiece_blank (blank : BlankText) : IsPiece blank.1 :=
  isPiece_of_inert (inert_of (p := isBlank) (by decide) (allBlank_eq_true_iff.1 blank.2))

/-- A colon and the blank characters around it. -/
theorem isPiece_colon (beforeColon afterColon : BlankText) :
    IsPiece (beforeColon.1 ++ ':' :: afterColon.1) :=
  (isPiece_blank beforeColon).append
    ((isPiece_of_inert (t := [':']) (by decide)).append (isPiece_blank afterColon))

theorem isPiece_name (h : ∀ c ∈ t, isNamePart c = true) : IsPiece t :=
  isPiece_of_inert (inert_of (p := isNamePart) (by decide) h)

theorem isPiece_bracket (b : Bracket) (h : Code true (fun _ => false) t) :
    IsPiece (b.opening :: (t ++ [b.closing])) where
  code := .block b h .nil
  no_slash := by
    rw [← List.cons_append, List.getLast?_concat]
    cases b <;> decide

/-- A part of a type expression: it starts with a name or with a bracket, blank characters left aside. -/
structure IsTypePart (p : Text) : Prop extends IsPiece p where
  exists_start : ∃ (blank : BlankText) (name rest : Text), p = blank.1 ++ (name ++ rest) ∧
    (∀ c ∈ name, isNamePart c = true) ∧
      (name = [] ∧ (∃ b : Bracket, rest.head? = some b.opening) ∨ name ≠ [] ∧ EndsName rest)

theorem IsTypePart.append (h : IsTypePart p) (hs : IsPiece s) (hend : EndsName s) :
    IsTypePart (p ++ s) := by
  refine ⟨h.toIsPiece.append hs, ?_⟩
  obtain ⟨blank, name, rest, rfl, hname, hrest⟩ := h.exists_start
  refine ⟨blank, name, rest ++ s, by simp, hname, ?_⟩
  rcases hrest with ⟨hnil, b, hb⟩ | ⟨hne, hrest⟩
  · exact .inl ⟨hnil, b, by rw [List.head?_append, hb]; rfl⟩
  · exact .inr ⟨hne, hrest.append hend⟩

theorem IsTypePart.blank_append (h : IsTypePart p) (blank : BlankText) : IsTypePart (blank.1 ++ p) := by
  refine ⟨(isPiece_blank blank).append h.toIsPiece, ?_⟩
  obtain ⟨blank', name, rest, rfl, hrest⟩ := h.exists_start
  refine ⟨⟨blank.1 ++ blank'.1, ?_⟩, name, rest, (List.append_assoc _ _ _).symm, hrest⟩
  rw [allBlank_append, blank.2, blank'.2, Bool.and_self]

theorem isTypePart_name (h : IsTypeName t) (hs : IsPiece s) (hend : EndsName s) :
    IsTypePart (t ++ s) :=
  ⟨(isPiece_name h.2).append hs, noBlank, t, s, rfl, h.2, .inr ⟨h.1, hend⟩⟩

theorem isTypePart_bracket (b : Bracket) (h : Code true (fun _ => false) t) (hs : IsPiece s) :
    IsTypePart (b.opening :: (t ++ [b.closing]) ++ s) :=
  ⟨(isPiece_bracket b h).append hs, noBlank, [], _, rfl, by simp, .inl ⟨rfl, b, rfl⟩⟩

/-- **The parts of a type expression** are code, and each starts with a name or with a bracket. -/
theorem TypeSyntax.isTypePart {k : TypeSort} (t : TypeSyntax k) : ∀ p ∈ t.parts, IsTypePart p := by
  have hnil : IsPiece [] := ⟨.nil, by simp⟩
  have hclose : IsPiece ['>'] := isPiece_of_inert (by decide)
  have hend : EndsName ['>'] := endsName_cons (by decide) (by decide) (by decide) []
  -- an argument keeps its parts; the blank characters around it go to the first and to the last one
  have hargument (before : BlankText) (t : TypeSyntax .type) (behind : BlankText)
      (ih : ∀ p ∈ t.parts, IsTypePart p) : ∀ p ∈ prepend before.1 (glue t.parts [behind.1]), IsTypePart p :=
    forall_mem_prepend (forall_mem_glue ih t.parts_ne_nil (by simp)
      fun p hp => hp.append (isPiece_blank behind) (endsName_blank behind))
      (glue_ne_nil t.parts_ne_nil _) fun p hp => hp.blank_append before
  induction t with
  | name t h =>
    have hname := isTypePart_name h hnil ⟨by simp, by simp [stripLeft]⟩
    rw [List.append_nil] at hname
    exact List.forall_mem_singleton.2 hname
  | bracketed b body h =>
    have hbracket := isTypePart_bracket b h hnil
    rw [List.append_nil] at hbracket
    exact List.forall_mem_singleton.2 hbracket
  | function parameters h beforeArrow afterArrow result ih =>
    have harrow : IsPiece (beforeArrow.1 ++ ("=>" ++ afterArrow.1)) :=
      (isPiece_blank beforeArrow).append ((isPiece_of_inert (by decide)).append (isPiece_blank afterArrow))
    refine forall_mem_prepend ih result.parts_ne_nil fun p hp => ?_
    have hshape : '(' :: (parameters ++ ')' :: (beforeArrow.1 ++ ("=>" ++ afterArrow.1))) ++ p =
        Bracket.round.opening :: (parameters ++ [Bracket.round.closing]) ++
          (beforeArrow.1 ++ ("=>" ++ afterArrow.1) ++ p) := by simp [Bracket.opening, Bracket.closing]
    rw [hshape]
    exact isTypePart_bracket .round h (harrow.append hp.toIsPiece)
  | union left beforeBar afterBar right ihLeft ihRight =>
    have hbar : IsPiece (beforeBar.1 ++ '|' :: afterBar.1) :=
      (isPiece_blank beforeBar).append
        ((isPiece_of_inert (t := ['|']) (by decide)).append (isPiece_blank afterBar))
    obtain ⟨q, qs, hq⟩ := List.exists_cons_of_ne_nil right.parts_ne_nil
    rw [hq] at ihRight
    obtain ⟨hfirst, hrest⟩ := List.forall_mem_cons.1 ihRight
    -- the last part of the left type goes on behind the bar
    have hmeet : EndsName (beforeBar.1 ++ '|' :: afterBar.1 ++ q) := by
      rw [List.append_assoc]
      exact (endsName_blank beforeBar).append (endsName_cons (by decide) (by decide) (by decide) _)
    rw [parts, hq]
    exact forall_mem_glue ihLeft left.parts_ne_nil hrest
      fun p hp => hp.append (hbar.append hfirst.toIsPiece) hmeet
  | generic name h args ih =>
    refine forall_mem_prepend (forall_mem_glue ih args.parts_ne_nil (by simp)
      fun p hp => hp.append hclose hend) (glue_ne_nil args.parts_ne_nil _) fun p hp => ?_
    rw [List.append_assoc]
    exact isTypePart_name h ((isPiece_of_inert (by decide)).append hp.toIsPiece)
      (endsName_cons (by decide) (by decide) (by decide) p)
  | last before t behind ih => exact hargument before t behind ih
  | more before t behind others ih ihOthers =>
    exact List.forall_mem_append.2 ⟨hargument before t behind ih, ihOthers⟩

theorem IsTypePart.not_blank (h : IsTypePart p) : allBlank p = false := by
  obtain ⟨blank, name, rest, rfl, hname, ⟨rfl, b, hb⟩ | ⟨hne, -⟩⟩ := h.exists_start
  · exact not_blank_of_mem (c := b.opening) (by cases b <;> decide) (by simp [List.mem_of_head? hb])
  · obtain ⟨c, name, rfl⟩ := List.exists_cons_of_ne_nil hne
    exact not_blank_of_mem (c := c) (not_blank_of_isNamePart (hname c List.mem_cons_self)) (by simp)

/-! ## What the parts are read as -/

/-- A name that ends where nothing makes it the name of a value is followed by no colon and no parenthesis,
wherever it is cut. -/
theorem not_value_of_endsName {x : Text} (hname : ∀ c ∈ name, isNamePart c = true) (hend : EndsName rest)
    {w : Text} (hw : ∀ c ∈ w, isNamePart c = true) (h : name ++ rest = w ++ x) :
    ∀ c, (stripLeft x).head? = some c → c ≠ ':' ∧ c ≠ '(' := by
  rcases List.append_eq_append_iff.1 h with ⟨v, rfl, hrest⟩ | ⟨v, rfl, rfl⟩
  · -- the name ends first, and so with the other one
    cases v with
    | nil =>
      rw [List.nil_append] at hrest
      rw [← hrest]
      exact hend.2
    | cons d v =>
      have hpart := hw d (by simp)
      rw [hend.1 d (by rw [hrest]; rfl)] at hpart
      cases hpart
  · -- the name goes on where it is cut, and so with a character that is neither
    cases v with
    | nil => exact hend.2
    | cons d v =>
      have hpart := hname d (by simp)
      have hblank : isBlank d = false := not_blank_of_isNamePart hpart
      intro c hc
      rw [List.cons_append, stripLeft_eq_self (by simpa using hblank)] at hc
      obtain rfl : d = c := Option.some.inj hc
      constructor <;> rintro rfl <;> revert hpart <;> decide

namespace IsTypePart

variable (h : IsTypePart p)

include h

/-- What is left of a part behind the blank characters in front. -/
theorem exists_snd_leadingComments : ∃ name rest, (leadingComments p).2 = name ++ rest ∧
    (∀ c ∈ name, isNamePart c = true) ∧
      (name = [] ∧ (∃ b : Bracket, rest.head? = some b.opening) ∨ name ≠ [] ∧ EndsName rest) := by
  obtain ⟨blank, name, rest, rfl, hname, hrest⟩ := h.exists_start
  refine ⟨name, rest, ?_, hname, hrest⟩
  rw [leadingComments_of_blank]
  intro c hc
  rcases hrest with ⟨rfl, b, hb⟩ | ⟨hne, -⟩
  · rw [List.nil_append, hb] at hc
    obtain rfl := Option.some.inj hc
    cases b <;> decide
  · rw [List.head?_append_of_ne_nil _ hne] at hc
    have hpart := hname c (List.mem_of_head? hc)
    refine ⟨not_blank_of_isNamePart hpart, ?_⟩
    rintro rfl
    revert hpart
    decide

/-- No key is found in a part. -/
theorem valueIn?_eq_none (key : Key) : valueIn? key p = none := by
  obtain ⟨name, rest, hlead, hname, hrest⟩ := h.exists_snd_leadingComments
  rw [valueIn?, hlead, Option.eq_none_iff_forall_ne_some]
  intro v hv
  obtain ⟨x, y, hshape, -, hbehind, -⟩ := keyValue?_eq_some_iff.1 hv
  have hword : ∀ c ∈ key.word, isNamePart c = true := by cases key <;> decide
  -- a bracket starts no word, and behind a name there is neither a colon nor a parenthesis
  rcases hrest with ⟨rfl, b, hb⟩ | ⟨-, hend⟩
  · rw [List.nil_append] at hshape
    rw [hshape] at hb
    cases key <;> cases b <;> cases hb
  · have hno := not_value_of_endsName hname hend hword hshape
    rcases hbehind with hcolon | ⟨hround, hhead⟩
    · exact (hno ':' (by rw [hcolon]; rfl)).1 rfl
    · exact (hno '(' (by rw [hround]; exact hhead)).2 rfl

/-- No entry is found in a part. -/
theorem property?_eq_none : property? p = none := by
  obtain ⟨name, rest, hlead, hname, hrest⟩ := h.exists_snd_leadingComments
  have hentry : entryAt? (name ++ rest) = none := by
    rw [Option.eq_none_iff_forall_ne_some]
    rintro ⟨name', v⟩ hv
    obtain ⟨quote, x, y, hsplit, hstart, htake, hcolon, -⟩ := entryAt?_eq_some_iff.1 hv
    obtain ⟨hshape, hquote⟩ := splitQuote_eq hsplit
    have hpart : ∀ c ∈ name', isNamePart c = true := by
      intro c hc
      rw [← htake] at hc
      have hchar := List.mem_takeWhile_imp hc
      rw [isNamePart, hchar, Bool.true_or]
    rcases hrest with ⟨rfl, b, hb⟩ | ⟨hne, hend⟩
    · -- a bracket is no quote and starts no name
      rw [List.nil_append] at hshape
      rw [hshape] at hb
      cases quote with
      | some q =>
        obtain rfl := Option.some.inj hb
        rcases hquote _ rfl with hq | hq <;> cases b <;> revert hq <;> decide
      | none =>
        rw [Option.toList_none, List.nil_append] at hb
        rw [Option.toList_none, hb] at hstart
        cases b <;> revert hstart <;> decide
    · -- in a name there is no quote, and behind it no colon
      cases quote with
      | some q =>
        have hhead : (name ++ rest).head? = some q := by rw [hshape]; rfl
        rw [List.head?_append_of_ne_nil _ hne] at hhead
        have hq := hname q (List.mem_of_head? hhead)
        rcases hquote q rfl with rfl | rfl <;> revert hq <;> decide
      | none =>
        rw [Option.toList_none, List.nil_append, List.nil_append] at hshape
        exact (not_value_of_endsName hname hend hpart hshape ':' (by rw [hcolon]; rfl)).1 rfl
  have hpair : leadingComments p = ((leadingComments p).1, name ++ rest) := by rw [← hlead]
  rw [property?, hpair]
  simp only [hentry, Option.bind_eq_bind, Option.bind_none]

end IsTypePart

end ComponentBook.ObjectDeclaration
