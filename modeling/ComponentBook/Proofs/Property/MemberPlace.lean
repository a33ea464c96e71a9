import ComponentBook.Proofs.Property.BodyLayout
import ComponentBook.Proofs.Property.EntryReading

/-! # Where members are read

A member is read where its name stands with a colon behind it (**`IsHead`**). On a line that starts outside of
all brackets this is a place outside of brackets, string literals and comments
(**`exists_place_of_mem_lineMembers`**). In a body laid out on lines, lines that are read start at such places
only, and so every property that is read is declared at one (**`exists_declaredAt_of_laid`**). -/

namespace ComponentBook.InterfaceDeclaration

open Script Text ObjectDeclaration AssignedDefault

variable {name head body line t u : Text} {m : Member} {o : Bool} {ls lines : List Text} {depth stop : Nat}

/-! ## The head of a member -/

/-- The name of a member with its question mark and its colon, and maybe with `readonly` in front. -/
def IsHead (name : Text) (optional : Bool) (head : Text) : Prop :=
  IsIdentifier name ∧ ∃ (lead : Text) (blank : BlankText),
    (lead = [] ∨ ∃ gap : BlankText, gap.1 ≠ [] ∧ lead = "readonly" ++ gap.1) ∧
      head = lead ++ (name ++ (textIf optional ['?'] ++ (blank.1 ++ [':'])))

theorem exists_gap_of_dropBlanks? (h : dropBlanks? t = some u) :
    ∃ gap : BlankText, gap.1 ≠ [] ∧ t = gap.1 ++ u := by
  cases t with
  | nil => cases h
  | cons c t =>
    rw [dropBlanks?, Option.ite_none_right_eq_some] at h
    obtain ⟨hc, he⟩ := h
    obtain rfl := Option.some.inj he
    obtain ⟨blank, hblank⟩ := exists_blank_stripLeft t
    have hall : allBlank (c :: blank.1) = true := by rw [allBlank_cons, hc, blank.2, Bool.and_self]
    exact ⟨⟨c :: blank.1, hall⟩, List.cons_ne_nil _ _, congrArg (List.cons c) hblank⟩

theorem splitMark_eq (h : splitMark t = (o, u)) : t = textIf o ['?'] ++ u := by
  unfold splitMark at h
  split at h <;> obtain ⟨rfl, rfl⟩ := Prod.mk.inj h <;> rfl

/-- A text that is read as a member starts with its head. -/
theorem exists_head_of_plainMember? (h : plainMember? t = some m) :
    IsIdentifier m.name ∧ ∃ blank : BlankText,
      m.name ++ (textIf m.optional ['?'] ++ (blank.1 ++ [':'])) <+: t := by
  rw [plainMember?_eq] at h
  obtain ⟨o, u, hsplit⟩ : ∃ o u, splitMark (t.drop (t.takeWhile isIdentifierChar).length) = (o, u) :=
    ⟨_, _, rfl⟩
  simp only [hsplit, Option.bind_eq_bind, Option.bind_eq_some_iff, guard_eq_some_iff, Option.pure_def,
    Option.some.injEq, dropPrefix?_eq_some_iff] at h
  obtain ⟨-, hstart, rest, hcolon, ⟨type, remark⟩, -, rfl⟩ := h
  obtain ⟨blank, hblank⟩ := exists_blank_stripLeft u
  have hbehind := splitMark_eq hsplit
  have hname : t.takeWhile isIdentifierChar ++ t.drop (t.takeWhile isIdentifierChar).length = t :=
    List.prefix_iff_eq_append.1 (List.takeWhile_prefix _)
  refine ⟨⟨?_, fun c hc => List.mem_takeWhile_imp hc⟩, blank, rest, ?_⟩
  · cases t with
    | nil => cases hstart
    | cons c t =>
      have hc : isIdentifierChar c = true := isIdentifierChar_of_isIdentifierStart hstart
      show ((c :: t).takeWhile isIdentifierChar).head?.any isIdentifierStart = true
      rw [List.takeWhile_cons_of_pos hc]
      exact hstart
  · conv_rhs => rw [← hname, hbehind, hblank, hcolon]
    simp

theorem exists_head_of_member? (h : member? t = some m) :
    ∃ head, IsHead m.name m.optional head ∧ head <+: t := by
  have hor : ((do
      let t ← dropPrefix? "readonly" t
      plainMember? (← dropBlanks? t)) <|> plainMember? t) = some m := h
  rcases (Option.orElse_eq_some _ _ _).1 hor with hread | ⟨-, hread⟩
  · simp only [Option.bind_eq_bind, Option.bind_eq_some_iff, dropPrefix?_eq_some_iff] at hread
    obtain ⟨u, rfl, v, hgap, hplain⟩ := hread
    obtain ⟨gap, hne, rfl⟩ := exists_gap_of_dropBlanks? hgap
    obtain ⟨hname, blank, rest, rfl⟩ := exists_head_of_plainMember? hplain
    exact ⟨_, ⟨hname, _, blank, .inr ⟨gap, hne, rfl⟩, rfl⟩, rest, by simp⟩
  · obtain ⟨hname, blank, hprefix⟩ := exists_head_of_plainMember? hread
    exact ⟨_, ⟨hname, [], blank, .inl rfl, rfl⟩, hprefix⟩

theorem IsHead.no_slash (h : IsHead name o head) : '/' ∉ head := by
  obtain ⟨⟨-, hname⟩, lead, blank, hlead, rfl⟩ := h
  have hblank (blank : BlankText) : '/' ∉ blank.1 := fun hin =>
    absurd (allBlank_eq_true_iff.1 blank.2 _ hin) (by decide)
  have hfront : '/' ∉ lead := by
    rcases hlead with rfl | ⟨gap, -, rfl⟩
    · exact List.not_mem_nil
    · exact List.not_mem_append (by decide) (hblank gap)
  have hmark : '/' ∉ textIf o ['?'] := by cases o <;> decide
  exact List.not_mem_append hfront (List.not_mem_append (fun hin => absurd (hname _ hin) (by decide))
    (List.not_mem_append hmark (List.not_mem_append (hblank blank) (by decide))))

theorem IsHead.getLast? (h : IsHead name o head) : head.getLast? = some ':' := by
  obtain ⟨-, lead, blank, -, rfl⟩ := h
  simp

theorem IsHead.head? (h : IsHead name o head) : ∃ c, head.head? = some c ∧ isBlank c = false := by
  obtain ⟨⟨hstart, -⟩, lead, blank, hlead, rfl⟩ := h
  rcases hlead with rfl | ⟨gap, -, rfl⟩
  · cases name with
    | nil => cases hstart
    | cons c name => exact ⟨c, rfl, not_blank_of_isIdentifierStart hstart⟩
  · exact ⟨'r', rfl, by decide⟩

/-! ## The place of a member on its line -/

/-- The head of a member stands in front of the line comments that belong to it. -/
theorem IsHead.prefix_left {content remarks : Text} (h : IsHead name o head)
    (hremarks : remarks = [] ∨ ∃ r, remarks = ' ' :: '/' :: r) (hin : head <+: content ++ remarks) :
    head <+: content := by
  obtain ⟨rest, hrest⟩ := hin
  rcases List.append_eq_append_iff.1 hrest with ⟨v, rfl, -⟩ | ⟨v, rfl, hv⟩
  · exact List.prefix_append _ _
  · -- behind the content stand a blank and a slash, and in the head no slash does
    have hlast := h.getLast?
    have hslash := h.no_slash
    rcases hremarks with rfl | ⟨r, rfl⟩
    · obtain ⟨rfl, -⟩ := List.append_eq_nil_iff.1 hv.symm
      rw [List.append_nil]
    · rcases v with _ | ⟨c, _ | ⟨d, v⟩⟩
      · rw [List.append_nil]
      · obtain ⟨rfl, -⟩ := List.cons.inj hv
        rw [List.getLast?_concat] at hlast
        cases hlast
      · obtain ⟨-, hd⟩ := List.cons.inj hv
        obtain ⟨rfl, -⟩ := List.cons.inj hd
        exact absurd (by simp) hslash

/-- **A member that is read on a line** stands there at its place, where no bracket is open that was not open
in front of the line. -/
theorem exists_place_of_mem_lineMembers {entry : Segment} (h : entry ∈ lineMembers line)
    (hm : member? entry.text = some m) :
    ∃ front behind head, lexemes line = front ++ behind ∧ depthBehind 0 front = 0 ∧
      IsHead m.name m.optional head ∧ head <+: textOf behind := by
  obtain ⟨part, hpart, remarks, htext, hremarks, -⟩ := exists_part_of_mem_gatherMembers h
  obtain ⟨front, behind, hlexemes, hstarts⟩ :=
    exists_startsAt_of_mem_placeParts (List.mem_filter.1 hpart).1
  have hfront : depthBehind 0 front = 0 := by
    rcases hstarts.closed with rfl | hclosed
    · rfl
    · exact hclosed
  obtain ⟨head, hhead, hin⟩ := exists_head_of_member? hm
  rw [htext] at hin
  -- the head stands behind the blank characters at the start of the part
  have hcontent : head <+: stripLeft part.text :=
    (hhead.prefix_left hremarks hin).trans (List.rdropWhile_prefix _ _)
  obtain ⟨blank, hblank⟩ := exists_blank_stripLeft part.text
  obtain ⟨v, hv⟩ := hcontent
  obtain ⟨w, hw⟩ := hstarts.isPrefix
  have hbehind : lexemes (blank.1 ++ (head ++ (v ++ w))) = behind := by
    have hlexed := (lexed_lexemes line)
    rw [hlexemes] at hlexed
    have hlexed := hlexed.right
    rw [Lexed, ← hw, hblank, ← hv] at hlexed
    simpa using hlexed
  have hscan := (scansTo_blank blank.2 (head ++ (v ++ w))).lexemes_eq
  refine ⟨front ++ blank.1.map .mark, lexemes (head ++ (v ++ w)), head, ?_, ?_, hhead, ?_⟩
  · rw [hlexemes, ← hbehind, hscan, List.append_assoc]
  · rw [depthBehind_append, hfront]
    refine depthBehind_of_plain (fun l hl => ?_) 0
    obtain ⟨c, hc, rfl⟩ := List.mem_map.1 hl
    exact isPlain_blank (allBlank_eq_true_iff.1 blank.2 c hc)
  · rw [textOf_lexemes]
    exact List.prefix_append _ _

/-! ## The places of the members of a body -/

/-- A member of the body is written at a place outside of all brackets, string literals and comments. -/
def DeclaredAt (name : Text) (optional : Bool) (body : Text) (place : Nat) : Prop :=
  Outside body place ∧ ∃ head, IsHead name optional head ∧ head <+: body.drop place

/-- The members of a line that a scan of the body reaches with no bracket open. -/
theorem declaredAt_of_membersOn {read : List Lexeme} {tail : Text} {member : CommentedMember}
    (hbody : WellBracketed (lexemes body)) (hscan : ScansTo body read (line ++ tail))
    (hdepth : depthBehind 0 read = 0) (h : member ∈ membersOn front line) :
    ∃ place, DeclaredAt member.member.name member.member.optional body place := by
  obtain ⟨entry, hentry, hread⟩ := List.mem_filterMap.1 h
  obtain ⟨m, hm, he⟩ := Option.bind_eq_some_iff.1 hread
  obtain rfl := Option.some.inj he
  obtain ⟨before, behind, head, hlexemes, hbefore, hhead, hprefix⟩ :=
    exists_place_of_mem_lineMembers hentry hm
  have hline := scansTo_of_lexemes hlexemes
  -- the scan of the line goes on in the text behind it
  have hreplaces : Replaces (textOf behind ++ tail) (textOf behind) := by
    obtain ⟨c, hc, -⟩ := hhead.head?
    obtain ⟨u, hu⟩ := List.head?_eq_some_iff.1 hc
    obtain ⟨v, hv⟩ := hprefix
    rw [← hv, hu]
    exact replaces_cons c _ _
  have hgo := hline.congr_rest hreplaces
  rw [← List.append_assoc, ← hline.eq_append] at hgo
  have hscan := hscan.append hgo
  have hopen : depthBehind 0 (read ++ before) = 0 := by rw [depthBehind_append, hdepth, hbefore]
  refine ⟨_, outside_of_scansTo hscan hbody hopen, head, hhead, ?_⟩
  conv_rhs => rw [hscan.eq_append, List.drop_left]
  exact hprefix.trans (List.prefix_append _ _)

/-- The depth behind a line is the one that is counted. -/
theorem IsClosedLine.depthBehind_eq {read : List Lexeme} {tail : Text} (h : IsClosedLine line)
    (hbody : WellBracketed (lexemes body)) (hscan : ScansTo body (read ++ (lexemes line ++ [.mark '\n'])) tail) :
    depthBehind 0 (read ++ (lexemes line ++ [.mark '\n'])) =
      ((depthBehind 0 read : Int) + braceDelta line).toNat := by
  rw [hscan.lexemes_eq] at hbody
  have hall := hbody.depthBehind_eq_delta 0
  have hread : (depthBehind 0 read : Int) = (0 : Nat) + bracketDelta read := by
    rw [List.append_assoc] at hbody
    exact hbody.depthBehind_eq_delta 0
  have hfeed : bracketDelta [.mark '\n'] = 0 := by decide
  rw [bracketDelta_append, bracketDelta_append, bracketDelta_line h, hfeed] at hall
  omega

/-- A member in what a list of lines declares, whether or not a paragraph ends in front of it. -/
def Adds (depth : Nat) (ls : List Text) (member : CommentedMember) : Prop :=
  ∃ front, member ∈ membersFrom front { depth } ls ∨ member ∈ membersAfter front { depth } ls

theorem not_adds_nil {member : CommentedMember} : ¬ Adds depth [] member := by
  rintro ⟨front, h | h⟩ <;> cases h

/-- The members that a line and the lines behind it add. -/
theorem IsClosedLine.adds_cons {member : CommentedMember} (h : IsClosedLine line)
    (hempty : isEmptyLine line = true → depth = 0)
    (hcomment : startsLikeComment line = true → braceDelta line = 0) (hadds : Adds depth (line :: ls) member) :
    (depth = 0 ∧ ∃ front, member ∈ membersOn front line) ∨
      Adds ((depth : Int) + braceDelta line).toNat ls member := by
  have hfrom (front : Text) (hmem : member ∈ membersFrom front { depth } (line :: ls)) :
      (depth = 0 ∧ ∃ front, member ∈ membersOn front line) ∨
        Adds ((depth : Int) + braceDelta line).toNat ls member := by
    rw [membersFrom_cons, h.next hcomment] at hmem
    rcases List.mem_append.1 hmem with hmem | hmem
    · rw [LineState.members] at hmem
      split at hmem
      · next htop =>
        rw [LineState.atTop, Bool.and_eq_true, decide_eq_true_eq] at htop
        exact .inl ⟨htop.2, front, hmem⟩
      · cases hmem
    · exact .inr ⟨_, .inr hmem⟩
  obtain ⟨front, hmem | hmem⟩ := hadds
  · exact hfrom front hmem
  · rw [membersAfter] at hmem
    split at hmem
    · next hblank =>
      -- behind an empty line no brace is open
      have hdelta : braceDelta line = 0 := (code_allBlank (allBlank_of_isEmptyLine hblank)).braceDelta
      rw [hempty hblank, hdelta]
      exact .inr ⟨[], .inl hmem⟩
    · exact hfrom front hmem

/-- The members that a block comment and the lines behind it add. -/
theorem BlockLines.adds_append {member : CommentedMember} (comment : BlockLines)
    (hadds : Adds depth (comment.lines ++ ls) member) : Adds depth ls member := by
  obtain ⟨line, rest, hlines, hline⟩ := comment.exists_lines
  have hfrom (front : Text) (hmem : member ∈ membersFrom front { depth } (comment.lines ++ ls)) :
      Adds depth ls member := by
    rw [membersFrom_blockLines] at hmem
    exact ⟨_, .inr hmem⟩
  obtain ⟨front, hmem | hmem⟩ := hadds
  · exact hfrom front hmem
  · rw [hlines, List.cons_append, membersAfter_cons hline, ← List.cons_append, ← hlines] at hmem
    exact hfrom front hmem

/-- Along lines that the layout allows, the depth that is counted is that of a scan, and the members that are
read are written outside of all brackets. -/
theorem Laid.exists_declaredAt {member : CommentedMember} {read : List Lexeme}
    (hbody : WellBracketed (lexemes body)) (h : Laid stop depth ls)
    (hscan : ScansTo body read (join ['\n'] ls)) (hdepth : depthBehind 0 read = depth)
    (hadds : Adds depth ls member) :
    ∃ place, DeclaredAt member.member.name member.member.optional body place := by
  induction h generalizing read with
  | nil => exact absurd hadds not_adds_nil
  | @line depth line ls hline hempty hcomment _ ih =>
    obtain ⟨tail, htail⟩ : ∃ tail, join ['\n'] (line :: ls) = line ++ tail := by
      cases ls with
      | nil => exact ⟨[], by simp⟩
      | cons next rest => exact ⟨_, by rw [join_cons_cons, List.append_assoc]⟩
    -- the member stands on this line, or the scan goes over the line as a whole
    rcases hline.adds_cons hempty hcomment hadds with ⟨rfl, front, hmem⟩ | hlater
    · exact declaredAt_of_membersOn hbody (htail ▸ hscan) hdepth hmem
    · cases ls with
      | nil => exact absurd hlater not_adds_nil
      | cons next rest =>
        rw [join_cons_cons, List.append_assoc, List.singleton_append] at hscan
        have hgo := hscan.append (hline.scansTo _)
        refine ih hgo ?_ hlater
        rw [hline.depthBehind_eq hbody hgo, hdepth]
  | @comment depth ls comment _ ih =>
    have hlater := comment.adds_append hadds
    cases ls with
    | nil => exact absurd hlater not_adds_nil
    | cons next rest =>
      rw [join_append_cons] at hscan
      obtain ⟨inside, hinside, hplain⟩ := comment.exists_scansTo (join ['\n'] (next :: rest))
      refine ih (hscan.append hinside) ?_ hlater
      rw [depthBehind_append, hdepth, depthBehind_of_plain hplain]

/-- The brackets in the body of an interface are closed in order. -/
theorem wellBracketed_of_interfaceBlock? {script : Text} {located : Located}
    (h : interfaceBlock? script = some located) : WellBracketed (lexemes located.body) := by
  rw [interfaceBlock?] at h
  simp only [Option.bind_eq_bind, Option.bind_eq_some_iff] at h
  obtain ⟨⟨before, block⟩, -, ⟨inside, after⟩, hblock, h⟩ := h
  obtain rfl := Option.some.inj h
  obtain ⟨b, ls, -, hscan, hls⟩ := balancedBlock?_eq_some_iff.1 hblock
  have hinside : textOf ls = inside := List.append_cancel_right hscan.eq_append.symm
  have hbody := (hscan.congr_rest (replaces_nil _)).lexemes_eq
  rw [List.append_nil, hinside, lexemes, List.append_nil] at hbody
  rwa [hbody]

/-- **No property comes from inside a bracket or a comment.** When the body of an interface is laid out on lines
as the layout allows, every property that is read is declared by a member that is written outside of all
brackets, string literals and comments of the body. -/
theorem exists_declaredAt_of_laid {script : Text} {located : Located}
    (h : interfaceBlock? script = some located) (hbody : located.body = join ['\n'] ls) (hlaid : Laid stop 0 ls) :
    ∀ property ∈ interfaceProperties script,
      ∃ place, DeclaredAt property.name (!property.required) located.body place := by
  intro property hproperty
  rw [interfaceProperties, h] at hproperty
  obtain ⟨member, hmember, rfl⟩ := List.mem_map.1 hproperty
  rw [hbody, membersOf_join hlaid.unbroken] at hmember
  have hscan : ScansTo located.body [] (join ['\n'] ls) := by
    rw [hbody]
    exact .here _
  have hdeclared := hlaid.exists_declaredAt (wellBracketed_of_interfaceBlock? h) hscan rfl ⟨[], .inl hmember⟩
  simpa [CommentedMember.property] using hdeclared

/-- Lines with a nested type, comments and a function type. -/
def nestedLines : List Text :=
  ["", "  // the owner: a user", "  a: \x7b", "    b: string;", "  \x7d", "  /* old:", "   * e: string */",
    "  f: (g: string) => void", ""]

/-- An interface with these lines. -/
def nestedInterface : Located where
  body := join ['\n'] nestedLines
  before := []
  after := "\n"

/-- The comment in these lines. -/
def nestedComment : BlockLines where
  indent := twoSpaces
  first := " old:"
  further := some {
    middle := [], closing := "   * e: string ", middle_filled := nofun
    closing_unbroken := by decide, closing_star := by decide }
  behind := noIndent
  first_unbroken := by decide
  no_closing := by decide

theorem laid_nestedLines : Laid 0 0 nestedLines := by
  have hlast : Laid 0 0 ["  f: (g: string) => void".toList, "".toList] :=
    .cons 0 (by decide +kernel) (by decide) (by decide +kernel) (by decide +kernel)
      (.cons 0 (by decide +kernel) (by decide +kernel) (by decide +kernel) (by decide +kernel) .nil)
  have hcomment : Laid 0 0 (nestedComment.lines ++ ["  f: (g: string) => void".toList, "".toList]) :=
    .comment nestedComment hlast
  have hnested : Laid 0 1 ("    b: string;".toList :: "  \x7d".toList :: (nestedComment.lines ++
      ["  f: (g: string) => void".toList, "".toList])) :=
    .cons 1 (by decide +kernel) (by decide) (by decide +kernel) (by decide +kernel)
      (.cons 0 (by decide +kernel) (by decide) (by decide +kernel) (by decide +kernel) hcomment)
  exact .cons 0 (by decide +kernel) (by decide) (by decide +kernel) (by decide +kernel)
    (.cons 0 (by decide +kernel) (by decide) (by decide +kernel) (by decide +kernel)
      (.cons 1 (by decide +kernel) (by decide) (by decide +kernel) (by decide +kernel) hnested))

/-- A script with this interface. -/
def nestedScript : Text := "interface XProps \x7b" ++ nestedInterface.body ++ "\x7d\n"

/-- Its members are read, and nothing from inside its type, its comments and its function type is. -/
theorem declaredAt_nestedScript :
    (interfaceProperties nestedScript).map Property.name = ["a".toList, "f".toList] ∧
      ∀ property ∈ interfaceProperties nestedScript,
        ∃ place, DeclaredAt property.name (!property.required) nestedInterface.body place := by
  have hblock : interfaceBlock? nestedScript = some nestedInterface := by decide +kernel
  exact ⟨by decide +kernel, exists_declaredAt_of_laid hblock rfl laid_nestedLines⟩

/-- An interface with an empty line inside a nested type. -/
def splitInterface : Located where
  body := "\n  a: \x7b\n    b: string\n\n    c: string\n  \x7d\n"
  before := []
  after := []

/-- A script with this interface. -/
def splitScript : Text := "interface XProps \x7b" ++ splitInterface.body ++ "\x7d"

/-- A member of the nested type is read behind the empty line. -/
theorem not_declaredAt_splitScript :
    interfaceBlock? splitScript = some splitInterface ∧
      (interfaceProperties splitScript).map Property.name = ["a".toList, "c".toList] ∧
        ∀ place, ¬ DeclaredAt "c" false splitInterface.body place := by
  refine ⟨by decide +kernel, by decide +kernel, ?_⟩
  rintro place ⟨⟨ls, hscan, hls⟩, head, ⟨-, lead, blank, hlead, rfl⟩, hin⟩
  have hmem : ∀ c ∈ lead ++ ("c".toList ++ (textIf false ['?'] ++ (blank.1 ++ [':']))),
      c ∈ splitInterface.body := fun c hc => (List.drop_sublist _ _).subset (hin.subset hc)
  -- the name stands at one place only, and there the brace of the nested type is open
  have hplace : place = 27 := by
    have hall : ∀ k < splitInterface.body.length, splitInterface.body[k]? = some 'c' → k = 27 := by
      decide +kernel
    rcases hlead with rfl | ⟨gap, -, rfl⟩
    · obtain ⟨rest, hrest⟩ := hin
      have hhere : splitInterface.body[place]? = some 'c' := by
        rw [← List.head?_drop, ← hrest]
        rfl
      exact hall place (List.getElem?_eq_some_iff.1 hhere).1 hhere
    · exact absurd (hmem 'd' (by simp)) (by decide)
  subst hplace
  -- what a scan has read in front of it has one opening brace and no closing one
  have hlexemes := hscan.lexemes_eq
  have hopen := congrArg (List.count (.mark '\x7b')) hlexemes
  have hclose := congrArg (List.count (.mark '\x7d')) hlexemes
  rw [List.count_append] at hopen hclose
  have hwhole : (lexemes splitInterface.body).count (.mark '\x7b') = 1 ∧
      (lexemes splitInterface.body).count (.mark '\x7d') = 1 ∧
      (lexemes (splitInterface.body.drop 27)).count (.mark '\x7b') = 0 ∧
      (lexemes (splitInterface.body.drop 27)).count (.mark '\x7d') = 1 := by decide +kernel
  have hcount := hls.count_braces
  obtain ⟨hone, hone', hzero, hlater⟩ := hwhole
  rw [hone, hzero] at hopen
  rw [hone', hlater] at hclose
  omega

end ComponentBook.InterfaceDeclaration
