import ComponentBook.Proofs.Component.Tag

/-! # What a script lets through to the other zones

Two component files that differ in the body of their first script only are read with the same template
(**`ofText_other_body`**): the script is hidden while the template is looked for, and how much blank text
hides it shows in a template that the script stands in and in no other. The styles are looked for in the
file as it stands. They are the same when no style block meets the body of the script, and a script can add
one (**`styles_of_script`**).

Blank text that stands in for a script can stand in a tag, in front of one or behind the last one. From the
first tag on (`FirstTag`), the reading of the template goes by induction on the text in front of the blank
text (**`firstTemplate?_resize`**). -/

namespace ComponentBook.SourceZones

open Text

variable {attrs front p q r rest t u w x y : Text} {n m : Nat}

/-- The blank text that hides `n` characters. -/
def spaces (n : Nat) : Text := List.replicate n ' '

theorem not_mem_spaces {c : Char} (h : c ≠ ' ') (n : Nat) : c ∉ spaces n := by
  intro hin
  exact h (List.eq_of_mem_replicate hin)

theorem exists_spaces_cons (h : 0 < n) : ∃ s, spaces n = ' ' :: s := by
  obtain ⟨k, rfl⟩ := Nat.exists_eq_succ_of_ne_zero (by omega : n ≠ 0)
  exact ⟨List.replicate k ' ', List.replicate_succ⟩

theorem getLast?_spaces (h : 0 < n) : (spaces n).getLast? = some ' ' := by
  rw [spaces, List.getLast?_replicate, if_neg (by omega)]

/-! ## Tags around blank text -/

/-- The letters of a tag name leave no place for blank text in front of the attributes. -/
theorem exists_attrs_of_append {name : Text} (hname : ' ' ∉ name) (hn : 0 < n)
    (h : name ++ attrs = y ++ (spaces n ++ r)) :
    ∃ a, y = name ++ a ∧ attrs = a ++ (spaces n ++ r) := by
  obtain ⟨s, hs⟩ := exists_spaces_cons hn
  rcases List.append_eq_append_iff.1 h with ⟨a, rfl, rfl⟩ | ⟨a, rfl, ha⟩
  · exact ⟨a, rfl, rfl⟩
  · cases a with
    | nil => exact ⟨[], by simp, by simpa using ha.symm⟩
    | cons c a =>
      rw [hs, List.cons_append, List.cons_append, List.cons.injEq] at ha
      exact absurd (by simp [← ha.1]) hname

theorem head?_any_resize (hm : 0 < m) (h : (x ++ (spaces n ++ r)).head?.any isWord = false) :
    (x ++ (spaces m ++ u)).head?.any isWord = false := by
  obtain ⟨s, hs⟩ := exists_spaces_cons hm
  cases x with
  | nil =>
    rw [hs]
    exact (by decide : isWord ' ' = false)
  | cons c x => exact h

theorem tagKind_resize (closes : Bool) (hn : 0 < n) (hm : 0 < m) (x r : Text) :
    tagKind closes (x ++ (spaces m ++ r)) = tagKind closes (x ++ (spaces n ++ r)) := by
  rw [tagKind, tagKind, List.getLast?_append, List.getLast?_append, List.getLast?_append,
    List.getLast?_append, getLast?_spaces hn, getLast?_spaces hm]

/-- How much blank text stands in a tag does not matter. -/
theorem isTemplateTag_resize {closes : Bool} {kind : TemplateTagKind} (hn : 0 < n) (hm : 0 < m)
    (h : IsTemplateTag closes attrs ⟨kind, y ++ (spaces n ++ (r ++ ['>']))⟩) :
    ∃ attrs', IsTemplateTag closes attrs' ⟨kind, y ++ (spaces m ++ (r ++ ['>']))⟩ := by
  obtain ⟨w, hw, hhead, hattrs, htext, rfl⟩ := h
  have hshape : ('<' :: ((if closes then ['/'] else []) ++ w)) ++ attrs = y ++ (spaces n ++ r) := by
    refine List.append_cancel_right (?_ : _ ++ ['>'] = _ ++ ['>'])
    simpa using htext.symm
  have hname : ' ' ∉ '<' :: ((if closes then ['/'] else []) ++ w) := by
    have hw' : ' ' ∉ w := not_mem_of_spells (by decide) (by decide) hw
    cases closes <;> simp [hw']
  obtain ⟨a, rfl, rfl⟩ := exists_attrs_of_append hname hn hshape
  refine ⟨a ++ (spaces m ++ r), w, hw, head?_any_resize hm hhead, ?_, by simp,
    (tagKind_resize closes hn hm a r).symm⟩
  have hnot := not_mem_spaces (by decide : '>' ≠ ' ') m
  simp only [List.mem_append, not_or] at hattrs ⊢
  exact ⟨hattrs.1, hnot, hattrs.2.2⟩

/-- A character that is not blank stands behind blank text. -/
theorem exists_behind_spaces {c : Char} (hc : c ≠ ' ') (h : spaces n ++ t = x ++ ([c] ++ r)) :
    ∃ g, x = spaces n ++ g ∧ t = g ++ ([c] ++ r) := by
  rcases List.append_eq_append_iff.1 h with ⟨g, rfl, rfl⟩ | ⟨g, hg, hr⟩
  · exact ⟨g, rfl, rfl⟩
  · cases g with
    | nil => exact ⟨[], by simpa using hg.symm, by simpa using hr.symm⟩
    | cons d g =>
      have hd : c = d := (List.cons.inj hr).1
      have hin : c ∈ spaces n := by
        rw [hg, hd]
        simp
      exact absurd hin (not_mem_spaces hc n)

/-- A tag that starts in front of blank text ends there or goes over the blank text, of whatever length. -/
theorem templateTag?_resize {tag : TemplateTag} (hn : 0 < n)
    (h : templateTag? (y ++ (spaces n ++ t)) = some (tag, rest)) :
    (∃ r, y = tag.text ++ r ∧ templateTag? y = some (tag, r)) ∨
      ∃ g, ∀ m, 0 < m →
        templateTag? (y ++ (spaces m ++ t)) = some (⟨tag.kind, y ++ (spaces m ++ g)⟩, rest) := by
  obtain ⟨closes, attrs, htag, he⟩ := templateTag?_eq_some_iff.1 h
  rcases List.append_eq_append_iff.1 he with ⟨z, hz, hrest⟩ | ⟨r, hr, -⟩
  · rcases List.eq_nil_or_concat z with rfl | ⟨z, d, rfl⟩
    · rw [List.append_nil] at hz
      exact .inl ⟨[], by simp [hz], templateTag?_eq_some_iff.2 ⟨closes, attrs, htag, by simp [hz]⟩⟩
    · -- the tag goes on behind `y`, up to a bracket that is not in the blank text
      right
      obtain ⟨body, -, hend⟩ := htag.endsAtBracket
      rw [List.concat_eq_append] at hz hrest
      rw [hz, ← List.append_assoc] at hend
      obtain rfl : d = '>' := by simpa using (List.append_inj' hend rfl).2
      rw [List.append_assoc] at hrest
      obtain ⟨g, rfl, rfl⟩ := exists_behind_spaces (by decide) hrest
      rw [List.append_assoc (spaces n)] at hz
      refine ⟨g ++ ['>'], fun m hm => ?_⟩
      obtain ⟨kind, text⟩ := tag
      obtain rfl : text = y ++ (spaces n ++ (g ++ ['>'])) := hz
      obtain ⟨attrs', htag'⟩ := isTemplateTag_resize hn hm htag
      exact templateTag?_eq_some_iff.2 ⟨closes, attrs', htag', by simp⟩
  · exact .inl ⟨r, hr, templateTag?_eq_some_iff.2 ⟨closes, attrs, htag, hr⟩⟩

theorem templateTag?_eq_none_resize (hn : 0 < n) (hm : 0 < m)
    (h : templateTag? (y ++ (spaces n ++ t)) = none) : templateTag? (y ++ (spaces m ++ t)) = none := by
  rw [Option.eq_none_iff_forall_ne_some]
  rintro ⟨tag, rest⟩ hfound
  rcases templateTag?_resize hm hfound with ⟨r, -, hr⟩ | ⟨g, hg⟩
  · rw [(isLocal_templateTag? (spaces n ++ t)).2 hr] at h
    cases h
  · rw [hg n hn] at h
    cases h

theorem templateTag?_spaces (h : spaces n = x ++ y) (hy : y ≠ []) (t : Text) :
    templateTag? (y ++ t) = none := by
  cases y with
  | nil => exact absurd rfl hy
  | cons c y =>
    have hin : c ∈ spaces n := by simp [h]
    rw [List.eq_of_mem_replicate hin]
    rfl

/-! ## The first tag -/

/-- No tag starts in `p` when blank text and `t` follow. -/
def Tagless (p t : Text) : Prop :=
  ∀ x y, p = x ++ y → y ≠ [] → templateTag? (y ++ (spaces 1 ++ t)) = none

/-- Without a tag that starts in front of the blank text, the tags are those behind it. -/
theorem occurrences_of_tagless (h : Tagless p t) (hn : 0 < n) :
    occurrences templateTag? (p ++ (spaces n ++ t)) =
      behind (p ++ spaces n) (occurrences templateTag? t) := by
  rw [← List.append_assoc]
  apply occurrences_append advances_templateTag?
  intro x y hxy hy
  rcases List.append_eq_append_iff.1 hxy with ⟨a, -, ha⟩ | ⟨a, rfl, rfl⟩
  · exact templateTag?_spaces ha hy t
  · rw [List.append_assoc]
    by_cases ha : a = []
    · subst ha
      exact templateTag?_spaces (x := []) rfl hy t
    · exact templateTag?_eq_none_resize Nat.one_pos hn (h x a rfl ha)

/-- What holds of a text as soon as it holds behind each tag in it holds of all texts. -/
theorem induction_behind_tag {holds : Text → Prop}
    (step : ∀ p, (∀ (f p' : Text) (tag : TemplateTag), p = f ++ (tag.text ++ p') → tag.text ≠ [] → holds p') →
      holds p) (p : Text) : holds p := by
  induction hlen : p.length using Nat.strong_induction_on generalizing p with
  | _ k ih =>
    refine step p fun f p' tag hp hne => ih p'.length ?_ p' rfl
    have hpos := List.length_pos_iff.2 hne
    rw [← hlen, hp]
    simp only [List.length_append]
    omega

/-- Where the first template tag of the text `p`, of blank text and of `t` stands. -/
inductive FirstTag (p t : Text) : Prop where
  /-- It does not start in front of the blank text. -/
  | behind (h : Tagless p t)
  /-- It ends in front of the blank text. -/
  | inFront (f : Text) (tag : TemplateTag) (p' : Text) (hp : p = f ++ (tag.text ++ p'))
      (hne : tag.text ≠ [])
      (h : ∀ n, 0 < n → occurrences templateTag? (p ++ (spaces n ++ t)) =
        (f, tag) :: occurrences templateTag? (p' ++ (spaces n ++ t)))
  /-- It goes over the blank text. -/
  | across (f y g : Text) (kind : TemplateTagKind) (found : List (Text × TemplateTag)) (hp : p = f ++ y)
      (h : ∀ n, 0 < n → occurrences templateTag? (p ++ (spaces n ++ t)) =
        (f, ⟨kind, y ++ (spaces n ++ g)⟩) :: found)

theorem firstTag (p t : Text) : FirstTag p t := by
  by_cases htagless : Tagless p t
  · exact .behind htagless
  -- the first tag behind which one blank stands is the first one whatever the length of the blank text
  cases hfound : search (fun _ u => templateTag? u) none (p ++ (spaces 1 ++ t)) with
  | none =>
    have hnone := search_eq_none_iff.1 hfound
    refine absurd (fun x y hxy hy => ?_) htagless
    exact hnone x (y ++ (spaces 1 ++ t)) (by rw [hxy, List.append_assoc])
  | some found =>
    obtain ⟨f, tag, r⟩ := found
    obtain ⟨u, hu, hhere, hearlier⟩ := exists_of_search hfound
    rcases List.append_eq_append_iff.1 hu with ⟨z, rfl, hz⟩ | ⟨y, rfl, rfl⟩
    · refine absurd (fun x y hxy hy => ?_) htagless
      rw [hz, ← List.append_assoc]
      exact hearlier x (y ++ z) (by rw [hxy, List.append_assoc]) (by simp [hy])
    · have hpass : ∀ n, 0 < n → ∀ x z, f = x ++ z → z ≠ [] →
          templateTag? (z ++ (y ++ (spaces n ++ t))) = none := by
        intro n hn x z hxz hz
        rw [← List.append_assoc]
        refine templateTag?_eq_none_resize Nat.one_pos hn ?_
        rw [List.append_assoc]
        exact hearlier x z hxz hz
      rcases templateTag?_resize Nat.one_pos hhere with ⟨p', hp', htag⟩ | ⟨g, hg⟩
      · have hne : tag.text ≠ [] := by
          obtain ⟨closes, attrs, htag, -⟩ := templateTag?_eq_some_iff.1 htag
          exact htag.endsAtBracket.ne_nil
        refine .inFront f tag p' (by rw [hp']) hne fun n hn => ?_
        rw [List.append_assoc]
        refine occurrences_of_search advances_templateTag? (search_of_first (hpass n hn) ?_)
        exact (isLocal_templateTag? _).2 htag
      · refine .across f y g tag.kind (occurrences templateTag? r) rfl fun n hn => ?_
        rw [List.append_assoc]
        exact occurrences_of_search advances_templateTag? (search_of_first (hpass n hn) (hg n hn))

/-! ## The template around blank text -/

/-- A text that depends on the length of blank text only if it starts with `p` and goes over it. -/
def Shows (p : Text) (result : Nat → Option Text) : Prop :=
  (∃ q, ∀ n, 0 < n → result n = some (p ++ (spaces n ++ q))) ∨
    ∃ fixed, ∀ n, 0 < n → result n = fixed

theorem shows_of_eq_map {result : Nat → Option Text} {g : Text} (fixed : Option Text)
    (h : ∀ n, 0 < n → result n = fixed.map (p ++ (spaces n ++ g) ++ ·)) : Shows p result := by
  cases fixed with
  | none => exact .inr ⟨none, h⟩
  | some b => exact .inl ⟨g ++ b, fun n hn => by simp [h n hn]⟩

theorem Shows.map_append {result other : Nat → Option Text} (h : Shows p result) (s : Text)
    (hother : ∀ n, 0 < n → other n = (result n).map (s ++ ·)) : Shows (s ++ p) other := by
  rcases h with ⟨q, hq⟩ | ⟨fixed, hfixed⟩
  · exact .inl ⟨q, fun n hn => by simp [hother n hn, hq n hn]⟩
  · exact .inr ⟨fixed.map (s ++ ·), fun n hn => by rw [hother n hn, hfixed n hn]⟩

/-- The length of the blank text shows in the text up to a closing tag only if it goes over it. -/
theorem templateBody?_resize (depth : Nat) (p t : Text) :
    Shows p fun n => templateBody? depth (occurrences templateTag? (p ++ (spaces n ++ t))) := by
  induction p using induction_behind_tag generalizing depth with
  | step p ih =>
    cases firstTag p t with
    | behind htagless =>
      refine shows_of_eq_map (g := []) (templateBody? depth (occurrences templateTag? t)) fun n hn => ?_
      rw [occurrences_of_tagless htagless hn, templateBody?_behind, List.append_nil]
    | inFront f tag p' hp hne h =>
      rcases templateBody?_cons depth tag.kind with hclose | ⟨depth', hnext⟩
      · exact .inr ⟨some f, fun n hn => (congrArg _ (h n hn)).trans (hclose f tag.text _)⟩
      · have hinner := (ih f p' tag hp hne depth').map_append (f ++ tag.text) fun n hn =>
          (congrArg _ (h n hn)).trans (hnext f tag.text _)
        rwa [List.append_assoc, ← hp] at hinner
    | across f y g kind found hp h =>
      rcases templateBody?_cons depth kind with hclose | ⟨depth', hnext⟩
      · exact .inr ⟨some f, fun n hn => (congrArg _ (h n hn)).trans (hclose f _ _)⟩
      · refine shows_of_eq_map (g := g) (templateBody? depth' found) fun n hn => ?_
        rw [h n hn, hnext, hp]
        simp

/-- The text in front of the body of the template that the first opening tag opens, and the body. -/
def placedTemplate? : List (Text × TemplateTag) → Option (Text × Text)
  | [] => none
  | (before, tag) :: rest =>
    if tag.kind = .opening then (templateBody? 0 rest).map fun body => (before ++ tag.text, body)
    else (placedTemplate? rest).map fun (front, body) => (before ++ tag.text ++ front, body)

/-- `n` blank characters between `p` and `t` stand in the first template. -/
def StandsInTemplate (p : Text) (n : Nat) (t : Text) : Prop :=
  ∃ front b q, p = front ++ b ∧
    placedTemplate? (occurrences templateTag? (p ++ (spaces n ++ t))) = some (front, b ++ (spaces n ++ q))

/-- The length of the blank text shows in the first template only if it stands in there. -/
theorem firstTemplate?_resize (p t : Text) :
    (∀ n, 0 < n → StandsInTemplate p n t) ∨
      ∃ result, ∀ n, 0 < n →
        firstTemplate? (occurrences templateTag? (p ++ (spaces n ++ t))) = result := by
  induction p using induction_behind_tag with
  | step p ih =>
    cases firstTag p t with
    | behind htagless =>
      refine .inr ⟨firstTemplate? (occurrences templateTag? t), fun n hn => ?_⟩
      rw [occurrences_of_tagless htagless hn, firstTemplate?_behind]
    | across f y g kind found hp h =>
      refine .inr ⟨if kind = .opening then templateBody? 0 found else firstTemplate? found, fun n hn => ?_⟩
      rw [h n hn, firstTemplate?]
    | inFront f tag p' hp hne h =>
      by_cases hkind : tag.kind = .opening
      · -- the first template starts behind this tag
        rcases templateBody?_resize 0 p' t with ⟨q, hq⟩ | ⟨fixed, hfixed⟩
        · refine .inl fun n hn => ⟨f ++ tag.text, p', q, by simp [hp], ?_⟩
          rw [h n hn, placedTemplate?, if_pos hkind]
          exact congrArg (Option.map _) (hq n hn)
        · refine .inr ⟨fixed, fun n hn => ?_⟩
          rw [h n hn, firstTemplate?, if_pos hkind]
          exact hfixed n hn
      · -- the first template stands behind this tag, and so does the blank text in it
        rcases ih f p' tag hp hne with hstands | ⟨fixed, hfixed⟩
        · refine .inl fun n hn => ?_
          obtain ⟨front, b, q, hb, hplaced⟩ := hstands n hn
          refine ⟨f ++ tag.text ++ front, b, q, by simp [hp, hb], ?_⟩
          rw [h n hn, placedTemplate?, if_neg hkind, hplaced]
          rfl
        · refine .inr ⟨fixed, fun n hn => ?_⟩
          rw [h n hn, firstTemplate?, if_neg hkind]
          exact hfixed n hn

/-! ## Files that differ in the body of their script -/

/-- A component file without the body of its first script. -/
structure AroundScript where
  /-- The text in front of the script. -/
  before : Text
  /-- The opening tag of the script. -/
  opening : Text
  /-- The attributes in that tag. -/
  attrs : Text
  /-- The closing tag of the script. -/
  closing : Text
  /-- The text behind the script. -/
  rest : Text
  isOpening : IsOpeningTag "script" attrs opening
  isClosing : IsClosingTag "script" closing

namespace AroundScript

variable (a : AroundScript) {body body' : Text}

/-- The file with the given body. -/
def text (body : Text) : Text := a.before ++ (a.opening ++ (body ++ (a.closing ++ a.rest)))

/-- The length of the script with its tags. -/
def zoneLength (body : Text) : Nat := a.opening.length + body.length + a.closing.length

/-- The script is the first one of the file with the given body. -/
def IsFirst (body : Text) : Prop :=
  search (fun _ u => block? "script" u) none (a.text body) =
    some (a.before, ⟨a.attrs, body⟩, a.rest)

/-- The script stands in the template that is read. -/
def InTemplate (body : Text) : Prop := StandsInTemplate a.before (a.zoneLength body) a.rest

/-- Every style ends in front of the body of the script or starts behind it. -/
def StylesApart (body : Text) : Prop :=
  ∀ front style back, Occurs (block? "style") (a.text body) front style back →
    (body ++ (a.closing ++ a.rest)).length ≤ back.length ∨
      (a.before ++ (a.opening ++ body)).length ≤ front.length

/-- Every file with a script is a file around the body of its first script. -/
theorem exists_of_search {before rest t : Text} {script : Block}
    (h : search (fun _ u => block? "script" u) none t = some (before, script, rest)) :
    ∃ a : AroundScript, t = a.text script.body ∧ a.IsFirst script.body ∧ a.before = before ∧
      a.attrs = script.attrs ∧ a.rest = rest := by
  obtain ⟨u, rfl, hhere, -⟩ := Text.exists_of_search h
  obtain ⟨attrs, body⟩ := script
  obtain ⟨opening, closing, hopening, hclosing, rfl, -⟩ := block?_eq_some_iff.1 hhere
  exact ⟨⟨before, opening, attrs, closing, rest, hopening, hclosing⟩, rfl, h, rfl, rfl, rfl⟩

/-- Another body leaves the script the first one. -/
theorem IsFirst.of_other_body {a : AroundScript} (h : a.IsFirst body)
    (hbody' : ¬ Mentions ('<' :: '/' :: "script") body') : a.IsFirst body' := by
  have hhere : block? "script" (a.opening ++ (body' ++ (a.closing ++ a.rest))) =
      some (⟨a.attrs, body'⟩, a.rest) := by
    refine block?_eq_some_iff.2 ⟨a.opening, a.closing, a.isOpening, a.isClosing, rfl, ?_⟩
    exact fun x y hxy hy =>
      closingTag?_eq_none_of_not_mentions (by decide) a.isClosing hbody' hxy hy a.rest
  refine search_of_first (fun x y hxy hy => ?_) hhere
  rw [Option.eq_none_iff_forall_ne_some]
  rintro ⟨script, rest⟩ hfound
  -- the opening tag of an earlier script ends in front of the body, whatever the body is
  obtain ⟨tag, u, htag, hu⟩ := exists_openingTag_of_block? hfound
  have hin : '>' ∈ y ++ a.opening := by
    obtain ⟨w, -, -, -, hopening⟩ := a.isOpening
    simp [hopening]
  have hprefix : tag <+: (y ++ a.opening) ++ (body' ++ (a.closing ++ a.rest)) :=
    ⟨u, by rw [← hu, List.append_assoc]⟩
  obtain ⟨z, hz⟩ := (htag.endsAtBracket (by decide)).prefix_of_prefix_append hin hprefix
  obtain ⟨v, hv, -, hearlier⟩ := Text.exists_of_search h
  obtain rfl : v = a.opening ++ (body ++ (a.closing ++ a.rest)) := (List.append_cancel_left hv).symm
  have hnone := hearlier x y hxy hy
  rw [← List.append_assoc, ← hz, List.append_assoc, block?_append htag, Option.map_eq_none_iff,
    search_eq_none_iff] at hnone
  have hclosing : closingTag? "script" (a.closing ++ a.rest) = some a.rest :=
    closingTag?_eq_some_iff.2 ⟨a.closing, a.isClosing, rfl⟩
  rw [hnone (z ++ body) (a.closing ++ a.rest) (by simp)] at hclosing
  cases hclosing

theorem ofText_of_isFirst {a : AroundScript} (h : a.IsFirst body) :
    ofText (a.text body) =
      { script := body
        scriptAttrs := a.attrs.strip
        template := outerTemplate (a.before ++ (spaces (a.zoneLength body) ++ a.rest))
        styles := styleZones (a.text body) } := by
  have hlength : (a.text body).length - a.before.length - a.rest.length = a.zoneLength body := by
    simp only [text, zoneLength, List.length_append]
    omega
  rw [ofText, h]
  simp only [hlength, List.append_assoc]
  rfl

theorem zoneLength_pos (body : Text) : 0 < a.zoneLength body := by
  have h := List.length_pos_iff.2 (a.isOpening.endsAtBracket (by decide)).ne_nil
  simp only [zoneLength]
  omega

/-- The styles are those in front of the body of the script and those behind it when none meets it. -/
theorem styleZones_of_apart {a : AroundScript} (h : a.StylesApart body) :
    styleZones (a.text body) =
      styleZones (a.before ++ a.opening) ++ styleZones (a.closing ++ a.rest) := by
  have htext : a.text body = (a.before ++ a.opening) ++ (body ++ (a.closing ++ a.rest)) := by
    rw [text, List.append_assoc]
  have happ := map_snd_occurrences_of_apart (p := a.before ++ a.opening) (s := body)
    (t := a.closing ++ a.rest) (advances_block? "style") (isLocal_block? (by decide)) fun f s b hocc => by
      rw [← htext] at hocc
      rw [List.append_assoc]
      exact h f s b hocc
  rw [styleZones_eq, styleZones_eq, styleZones_eq, htext, happ, List.map_append]

/-- Without the opening of a style in front of the script or in it the styles stand apart from it. -/
theorem stylesApart_of_free (h : Free ('<' :: "style") (a.before ++ (a.opening ++ body))) :
    a.StylesApart body := by
  intro front style back hocc
  have htext : a.text body = (a.before ++ (a.opening ++ body)) ++ (a.closing ++ a.rest) := by
    simp [text]
  rw [htext] at hocc
  exact .inr (hocc.length_le (advances_block? _) fun x y hxy hy => block?_eq_none_of_free h hxy hy _)

/-- **The script does not show in the other zones.** Another body of the first script changes no template
that the script does not stand in, and it changes no style as long as no style of either file meets the
body. -/
theorem ofText_other_body (a : AroundScript) (body body' : Text) (hfirst : a.IsFirst body)
    (hbody' : ¬ Mentions ('<' :: '/' :: "script") body') (htemplate : ¬ a.InTemplate body) :
    ofText (a.text body') =
        { ofText (a.text body) with script := body', styles := styleZones (a.text body') } ∧
      (a.StylesApart body → a.StylesApart body' →
        ofText (a.text body') = { ofText (a.text body) with script := body' }) := by
  have hsame : outerTemplate (a.before ++ (spaces (a.zoneLength body') ++ a.rest)) =
      outerTemplate (a.before ++ (spaces (a.zoneLength body) ++ a.rest)) := by
    rcases firstTemplate?_resize a.before a.rest with hstands | ⟨result, hresult⟩
    · exact absurd (hstands _ (a.zoneLength_pos body)) htemplate
    · rw [outerTemplate, outerTemplate, hresult _ (a.zoneLength_pos body),
        hresult _ (a.zoneLength_pos body')]
  rw [ofText_of_isFirst hfirst, ofText_of_isFirst (hfirst.of_other_body hbody'), hsame]
  refine ⟨rfl, fun hapart hapart' => ?_⟩
  rw [styleZones_of_apart hapart, styleZones_of_apart hapart']

/-- A script in front of the rest of a file. -/
def leading (rest : Text) : AroundScript where
  before := []
  opening := "<script>"
  attrs := []
  closing := "</script>"
  rest := rest
  isOpening := ⟨"script", by decide, by decide, by decide, by decide⟩
  isClosing := ⟨"script", [], by decide, by decide, by decide⟩

/-- A script with a template tag in a comment, in front of a template and a style. -/
theorem ofText_leading_script :
    let a := leading "<template>b</template><style>c</style>"
    ofText (a.text "/* <template> */") =
      { ofText (a.text "") with script := "/* <template> */" } ∧
      ofText (a.text "") = ⟨"", "", "b", [⟨"", "c"⟩]⟩ := by
  intro a
  have hfirst : a.IsFirst "" := by
    show search _ none _ = some _
    decide
  have htemplate : ¬ a.InTemplate "" := by
    rintro ⟨front, b, q, hfront, hplaced⟩
    obtain ⟨rfl, rfl⟩ := List.append_eq_nil_iff.1 hfront.symm
    have hbody : placedTemplate? (occurrences templateTag? (a.before ++
        (spaces (a.zoneLength "") ++ a.rest))) = some (spaces 17 ++ "<template>", "b".toList) := by
      decide +kernel
    rw [hbody] at hplaced
    cases hplaced
  have hapart : a.StylesApart "" :=
    a.stylesApart_of_free (free_of_not_mentions (s := "<script") (by decide) (by decide))
  have hapart' : a.StylesApart "/* <template> */" :=
    a.stylesApart_of_free (free_of_not_mentions (s := "<script>/* <template> *") (by decide) (by decide))
  have hother := (ofText_other_body a "" "/* <template> */" hfirst (by decide) htemplate).2 hapart hapart'
  refine ⟨hother, ?_⟩
  decide +kernel

/-- The script stands in a style. -/
def InStyle (body : Text) : Prop :=
  ∃ front style back, Occurs (block? "style") (a.text body) front style back ∧
    front.length ≤ a.before.length ∧ back.length ≤ a.rest.length

/-- A script that stands in no template and in no style can show in the styles: the example of a style in
its comment is read as a style. -/
theorem styles_of_script : ∃ (a : AroundScript) (body body' : Text), a.IsFirst body ∧
    ¬ Mentions ('<' :: '/' :: "script") body' ∧ ¬ a.InTemplate body ∧ ¬ a.InStyle body ∧
    (ofText (a.text body)).styles = [⟨"", "a\x7b\x7d"⟩] ∧ (ofText (a.text body')).styles = [] := by
  refine ⟨leading "", "/* <style>a\x7b\x7d</style> */", "", ?_, by decide, ?_, ?_, ?_, ?_⟩
  · show search _ none _ = some _
    decide
  · rintro ⟨front, b, q, -, hplaced⟩
    have hnone : placedTemplate? (occurrences templateTag? ((leading "").before ++
        (spaces ((leading "").zoneLength "/* <style>a\x7b\x7d</style> */") ++ (leading "").rest))) = none := by
      decide +kernel
    rw [hnone] at hplaced
    cases hplaced
  · rintro ⟨front, style, back, hocc, hfront, -⟩
    have hle := Occurs.length_le (s := "<script>") (u := "/* <style>a\x7b\x7d</style> */</script>")
      (advances_block? "style") (fun x y hxy hy => block?_eq_none_of_free
        (free_of_not_mentions (s := "<script") (by decide) (by decide)) hxy hy _) hocc
    have hzero : front.length ≤ 0 := hfront
    have height : 8 ≤ front.length := hle
    omega
  · decide +kernel
  · decide +kernel

end AroundScript

end ComponentBook.SourceZones
