import ComponentBook.Markdown.Page
import ComponentBook.Proofs.Text.Caseless
import ComponentBook.Text.Lower

/-! # The fence of a style

A style is shown in a fence with a language. **`StyleZone.ownLanguage`** is the one that a reader expects: the
language that the style declares, when it is one of the style languages, else `css`. The fence is chosen by looking
for the style languages in the language and in all attributes of the style, so that it is the own one exactly when
no style language that is looked for earlier stands in the attributes (**`styleFenceLanguage_style_iff`**); another
attribute may hold one (**`styleFenceLanguage_sassyStyle`**).

What is declared stands in the attributes as well, and in lower case it is found there: letter by letter, since the
style languages are made of letters that a text in lower case has only from themselves and their capital letters
(**`IsPlainSmall`**, **`infix_lower_iff`**). -/

namespace ComponentBook

namespace Text

variable {c d : Char} {before w t u v : Text} {n m : Nat}

/-! ## Small letters -/

/-- A letter is its own small letter or has it from a run. -/
theorem smallLetter_cases (runs : List (Nat × Nat × Nat × Nat)) (n : Nat) :
    smallLetter runs n = n ∨ ∃ run ∈ runs, run.1 ≤ n ∧ n ≤ run.2.1 ∧
      smallLetter runs n = run.2.2.2 + (n - run.1) := by
  induction runs with
  | nil => exact .inl rfl
  | cons run runs ih =>
    obtain ⟨first, last, step, small⟩ := run
    rw [smallLetter]
    split
    · exact .inl rfl
    · next hfirst =>
      split
      · next hrun =>
        rw [Bool.and_eq_true, decide_eq_true_eq] at hrun
        exact .inr ⟨_, List.mem_cons_self, Nat.not_lt.1 hfirst, hrun.1, rfl⟩
      · rcases ih with hself | ⟨run, hrun, hsmall⟩
        · exact .inl hself
        · exact .inr ⟨run, List.mem_cons_of_mem _ hrun, hsmall⟩

/-- Only ASCII letters and the kelvin sign have ASCII letters for small ones. -/
theorem small_of_mem_capitalRuns : ∀ run ∈ capitalRuns,
    run.2.1 < 128 ∨ run = (0x212A, 0x212A, 1, 0x6B) ∨ 128 ≤ run.2.2.2 := by
  decide +kernel

theorem smallLetter_ascii : ∀ n < 128,
    smallLetter capitalRuns n = if 65 ≤ n ∧ n ≤ 90 then n + 32 else n := by
  decide +kernel

/-- An ASCII character that is a small letter of something is no capital letter, and it is that of itself or of the
letter 32 places in front of it; only `k` is also that of the kelvin sign. -/
theorem eq_or_of_smallLetter_eq (h : smallLetter capitalRuns n = m) (hm : m < 128) (hk : m ≠ 0x6B) :
    n = m ∧ ¬ (65 ≤ m ∧ m ≤ 90) ∨ n + 32 = m ∧ 65 ≤ n ∧ n ≤ 90 := by
  have hn : n < 128 := by
    rcases smallLetter_cases capitalRuns n with hself | ⟨run, hrun, hlow, hhigh, hsmall⟩
    · omega
    · rcases small_of_mem_capitalRuns run hrun with hascii | rfl | hother
      · omega
      · simp only at hlow hhigh hsmall
        omega
      · omega
  rw [smallLetter_ascii n hn] at h
  split at h <;> omega

/-- A small letter that a text in lower case has only from itself or its capital letter, whatever stands around it.
The dotted capital letter gives an `i`, the kelvin sign a `k`. -/
def IsPlainSmall (d : Char) : Prop := 97 ≤ d.toNat ∧ d.toNat ≤ 122 ∧ d ≠ 'i' ∧ d ≠ 'k'

instance (d : Char) : Decidable (IsPlainSmall d) := inferInstanceAs (Decidable (_ ∧ _))

theorem toNat_ofNat_pos (h : (Char.ofNat n).toNat ≠ 0) : (Char.ofNat n).toNat = n := by
  by_cases hvalid : n.isValidChar
  · rw [Char.ofNat, dif_pos hvalid]
    rfl
  · rw [Char.ofNat, dif_neg hvalid] at h
    exact absurd rfl h

theorem smallLetter_toNat (h : (lowerChar c).toNat ≠ 0) :
    smallLetter capitalRuns c.toNat = (lowerChar c).toNat :=
  (toNat_ofNat_pos h).symm

/-! ## Words in lower case -/

/-- The small letters that the dotted capital i and the capital sigma give. -/
def contextLetters : List Char := ['i', '\u0307', 'σ', 'ς']

/-- In lower case a character is its own small letter, or it is the dotted capital i or the capital sigma, neither
of which is a small letter. -/
theorem exists_lowerAfter_cons (before : Text) (c : Char) (t : Text) :
    ∃ e es, lowerAfter before (c :: t) = e :: es ++ lowerAfter (c :: before) t ∧
      (e = lowerChar c ∧ es = [] ∨ (∀ d ∈ e :: es, d ∈ contextLetters) ∧ ¬ IsPlainSmall (lowerChar c)) := by
  rw [lowerAfter]
  split
  · next hdotted =>
    subst hdotted
    exact ⟨'i', ['\u0307'], rfl, .inr (by decide)⟩
  · split
    · next hsigma =>
      subst hsigma
      refine ⟨_, [], rfl, .inr ⟨?_, by decide⟩⟩
      split <;> decide
    · exact ⟨lowerChar c, [], rfl, .inl ⟨rfl, rfl⟩⟩

theorem not_isPlainSmall_of_mem (h : d ∈ contextLetters) : ¬ IsPlainSmall d := by
  revert d
  decide

theorem prefix_lowerAfter_iff (hw : ∀ d ∈ w, IsPlainSmall d) (before t : Text) :
    w <+: lowerAfter before t ↔ w <+: t.map lowerChar := by
  induction w generalizing before t with
  | nil => simp
  | cons d w ih =>
    have hd := hw d List.mem_cons_self
    cases t with
    | nil => rfl
    | cons c t =>
      obtain ⟨e, es, hlower, ⟨rfl, rfl⟩ | ⟨hcontext, hother⟩⟩ := exists_lowerAfter_cons before c t
      · rw [hlower, List.map_cons, List.singleton_append, List.cons_prefix_cons, List.cons_prefix_cons,
          ih (fun f hf => hw f (List.mem_cons_of_mem _ hf)) (c :: before) t]
      · rw [hlower, List.map_cons, List.cons_append, List.cons_prefix_cons, List.cons_prefix_cons]
        constructor
        · rintro ⟨rfl, -⟩
          exact absurd hd (not_isPlainSmall_of_mem (hcontext d List.mem_cons_self))
        · rintro ⟨rfl, -⟩
          exact absurd hd hother

theorem infix_lowerAfter_iff (hw : ∀ d ∈ w, IsPlainSmall d) (before t : Text) :
    w <:+: lowerAfter before t ↔ w <:+: t.map lowerChar := by
  induction t generalizing before with
  | nil => rfl
  | cons c t ih =>
    cases w with
    | nil => simp
    | cons d w =>
      have hd := hw d List.mem_cons_self
      obtain ⟨e, es, hlower, ⟨rfl, rfl⟩ | ⟨hcontext, hother⟩⟩ := exists_lowerAfter_cons before c t
      · have hhere := prefix_lowerAfter_iff hw before (c :: t)
        rw [hlower, List.map_cons, List.singleton_append] at hhere
        rw [hlower, List.map_cons, List.singleton_append, List.infix_cons_iff, List.infix_cons_iff, hhere, ih]
      · -- what the character becomes depends on its context, and no plain word holds it either way
        have habsent : d ∉ e :: es := fun hmem => not_isPlainSmall_of_mem (hcontext d hmem) hd
        have hne : d ∉ [lowerChar c] := fun hmem => hother (List.mem_singleton.1 hmem ▸ hd)
        rw [hlower, List.map_cons]
        constructor
        · intro h
          exact List.infix_cons ((ih (c :: before)).1 (infix_of_infix_append habsent h))
        · intro h
          exact ((ih (c :: before)).2 (infix_of_infix_append hne h)).trans (List.suffix_append _ _).isInfix

/-- A word of plain small letters stands in the lower case of a text where it stands letter by letter. -/
theorem infix_lower_iff (hw : ∀ d ∈ w, IsPlainSmall d) : w <:+: lower t ↔ w <:+: t.map lowerChar :=
  infix_lowerAfter_iff hw [] t

/-- A character of a text in lower case is a small letter or comes from a character together with its
neighbours. -/
theorem mem_lowerAfter (h : d ∈ lowerAfter before t) : (∃ c, d = lowerChar c) ∨ d ∈ contextLetters := by
  induction t generalizing before with
  | nil => cases h
  | cons c t ih =>
    obtain ⟨e, es, hlower, hkind⟩ := exists_lowerAfter_cons before c t
    rw [hlower, List.mem_append] at h
    rcases h with hhere | hlater
    · rcases hkind with ⟨rfl, rfl⟩ | ⟨hcontext, -⟩
      · exact .inl ⟨c, List.mem_singleton.1 hhere⟩
      · exact .inr (hcontext d hhere)
    · exact ih hlater

/-- A character of a text in lower case is no ASCII capital letter. -/
theorem not_capital_of_mem_lowerAfter (h : c ∈ lowerAfter before t) : ¬ (65 ≤ c.toNat ∧ c.toNat ≤ 90) := by
  rcases mem_lowerAfter h with ⟨e, rfl⟩ | hcontext
  · intro hcapital
    have hsmall := smallLetter_toNat (c := e) (by omega)
    rcases eq_or_of_smallLetter_eq hsmall (by omega) (by omega) with ⟨-, hno⟩ | ⟨heq, hlow, hhigh⟩
    · exact hno hcapital
    · omega
  · have hnone : ∀ d ∈ contextLetters, ¬ (65 ≤ d.toNat ∧ d.toNat ≤ 90) := by decide
    exact hnone c hcontext

/-- A plain small letter is the small letter of itself and its capital letter only. -/
theorem IsPlainSmall.eq_or_capital (hd : IsPlainSmall d) (h : lowerChar c = d) :
    c = d ∨ 65 ≤ c.toNat ∧ c.toNat ≤ 90 := by
  obtain ⟨hlow, hhigh, -, hk⟩ := hd
  subst h
  have hsmall := smallLetter_toNat (c := c) (by omega)
  have hkelvin : (lowerChar c).toNat ≠ 0x6B := by
    intro he
    rw [← Char.ofNat_toNat (lowerChar c), he] at hk
    exact hk rfl
  rcases eq_or_of_smallLetter_eq hsmall (by omega) hkelvin with ⟨heq, -⟩ | ⟨-, hcapital⟩
  · refine .inl ?_
    rw [← Char.ofNat_toNat (lowerChar c), ← heq, Char.ofNat_toNat]
  · exact .inr hcapital

/-- A word stands in the small letters of a text in lower case only where it stands in the text. -/
theorem infix_of_infix_map_lower (hw : ∀ d ∈ w, IsPlainSmall d) (h : w <:+: (lower t).map lowerChar) :
    w <:+: lower t := by
  obtain ⟨x, y, hxy⟩ := h
  obtain ⟨xw, y', hlower, hxw, -⟩ := List.append_eq_map_iff.1 hxy
  obtain ⟨x', w', rfl, -, rfl⟩ := List.append_eq_map_iff.1 hxw.symm
  have hself : w'.map lowerChar = w' := by
    refine (List.map_congr_left fun e he => ?_).trans (List.map_id w')
    rcases (hw _ (List.mem_map_of_mem he)).eq_or_capital rfl with heq | hcapital
    · exact heq.symm
    · have hmem : e ∈ lower t := by
        rw [hlower]
        simp [he]
      exact absurd hcapital (not_capital_of_mem_lowerAfter hmem)
  rw [hself]
  exact ⟨x', y', hlower.symm⟩

/-- A word that stands in the lower case of a text in lower case stands in that text. -/
theorem infix_lower_lower (hw : ∀ d ∈ w, IsPlainSmall d) (h : w <:+: lower (lower t)) : w <:+: lower t :=
  infix_of_infix_map_lower hw ((infix_lower_iff hw).1 h)

/-- A word in the lower case of a part of a text stands in that of the whole text. -/
theorem infix_lower_of_infix (hw : ∀ d ∈ w, IsPlainSmall d) (huv : u <:+: t) (h : w <:+: lower u) : w <:+: lower t :=
  (infix_lower_iff hw).2 (((infix_lower_iff hw).1 h).trans (huv.map lowerChar))

end Text

/-! ## The language of a style -/

open Markdown

variable {zone : StyleZone} {lang language : Text}

/-- The language that a reader expects of a style: the one that it declares, when it is one of the style languages,
else `css`. -/
def StyleZone.ownLanguage (zone : StyleZone) : Text :=
  (zone.lang?.filter fun lang => styleLanguages.contains lang).getD "css"

/-- A language is read from the text at its place. -/
theorem infix_of_langHere? {before : Option Char} {t : Text} (h : langHere? before t = some lang) : lang <:+: t := by
  simp only [langHere?, Option.bind_eq_bind, Option.bind_eq_some_iff, Text.dropWordCaseless?_eq_some_iff,
    Text.dropPrefix?_eq_some_iff] at h
  obtain ⟨-, -, behind, ⟨word, -, rfl⟩, value, hvalue, -, -, h⟩ := h
  obtain rfl := Option.some.inj h
  have hbehind : value <:+ behind := by
    refine List.IsSuffix.trans ?_ (List.dropWhile_suffix Text.isBlank)
    rw [← Text.stripLeft, hvalue]
    exact List.suffix_append _ value
  refine (List.takeWhile_prefix _).isInfix.trans (List.IsSuffix.isInfix ?_)
  refine List.IsSuffix.trans ?_ (hbehind.trans (List.suffix_append word behind))
  -- a quote in front of the language is left out
  have hstrip : Text.stripLeft value <:+ value := List.dropWhile_suffix Text.isBlank
  split
  · next u hquote => exact (List.suffix_cons '"' u).trans (hquote ▸ hstrip)
  · next u hquote => exact (List.suffix_cons '\'' u).trans (hquote ▸ hstrip)
  · exact hstrip

/-- What a style declares stands in its attributes. -/
theorem StyleZone.exists_of_lang? (h : zone.lang? = some lang) :
    ∃ v, v <:+: zone.attrs ∧ lang = Text.lower v := by
  obtain ⟨⟨skipped, v⟩, hfound, rfl⟩ := Option.map_eq_some_iff.1 h
  obtain ⟨u, hattrs, hhere, -⟩ := Text.exists_of_search hfound
  refine ⟨v, (infix_of_langHere? hhere).trans ?_, rfl⟩
  rw [hattrs]
  exact (List.suffix_append skipped u).isInfix

theorem isPlainSmall_of_mem (h : language ∈ styleLanguages) : ∀ d ∈ language, Text.IsPlainSmall d := by
  revert language
  decide

theorem not_infix_css (h : language ∈ styleLanguages) : ¬ language <:+: Text.lower "css" := by
  revert language
  decide

theorem no_space_of_mem (h : language ∈ styleLanguages) : language ≠ [] ∧ Text.lowerChar ' ' ∉ language := by
  revert language
  decide

/-- A style language stands in the language or the attributes of a style exactly when it stands in the
attributes. -/
theorem contains_style_iff (zone : StyleZone) (h : language ∈ styleLanguages) :
    (Text.lower (zone.style.lang ++ ' ' :: zone.style.attrs)).contains language = true ↔
      language <:+: Text.lower zone.attrs := by
  have hplain := isPlainSmall_of_mem h
  rw [Text.contains_eq_true_iff]
  constructor
  · intro hin
    rw [Text.infix_lower_iff hplain, List.map_append, List.map_cons] at hin
    obtain ⟨hne, hspace⟩ := no_space_of_mem h
    -- a space stands between the two, and in no style language
    rcases Text.infix_or_infix_of_not_mem hne hspace hin with hlang | hattrs
    · have hmention := (Text.infix_lower_iff hplain).2 hlang
      cases hdeclared : zone.lang? with
      | none =>
        -- a style that declares nothing is taken for CSS, whose name holds no other
        rw [StyleZone.style, hdeclared] at hmention
        exact absurd hmention (not_infix_css h)
      | some lang =>
        obtain ⟨v, hv, rfl⟩ := StyleZone.exists_of_lang? hdeclared
        rw [StyleZone.style, hdeclared] at hmention
        exact Text.infix_lower_of_infix hplain hv (Text.infix_lower_lower hplain hmention)
    · exact (Text.infix_lower_iff hplain).2 hattrs
  · intro hin
    exact Text.infix_lower_of_infix hplain ((List.suffix_cons ' ' _).trans (List.suffix_append _ _)).isInfix hin

/-- The first element that is looked for is a certain one exactly when none in front of it is found. -/
theorem find?_getD_eq_iff {α : Type} [DecidableEq α] {p : α → Bool} {xs : List α} {a fallback : α}
    (hin : a ∈ xs → p a = true) (hout : a ∉ xs → fallback = a) :
    (xs.find? p).getD fallback = a ↔ ∀ x ∈ xs.takeWhile (· ≠ a), p x = false := by
  induction xs with
  | nil => simp [hout]
  | cons x xs ih =>
    by_cases hx : x = a
    · subst hx
      rw [List.find?_cons_of_pos (hin List.mem_cons_self), List.takeWhile_cons_of_neg (by simp)]
      simp
    · rw [List.takeWhile_cons_of_pos (by simpa using hx), List.forall_mem_cons]
      cases hp : p x with
      | true =>
        rw [List.find?_cons_of_pos hp]
        simp [hx]
      | false =>
        have hmem : a ∈ xs ↔ a ∈ x :: xs := by simp [Ne.symm hx]
        rw [List.find?_cons_of_neg (by simp [hp]), ih (fun h => hin (hmem.1 h)) fun h => hout (mt hmem.2 h)]
        simp

theorem StyleZone.ownLanguage_cases (zone : StyleZone) :
    (zone.lang? = some zone.ownLanguage ∧ zone.ownLanguage ∈ styleLanguages) ∨ zone.ownLanguage = "css".toList := by
  rw [ownLanguage]
  cases hdeclared : zone.lang? with
  | none => exact .inr rfl
  | some lang =>
    by_cases hmem : lang ∈ styleLanguages
    · rw [Option.filter_some_pos (by simpa using hmem)]
      exact .inl ⟨rfl, hmem⟩
    · rw [Option.filter_some_neg (by simpa using hmem)]
      exact .inr rfl

/-- A style language that is declared stands in the attributes. -/
theorem StyleZone.infix_ownLanguage (zone : StyleZone) (h : zone.ownLanguage ∈ styleLanguages) :
    zone.ownLanguage <:+: Text.lower zone.attrs := by
  rcases zone.ownLanguage_cases with ⟨hdeclared, -⟩ | hcss
  · obtain ⟨v, hv, hown⟩ := exists_of_lang? hdeclared
    exact Text.infix_lower_of_infix (isPlainSmall_of_mem h) hv (hown ▸ List.infix_rfl)
  · rw [hcss] at h
    exact absurd h (by decide)

/-- **The fence of a style** has the style's own language exactly when its attributes hold none of the style
languages that are looked for before it, or none at all when its own language is `css`. -/
theorem styleFenceLanguage_style_iff (zone : StyleZone) :
    styleFenceLanguage zone.style = zone.ownLanguage ↔
      ∀ language ∈ styleLanguages.takeWhile (· ≠ zone.ownLanguage), ¬ language <:+: Text.lower zone.attrs := by
  have hown : zone.ownLanguage ∈ styleLanguages →
      (Text.lower (zone.style.lang ++ ' ' :: zone.style.attrs)).contains zone.ownLanguage = true := by
    intro hmem
    rw [contains_style_iff zone hmem]
    exact zone.infix_ownLanguage hmem
  have hcss : zone.ownLanguage ∉ styleLanguages → "css".toList = zone.ownLanguage := by
    intro hno
    exact (zone.ownLanguage_cases.resolve_left fun h => hno h.2).symm
  rw [styleFenceLanguage, find?_getD_eq_iff hown hcss]
  refine forall₂_congr fun language hmem => ?_
  rw [← contains_style_iff zone (List.takeWhile_subset _ hmem), Bool.not_eq_true]

/-- A style in less that names a file of another language. -/
def importingStyle : StyleZone := ⟨"lang=\"less\" src=\"./theme.stylus\"", "a\x7b\x7d"⟩

/-- What is looked for behind the own language does not matter. -/
theorem styleFenceLanguage_importingStyle : styleFenceLanguage importingStyle.style = "less".toList := by
  have hown : importingStyle.ownLanguage = "less".toList := by decide +kernel
  exact ((styleFenceLanguage_style_iff importingStyle).2 (by decide +kernel)).trans hown

/-- A style in less with a class that holds the name of another language. -/
def sassyStyle : StyleZone := ⟨"lang=\"less\" class=\"sassy\"", "a\x7b\x7d"⟩

/-- The class counts more than the language. -/
theorem styleFenceLanguage_sassyStyle :
    styleFenceLanguage sassyStyle.style = "sass".toList ∧ sassyStyle.ownLanguage = "less".toList ∧
      styleFenceLanguage sassyStyle.style ≠ sassyStyle.ownLanguage := by
  decide +kernel

end ComponentBook
