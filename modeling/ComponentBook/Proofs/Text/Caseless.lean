import ComponentBook.Proofs.Text.Search
import ComponentBook.Text.Blank
import ComponentBook.Text.Caseless
import ComponentBook.Text.Word
import Mathlib.Tactic.IntervalCases

/-! # Words in letters of any case

**`Spells w t`** says that `t` is the word `w` in letters of any case, **`Mentions w t`** that such a
spelling stands somewhere in `t`, and **`Free w t`** that none starts in `t`, whatever follows. Two texts
that are free of a word are so together (**`Free.append`**). A word that is mentioned in neither of two
texts is not mentioned in both together, as soon as the second one does not go on with letters of the word
(**`not_mentions_append`**). -/

namespace ComponentBook.Text

variable {c d : Char} {a b r t u w x y : Text}

/-- `t` is the word `w` in letters of any case. -/
def Spells (w t : Text) : Prop := t.map plainLetter = w

instance (w t : Text) : Decidable (Spells w t) := inferInstanceAs (Decidable (_ = _))

/-- Somewhere in `t` stands the word `w`, in letters of any case. -/
def Mentions (w t : Text) : Prop := w <:+: t.map plainLetter

instance (w t : Text) : Decidable (Mentions w t) := inferInstanceAs (Decidable (_ <:+: _))

theorem Spells.map_eq (h : Spells w t) : t.map plainLetter = w := h

theorem dropWordCaseless?_eq_some_iff :
    dropWordCaseless? w t = some r ↔ ∃ v, Spells w v ∧ t = v ++ r := by
  induction w generalizing t with
  | nil => simp [dropWordCaseless?, Spells]
  | cons a w ih =>
    cases t with
    | nil => simp [dropWordCaseless?, Spells]
    | cons c t =>
      rw [dropWordCaseless?]
      constructor
      · intro h
        split at h
        · next hc =>
          obtain ⟨v, hv, rfl⟩ := ih.1 h
          exact ⟨c :: v, by rw [Spells, List.map_cons, hv, hc], rfl⟩
        · simp at h
      · rintro ⟨v, hv, he⟩
        cases v with
        | nil => simp [Spells] at hv
        | cons d v =>
          obtain ⟨rfl, rfl⟩ := List.cons.inj he
          obtain ⟨hc, hv⟩ := List.cons.inj hv
          rw [if_pos hc.symm]
          exact ih.2 ⟨v, hv, rfl⟩

/-! ## Characters that are no letters -/

@[simp] theorem plainLetter_bracket : plainLetter '<' = '<' := by decide

@[simp] theorem plainLetter_closing_bracket : plainLetter '>' = '>' := by decide

@[simp] theorem plainLetter_slash : plainLetter '/' = '/' := by decide

/-- A character counts as itself or as a small letter. -/
theorem plainLetter_eq_or (c : Char) :
    plainLetter c = c ∨ ('a' ≤ plainLetter c ∧ plainLetter c ≤ 'z') := by
  by_cases hcapital : ('A' ≤ c && c ≤ 'Z') = true
  · -- the capital letters stand 32 places in front of the small ones
    obtain ⟨hlow, hhigh⟩ := Bool.and_eq_true_iff.1 hcapital
    have hlow : 65 ≤ c.toNat := by simpa [Char.le_def, UInt32.le_iff_toNat_le] using hlow
    have hhigh : c.toNat ≤ 90 := by simpa [Char.le_def, UInt32.le_iff_toNat_le] using hhigh
    right
    rw [plainLetter, if_pos hcapital]
    generalize c.toNat = n at hlow hhigh
    interval_cases n <;> decide
  · rw [plainLetter, if_neg hcapital]
    -- four more characters count as small letters: two forms of i, the long s and the Kelvin sign
    by_cases hi : (c = 'İ' || c = 'ı') = true
    · rw [if_pos hi]
      exact .inr (by decide)
    · rw [if_neg hi]
      by_cases hs : c = 'ſ'
      · rw [if_pos hs]
        exact .inr (by decide)
      · rw [if_neg hs]
        by_cases hk : c = '\u212a'
        · rw [if_pos hk]
          exact .inr (by decide)
        · rw [if_neg hk]
          exact .inl rfl

/-- Only a character itself counts as it when it is no small letter. -/
theorem eq_of_plainLetter_eq (hd : ¬ ('a' ≤ d ∧ d ≤ 'z')) (h : plainLetter c = d) : c = d := by
  rcases plainLetter_eq_or c with hself | hletter
  · rw [← hself, h]
  · rw [h] at hletter
    exact absurd hletter hd

/-- A blank character counts as itself. -/
theorem plainLetter_of_isBlank (h : isBlank c = true) : plainLetter c = c := by
  obtain ⟨range, hrange, hlow, hhigh⟩ := exists_range_of_inRanges h
  have hnot : ¬ (65 ≤ c.toNat ∧ c.toNat ≤ 90) ∧ c.toNat ≠ 304 ∧ c.toNat ≠ 305 ∧ c.toNat ≠ 383 ∧
      c.toNat ≠ 8490 := by
    simp only [blankRanges, List.mem_cons, List.not_mem_nil, or_false] at hrange
    rcases hrange with rfl | rfl | rfl | rfl | rfl | rfl | rfl | rfl | rfl | rfl <;>
      simp only at hlow hhigh <;> omega
  obtain ⟨hcapital, hdotted, hdotless, hlong, hkelvin⟩ := hnot
  have hne : ∀ d : Char, c.toNat ≠ d.toNat → c ≠ d := fun d hd he => hd (congrArg Char.toNat he)
  have hnoi : ¬ (c = 'İ' || c = 'ı') = true := by
    simp [hne 'İ' hdotted, hne 'ı' hdotless]
  have hnotcapital : ¬ ('A' ≤ c && c ≤ 'Z') = true := by
    simpa [Char.le_def, UInt32.le_iff_toNat_le] using hcapital
  rw [plainLetter, if_neg hnotcapital, if_neg hnoi, if_neg (hne 'ſ' hlong), if_neg (hne '\u212a' hkelvin)]

/-- A blank character is none of a word. -/
theorem isWord_of_isBlank (h : isBlank c = true) : isWord c = false := by
  have hall : ((blankRanges.flatMap fun r => List.range' r.1 (r.2 + 1 - r.1)).all
      fun n => !inRanges wordRanges n) = true := by decide +kernel
  obtain ⟨range, hrange, hlow, hhigh⟩ := exists_range_of_inRanges h
  have hmem : c.toNat ∈ blankRanges.flatMap fun r => List.range' r.1 (r.2 + 1 - r.1) := by
    refine List.mem_flatMap.2 ⟨range, hrange, List.mem_range'_1.2 ⟨hlow, ?_⟩⟩
    omega
  simpa [isWord] using List.all_eq_true.1 hall _ hmem

/-! ## Words that do not stand in a text -/

/-- No spelling of the word starts in `s`, whatever follows. -/
def Free (word s : Text) : Prop :=
  ∀ x y t, s = x ++ y → y ≠ [] → ¬ word <+: (y ++ t).map plainLetter

theorem free_nil (word : Text) : Free word [] := by
  intro x y t he hy
  exact absurd (List.append_eq_nil_iff.1 he.symm).2 hy

theorem Free.append (ha : Free w a) (hb : Free w b) : Free w (a ++ b) := by
  intro x y t he hy
  rcases List.append_eq_append_iff.1 he with ⟨z, rfl, rfl⟩ | ⟨z, rfl, rfl⟩
  · exact hb z y t rfl hy
  · by_cases hz : z = []
    · subst hz
      exact hb [] b t rfl hy
    · rw [List.append_assoc]
      exact ha x z (b ++ t) rfl hz

/-- A word does not start in a text without its first character. -/
theorem free_of_not_mem (hc : ¬ ('a' ≤ c ∧ c ≤ 'z')) (h : c ∉ s) : Free (c :: w) s := by
  intro x y t he hy hprefix
  cases y with
  | nil => exact hy rfl
  | cons d y =>
    rw [List.cons_append, List.map_cons, List.cons_prefix_cons] at hprefix
    have hd : d = c := eq_of_plainLetter_eq hc hprefix.1.symm
    apply h
    rw [he, ← hd]
    simp

/-- A word that a text does not mention does not start in it when the last character of the text is none
of the word. -/
theorem free_of_not_mentions (h : ¬ Mentions w (s ++ [d])) (hd : plainLetter d ∉ w) :
    Free w (s ++ [d]) := by
  intro x y t he hy hprefix
  rw [List.map_append] at hprefix
  rcases List.prefix_or_prefix_of_prefix hprefix (List.prefix_append _ _) with hin | hover
  · apply h
    rw [Mentions, he, List.map_append]
    exact hin.isInfix.trans (List.suffix_append _ _).isInfix
  · -- the word would go over the last character
    have hlast : d ∈ y := by
      have hlast? : y.getLast? = some d := by
        rw [← List.getLast?_append_of_ne_nil x hy, ← he]
        simp
      exact List.mem_of_getLast? hlast?
    exact hd (hover.subset (List.mem_map_of_mem hlast))

theorem not_mentions_of_free (hw : w ≠ []) (h : Free w s) : ¬ Mentions w s := by
  rintro ⟨x, y, he⟩
  rw [List.append_assoc] at he
  obtain ⟨a, b, rfl, rfl, hb⟩ := List.map_eq_append_iff.1 he.symm
  have hne : b ≠ [] := by
    rintro rfl
    exact hw (List.append_eq_nil_iff.1 hb.symm).1
  apply h a b [] rfl hne
  rw [List.append_nil, hb]
  exact List.prefix_append w y

/-- A word that is not mentioned in `s` starts at none of its places, as soon as the text behind does not
go on with one of its later letters. -/
theorem not_prefix_of_not_mentions (hs : ¬ Mentions (c :: w) (x ++ y)) (hy : y ≠ [])
    (ht : ∀ d, t.head? = some d → plainLetter d ∉ w) : ¬ c :: w <+: (y ++ t).map plainLetter := by
  intro h
  rw [List.map_append] at h
  have hin : c :: w <+: y.map plainLetter := by
    apply prefix_of_prefix_append (by simpa using hy) _ h
    intro d hd
    rw [List.head?_map] at hd
    obtain ⟨e, he, rfl⟩ := Option.map_eq_some_iff.1 hd
    exact ht e he
  apply hs
  rw [Mentions, List.map_append]
  exact hin.isInfix.trans (List.suffix_append _ _).isInfix

/-- A word is not mentioned in two texts put together when neither mentions it and the second one does not
start with one of its later letters. -/
theorem not_mentions_append (ha : ¬ Mentions (c :: w) a) (hb : ¬ Mentions (c :: w) b)
    (hhead : ∀ d, b.head? = some d → plainLetter d ∉ w) : ¬ Mentions (c :: w) (a ++ b) := by
  intro h
  rw [Mentions, List.map_append] at h
  have hstop : ∀ d, (b.map plainLetter).head? = some d → d ∉ w := by
    intro d hd
    rw [List.head?_map] at hd
    obtain ⟨e, he, rfl⟩ := Option.map_eq_some_iff.1 hd
    exact hhead e he
  rcases infix_or_infix_of_infix_append hstop h with hin | hin
  · exact ha hin
  · exact hb hin

end ComponentBook.Text
