import ComponentBook.Text.Blank
import ComponentBook.Text.Lines
import Mathlib.Data.List.DropRight

/-! # Blanks at the ends of a text

What **`Text.strip`** leaves starts and ends with characters that are not blank
(`head?_strip_not_blank`, `getLast?_strip_not_blank`), and a text of that kind is left as it is
(`strip_eq_self`). Line breaks are blank, so that stripping takes them off too. -/

namespace ComponentBook.Text

/-- What ends a line is blank. -/
theorem isBlank_of_isLineBreak {c : Char} (h : isLineBreak c = true) : isBlank c = true := by
  simp only [isLineBreak, isOtherBreak, Bool.or_eq_true, decide_eq_true_eq] at h
  rcases h with (rfl | rfl) | ((((((rfl | rfl) | rfl) | rfl) | rfl) | rfl) | rfl) | rfl <;> rfl

theorem allBlank_eq_true_iff {t : Text} : t.allBlank = true ↔ ∀ c ∈ t, isBlank c = true :=
  List.all_eq_true

@[simp] theorem allBlank_append (a b : Text) : allBlank (a ++ b) = (a.allBlank && b.allBlank) :=
  List.all_append

@[simp] theorem allBlank_cons (c : Char) (t : Text) : allBlank (c :: t) = (isBlank c && t.allBlank) :=
  List.all_cons

theorem not_blank_of_mem {t : Text} {c : Char} (hc : isBlank c = false) (h : c ∈ t) :
    t.allBlank = false := by
  rw [Bool.eq_false_iff]
  intro hblank
  rw [allBlank_eq_true_iff.1 hblank c h] at hc
  cases hc

/-- Taking blanks off the end is the library's way of dropping from the right. -/
theorem stripRight_eq_rdropWhile (t : Text) : t.stripRight = t.rdropWhile isBlank := rfl

theorem strip_sublist (t : Text) : List.Sublist t.strip t := by
  rw [strip, stripRight_eq_rdropWhile]
  exact (List.rdropWhile_prefix isBlank _).sublist.trans (List.dropWhile_sublist _)

/-- A text without blanks at its start has none there either once its end is stripped. -/
theorem head?_strip_not_blank {t : Text} {c : Char} (h : t.strip.head? = some c) :
    isBlank c = false := by
  rw [strip, stripRight_eq_rdropWhile] at h
  obtain ⟨rest, hrest⟩ := List.rdropWhile_prefix isBlank (stripLeft t)
  have hc : (stripLeft t).head? = some c := by
    rw [← hrest, List.head?_append, h, Option.some_or]
  have hnot := List.head?_dropWhile_not isBlank t
  rw [← stripLeft, hc] at hnot
  simpa using hnot

theorem getLast?_strip_not_blank {t : Text} {c : Char} (h : t.strip.getLast? = some c) :
    isBlank c = false := by
  rw [strip, stripRight_eq_rdropWhile] at h
  have hne : (stripLeft t).rdropWhile isBlank ≠ [] := by
    intro hnil
    rw [hnil] at h
    cases h
  rw [List.getLast?_eq_some_getLast hne] at h
  have hlast := List.rdropWhile_last_not isBlank (stripLeft t) hne
  rw [Option.some.inj h] at hlast
  simpa using hlast

theorem stripLeft_eq_self {t : Text} (ht : ∀ c, t.head? = some c → isBlank c = false) : stripLeft t = t := by
  cases t with
  | nil => rfl
  | cons c t => rw [stripLeft, List.dropWhile_cons_of_neg (by simp [ht c rfl])]

theorem stripRight_eq_self {t : Text} (ht : ∀ c, t.getLast? = some c → isBlank c = false) :
    stripRight t = t := by
  rw [stripRight_eq_rdropWhile, List.rdropWhile_eq_self_iff]
  intro hne
  simp [ht _ (List.getLast?_eq_some_getLast hne)]

theorem stripRight_of_strip_eq {t : Text} (h : t.strip = t) : stripRight t = t := by
  refine stripRight_eq_self fun c hc => ?_
  rw [← h] at hc
  exact getLast?_strip_not_blank hc

/-- A text is its own stripped form as soon as neither its first nor its last character is blank. -/
theorem strip_eq_self {t : Text} (hfirst : ∀ c, t.head? = some c → isBlank c = false)
    (hlast : ∀ c, t.getLast? = some c → isBlank c = false) : t.strip = t := by
  rw [strip, stripLeft_eq_self hfirst, stripRight_eq_self hlast]

@[simp] theorem strip_strip (t : Text) : t.strip.strip = t.strip :=
  strip_eq_self (fun _ => head?_strip_not_blank) (fun _ => getLast?_strip_not_blank)

/-- Blanks can be taken off either end first. -/
theorem stripLeft_stripRight (t : Text) : stripLeft t.stripRight = (stripLeft t).stripRight := by
  rw [stripRight_eq_rdropWhile, stripRight_eq_rdropWhile, stripLeft, stripLeft]
  -- from the end of the text on, where a blank that stands last is dropped
  induction t using List.reverseRecOn with
  | nil => rfl
  | append_singleton t c ih =>
    by_cases hc : isBlank c = true
    · rw [List.rdropWhile_concat_pos _ _ _ hc, ih, List.dropWhile_append]
      split
      · next hnil =>
        rw [List.isEmpty_iff.1 hnil, List.dropWhile_cons_of_pos hc]
        rfl
      · rw [List.rdropWhile_concat_pos _ _ _ hc]
    · rw [List.rdropWhile_concat_neg _ _ _ hc, List.dropWhile_append, List.dropWhile_cons_of_neg hc]
      split
      · exact (List.rdropWhile_singleton ..).symm ▸ (if_neg hc).symm
      · rw [List.rdropWhile_concat_neg _ _ _ hc]

/-- To strip the end only does not change what is left when both ends are stripped. -/
@[simp] theorem strip_stripRight (t : Text) : t.stripRight.strip = t.strip := by
  rw [strip, stripLeft_stripRight, strip]
  exact List.rdropWhile_idempotent isBlank (stripLeft t)

/-- Nothing is left of a text exactly when it is blank. -/
theorem strip_eq_nil_iff {t : Text} : t.strip = [] ↔ t.allBlank = true := by
  rw [strip, stripRight_eq_rdropWhile, List.rdropWhile_eq_nil_iff, allBlank_eq_true_iff, stripLeft]
  refine ⟨fun h c hc => ?_, fun h c hc => h c ((List.dropWhile_sublist _).subset hc)⟩
  rw [← List.takeWhile_append_dropWhile (p := isBlank) (l := t), List.mem_append] at hc
  rcases hc with hc | hc
  · exact List.mem_takeWhile_imp hc
  · exact h c hc

/-- Stripping keeps a text blank or not. -/
theorem allBlank_strip (t : Text) : t.strip.allBlank = t.allBlank := by
  rw [Bool.eq_iff_iff, ← strip_eq_nil_iff, ← strip_eq_nil_iff, strip_strip]

/-- Text of blank characters only. -/
abbrev BlankText := {t : Text // t.allBlank = true}

/-- One blank character. -/
def space : BlankText := ⟨[' '], by decide⟩

theorem space_ne_nil : space.1 ≠ [] := by decide

/-- No blank characters. -/
def noBlank : BlankText := ⟨[], rfl⟩

/-- What is taken off the start of a text is blank. -/
theorem exists_blank_stripLeft (t : Text) : ∃ blank : BlankText, t = blank.1 ++ stripLeft t :=
  ⟨⟨t.takeWhile isBlank, List.all_eq_true.2 fun _ hc => List.mem_takeWhile_imp hc⟩,
    (List.takeWhile_append_dropWhile (p := isBlank) (l := t)).symm⟩

/-- Blanks in front of a text that does not start with one are taken off. -/
theorem stripLeft_append {blank t : Text} (hblank : blank.allBlank = true)
    (ht : ∀ c, t.head? = some c → isBlank c = false) : stripLeft (blank ++ t) = t := by
  rw [stripLeft, List.dropWhile_append_of_pos (allBlank_eq_true_iff.1 hblank)]
  exact stripLeft_eq_self ht

/-- Blanks are taken off up to a character that is not blank. -/
theorem stripLeft_append_cons {c : Char} (hc : isBlank c = false) (blank : BlankText) (t : Text) :
    stripLeft (blank.1 ++ c :: t) = c :: t := by
  refine stripLeft_append blank.2 fun d hd => ?_
  obtain rfl : c = d := Option.some.inj hd
  exact hc

theorem dropBlanks?_append {gap : BlankText} {t : Text} (hgap : gap.1 ≠ [])
    (ht : ∀ c, t.head? = some c → isBlank c = false) : dropBlanks? (gap.1 ++ t) = some t := by
  obtain ⟨gap, hblank⟩ := gap
  cases gap with
  | nil => exact absurd rfl hgap
  | cons c gap =>
    rw [allBlank_cons, Bool.and_eq_true] at hblank
    rw [List.cons_append, dropBlanks?, if_pos hblank.1, stripLeft_append hblank.2 ht]

/-- Only what stands behind a character that is not blank can be taken off the end. -/
theorem stripRight_append_eq {a : Text} (ha : ∀ c, a.getLast? = some c → isBlank c = false) (b : Text) :
    stripRight (a ++ b) = a ++ stripRight b := by
  induction b using List.reverseRecOn with
  | nil => rw [List.append_nil, stripRight_eq_self ha, stripRight_eq_self (by simp), List.append_nil]
  | append_singleton b c ih =>
    rw [stripRight_eq_rdropWhile, stripRight_eq_rdropWhile] at ih ⊢
    rw [← List.append_assoc]
    by_cases hc : isBlank c = true
    · rw [List.rdropWhile_concat_pos _ _ _ hc, List.rdropWhile_concat_pos _ _ _ hc, ih]
    · rw [List.rdropWhile_concat_neg _ _ _ hc, List.rdropWhile_concat_neg _ _ _ hc, List.append_assoc]

theorem strip_cons {c : Char} (hc : isBlank c = false) (t : Text) : strip (c :: t) = c :: stripRight t := by
  have hlast : ∀ d, ([c] : Text).getLast? = some d → isBlank d = false := by
    intro d hd
    obtain rfl : c = d := Option.some.inj hd
    exact hc
  rw [strip, stripLeft, List.dropWhile_cons_of_neg (by simp [hc])]
  exact stripRight_append_eq hlast t

/-- What is left of the end of a text ends what is left of the text. -/
theorem stripRight_isSuffix (a b : Text) : b.stripRight <:+ (a ++ b).stripRight := by
  rw [← List.reverse_prefix, stripRight, stripRight, dropRightWhile, dropRightWhile, List.reverse_reverse,
    List.reverse_reverse, List.reverse_append, List.dropWhile_append]
  split
  · next hnil =>
    rw [List.isEmpty_iff.1 hnil]
    exact List.nil_prefix
  · exact List.prefix_append _ _

/-- Blanks behind a text that does not end with one are taken off. -/
theorem stripRight_append {t blank : Text} (ht : ∀ c, t.getLast? = some c → isBlank c = false)
    (hblank : blank.allBlank = true) : stripRight (t ++ blank) = t := by
  have hnil : stripRight blank = [] := by
    rw [stripRight_eq_rdropWhile, List.rdropWhile_eq_nil_iff]
    exact allBlank_eq_true_iff.1 hblank
  rw [stripRight_append_eq ht, hnil, List.append_nil]

/-- Only what stands in front of a character that is not blank can be taken off the start. -/
theorem stripLeft_append_eq (a : Text) {b : Text} (hb : ∀ c, b.head? = some c → isBlank c = false) :
    stripLeft (a ++ b) = stripLeft a ++ b := by
  rw [stripLeft, List.dropWhile_append]
  split
  · next hnil =>
    rw [List.isEmpty_iff] at hnil
    rw [stripLeft, hnil]
    exact stripLeft_eq_self hb
  · rfl

theorem stripLeft_eq_nil_iff {t : Text} : stripLeft t = [] ↔ t.allBlank = true := by
  rw [stripLeft, List.dropWhile_eq_nil_iff, allBlank_eq_true_iff]

/-- Behind a character that is not blank nothing is taken off the start. -/
theorem stripLeft_append_right {t : Text} (h : stripLeft t ≠ []) (r : Text) :
    stripLeft (t ++ r) = stripLeft t ++ r := by
  rw [stripLeft, List.dropWhile_append, if_neg]
  · rfl
  · rwa [List.isEmpty_iff]

/-- Stripping takes off blanks only. -/
theorem count_strip {c : Char} (hc : isBlank c = false) (t : Text) : t.strip.count c = t.count c := by
  have hleft (t : Text) : (stripLeft t).count c = t.count c := by
    have hnone : (t.takeWhile isBlank).count c = 0 := by
      rw [List.count_eq_zero]
      intro hmem
      rw [List.mem_takeWhile_imp hmem] at hc
      cases hc
    have hsum := congrArg (List.count c) (List.takeWhile_append_dropWhile (p := isBlank) (l := t))
    rw [List.count_append, hnone, Nat.zero_add] at hsum
    exact hsum
  have hright (t : Text) : (stripRight t).count c = t.count c := by
    have hrev : stripRight t = (stripLeft t.reverse).reverse := rfl
    rw [hrev, List.count_reverse, hleft, List.count_reverse]
  rw [strip, hright, hleft]

theorem strip_isInfix (t : Text) : t.strip <:+: t := by
  rw [strip, stripRight_eq_rdropWhile]
  exact (List.rdropWhile_prefix isBlank _).isInfix.trans (List.dropWhile_suffix isBlank).isInfix

/-- A text without blanks at its ends is what is left of it between blanks. -/
theorem strip_between {a b t : Text} (hne : t ≠ []) (ht : t.strip = t) (ha : a.allBlank = true)
    (hb : b.allBlank = true) : strip (a ++ (t ++ b)) = t := by
  have hfirst : ∀ c, (t ++ b).head? = some c → isBlank c = false := by
    intro c hc
    rw [List.head?_append_of_ne_nil _ hne, ← ht] at hc
    exact head?_strip_not_blank hc
  have hlast : ∀ c, t.getLast? = some c → isBlank c = false := by
    intro c hc
    rw [← ht] at hc
    exact getLast?_strip_not_blank hc
  rw [strip, stripLeft_append ha hfirst, stripRight_append hlast hb]

/-- A text is what is left of it between blank characters. -/
theorem exists_eq_strip (t : Text) : ∃ a b : BlankText, t = a.1 ++ (strip t ++ b.1) := by
  obtain ⟨front, hfront⟩ := exists_blank_stripLeft t
  -- the end is stripped as the start of the reversed text is
  obtain ⟨back, hback⟩ := exists_blank_stripLeft (stripLeft t).reverse
  have hblank : allBlank back.1.reverse = true :=
    allBlank_eq_true_iff.2 fun c hc => allBlank_eq_true_iff.1 back.2 c (List.mem_reverse.1 hc)
  have hright : stripLeft t = strip t ++ back.1.reverse := by
    rw [← List.reverse_reverse (stripLeft t), hback, List.reverse_append]
    rfl
  exact ⟨front, ⟨_, hblank⟩, hfront.trans (congrArg _ hright)⟩

theorem strip_blank_append {a : Text} (ha : a.allBlank = true) (t : Text) : strip (a ++ t) = strip t := by
  rw [strip, strip, stripLeft, stripLeft, List.dropWhile_append_of_pos (allBlank_eq_true_iff.1 ha)]

theorem strip_append_blank {b : Text} (hb : b.allBlank = true) (t : Text) : strip (t ++ b) = strip t := by
  by_cases hblank : t.allBlank = true
  · rw [strip_eq_nil_iff.2 hblank, strip_eq_nil_iff, allBlank_append, hblank, hb, Bool.and_self]
  · obtain ⟨front, behind, ht⟩ := exists_eq_strip t
    have htail : allBlank (behind.1 ++ b) = true := by rw [allBlank_append, behind.2, hb, Bool.and_self]
    conv_lhs => rw [ht, List.append_assoc, List.append_assoc]
    exact strip_between (mt strip_eq_nil_iff.1 hblank) (strip_strip t) front.2 htail

end ComponentBook.Text
