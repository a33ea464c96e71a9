import ComponentBook.Proofs.Text.Lines
import ComponentBook.Proofs.Text.Search

/-! # Words

The words of a text are not empty and hold no blank characters (`isWord_of_mem_words`). So a text that is
collapsed, its words one space apart, stands on one line and has no blanks at its ends
(**`oneLine_collapse`**). -/

namespace ComponentBook.Text

/-- A word is not empty and holds no blank characters. -/
structure IsWord (w : Text) : Prop where
  ne_nil : w ≠ []
  not_blank : ∀ c ∈ w, isBlank c = false

theorem mem_wordsAfter {word t : Text} (hword : ∀ c ∈ word, isBlank c = false) :
    ∀ w ∈ wordsAfter word t, IsWord w := by
  have hreverse {w : Text} (hne : w.isEmpty ≠ true) (hw : ∀ c ∈ w, isBlank c = false) :
      IsWord w.reverse :=
    ⟨by simpa using hne, fun c hc => hw c (List.mem_reverse.1 hc)⟩
  fun_induction wordsAfter word t with
  | case1 => exact List.forall_mem_nil _
  | case2 word hne => exact List.forall_mem_singleton.2 (hreverse hne hword)
  | case3 word c t _ _ ih => exact ih (List.forall_mem_nil _)
  | case4 word c t _ hne ih =>
    exact List.forall_mem_cons.2 ⟨hreverse hne hword, ih (List.forall_mem_nil _)⟩
  | case5 word c t hc ih =>
    exact ih (List.forall_mem_cons.2 ⟨Bool.eq_false_iff.2 hc, hword⟩)

theorem isWord_of_mem_words {t w : Text} (h : w ∈ t.words) : IsWord w :=
  mem_wordsAfter (List.forall_mem_nil _) w h

theorem IsWord.strip_eq {w : Text} (h : IsWord w) : w.strip = w :=
  strip_eq_self (fun c hc => h.not_blank c (List.mem_of_head? hc))
    fun c hc => h.not_blank c (List.mem_of_getLast? hc)

theorem wordsAfter_eq_nil_iff {word t : Text} :
    wordsAfter word t = [] ↔ word = [] ∧ t.allBlank = true := by
  fun_induction wordsAfter word t with
  | case1 word hnil => simpa using ⟨List.isEmpty_iff.1 hnil, rfl⟩
  | case2 word hne => simpa using fun hnil => absurd hnil (by simpa using hne)
  | case3 word c t hc hnil ih => simp [ih, hc, List.isEmpty_iff.1 hnil]
  | case4 word c t hc hne ih => simpa using fun hnil => absurd hnil (by simpa using hne)
  | case5 word c t hc ih => simp [ih, hc]

/-- Nothing is left of a text that is collapsed exactly when it is blank. -/
theorem collapse_eq_nil_iff {t : Text} : t.collapse = [] ↔ t.allBlank = true := by
  have hwords : t.words = [] ↔ t.allBlank = true := by
    rw [words, wordsAfter_eq_nil_iff]
    exact and_iff_right rfl
  rw [← hwords, collapse]
  constructor
  · intro hnil
    by_contra hne
    obtain ⟨w, ws, hws⟩ := List.exists_cons_of_ne_nil hne
    have hword : IsWord w := isWord_of_mem_words (hws ▸ List.mem_cons_self)
    rw [hws] at hnil
    exact join_ne_nil [' '] ws hword.ne_nil hnil
  · intro hnil
    rw [hnil]
    rfl

/-- A collapsed text is empty or a plain line. -/
theorem isPlain_collapse {t : Text} (h : t.collapse ≠ []) : IsPlain t.collapse := by
  have hstrip : t.collapse.strip = t.collapse :=
    strip_join fun w hw => ⟨(isWord_of_mem_words hw).ne_nil, (isWord_of_mem_words hw).strip_eq⟩
  refine ⟨?_, hstrip, ?_⟩
  · rw [isFilled, Bool.not_eq_true', Bool.eq_false_iff, ne_eq, ← strip_eq_nil_iff, hstrip]
    exact h
  · refine forall_mem_join (no_break_of_all rfl) fun w hw c hc => ?_
    have hblank := (isWord_of_mem_words hw).not_blank c hc
    rw [Bool.eq_false_iff] at hblank ⊢
    exact fun hbreak => hblank (isBlank_of_isLineBreak hbreak)

/-- Words with one space between them: no other blank characters, and none at the ends. -/
structure IsSpaced (t : Text) : Prop where
  eq_space : ∀ c ∈ t, isBlank c = true → c = ' '
  no_gap : ¬ [' ', ' '] <:+: t
  head : ∀ c, t.head? = some c → isBlank c = false
  last : ∀ c, t.getLast? = some c → isBlank c = false

/-- Between words one space apart there are no two spaces in a row. -/
theorem not_gap_infix_join {ws : List Text} (h : ∀ w ∈ ws, IsWord w) : ¬ [' ', ' '] <:+: join [' '] ws := by
  have hspace {w : Text} (hw : IsWord w) : ' ' ∉ w := fun hin => by cases hw.not_blank _ hin
  induction ws with
  | nil => decide
  | cons w ws ih =>
    rw [List.forall_mem_cons] at h
    cases ws with
    | nil =>
      rw [join_singleton]
      exact fun hin => hspace h.1 (hin.subset List.mem_cons_self)
    | cons v ws =>
      rw [join_cons_cons, List.append_assoc, List.singleton_append]
      intro hin
      rcases List.infix_cons_iff.1 (infix_of_infix_append (hspace h.1) hin) with hprefix | hlater
      · -- the second space would be the first character of the next word
        obtain ⟨hv, -⟩ := List.forall_mem_cons.1 h.2
        have hhead := head?_join [' '] ws hv.ne_nil
        obtain ⟨rest, hrest⟩ := (List.cons_prefix_cons.1 hprefix).2
        rw [← hrest] at hhead
        exact hspace hv (List.mem_of_head? hhead.symm)
      · exact ih h.2 hlater

theorem isSpaced_collapse (t : Text) : IsSpaced t.collapse := by
  have hwords : ∀ w ∈ t.words, IsWord w := fun w hw => isWord_of_mem_words hw
  have hstrip : t.collapse.strip = t.collapse :=
    strip_join fun w hw => ⟨(hwords w hw).ne_nil, (hwords w hw).strip_eq⟩
  refine ⟨?_, not_gap_infix_join hwords, ?_, ?_⟩
  · refine forall_mem_join (P := fun c => isBlank c = true → c = ' ') (by simp) fun w hw c hc hblank => ?_
    rw [(hwords w hw).not_blank c hc] at hblank
    cases hblank
  · intro c hc
    rw [← hstrip] at hc
    exact head?_strip_not_blank hc
  · intro c hc
    rw [← hstrip] at hc
    exact getLast?_strip_not_blank hc

/-- A text that is empty or a plain line. -/
def OneLine (t : Text) : Prop := t = [] ∨ IsPlain t

theorem oneLine_collapse (t : Text) : OneLine t.collapse := by
  by_cases h : t.collapse = []
  · exact .inl h
  · exact .inr (isPlain_collapse h)

/-! ## Words of texts that are put together -/

theorem wordsAfter_append_blank {c : Char} (hc : isBlank c = true) (word a b : Text) :
    wordsAfter word (a ++ c :: b) = wordsAfter word a ++ words b := by
  -- along the first text, the word that is being read included
  fun_induction wordsAfter word a with
  | case1 word hnil => rw [List.nil_append, wordsAfter, if_pos hc, if_pos hnil, List.nil_append, words]
  | case2 word hne => rw [List.nil_append, wordsAfter, if_pos hc, if_neg hne, List.singleton_append, words]
  | case3 word d a hd hnil ih => rw [List.cons_append, wordsAfter, if_pos hd, if_pos hnil, ih]
  | case4 word d a hd hne ih => rw [List.cons_append, wordsAfter, if_pos hd, if_neg hne, ih, List.cons_append]
  | case5 word d a hd ih => rw [List.cons_append, wordsAfter, if_neg hd, ih]

/-- A blank character keeps the words in front of it apart from those behind it. -/
theorem words_append_blank {c : Char} (hc : isBlank c = true) (a b : Text) :
    words (a ++ c :: b) = words a ++ words b :=
  wordsAfter_append_blank hc [] a b

theorem words_of_allBlank {t : Text} (h : t.allBlank = true) : words t = [] :=
  wordsAfter_eq_nil_iff.2 ⟨rfl, h⟩

theorem words_blank_append {a : Text} (ha : a.allBlank = true) (t : Text) : words (a ++ t) = words t := by
  induction a with
  | nil => rfl
  | cons c a ih =>
    rw [allBlank_cons, Bool.and_eq_true] at ha
    rw [List.cons_append, ← List.nil_append (c :: _), words_append_blank ha.1, ih ha.2]
    rfl

/-- Stripping keeps the words. -/
@[simp] theorem words_strip (t : Text) : t.strip.words = t.words := by
  obtain ⟨a, b, ht⟩ := exists_eq_strip t
  conv_rhs => rw [ht]
  rw [words_blank_append a.2]
  obtain ⟨blank, hblank⟩ := b
  cases blank with
  | nil => rw [List.append_nil]
  | cons c blank =>
    rw [allBlank_cons, Bool.and_eq_true] at hblank
    rw [words_append_blank hblank.1, words_of_allBlank hblank.2, List.append_nil]

/-- A word that is being read is the start of the first word. -/
theorem exists_wordsAfter_cons {word : Text} (hne : word ≠ []) (t : Text) :
    ∃ w ws, wordsAfter word t = (word.reverse ++ w) :: ws := by
  induction t generalizing word with
  | nil => exact ⟨[], [], by rw [wordsAfter, if_neg (by simpa using hne), List.append_nil]⟩
  | cons c t ih =>
    by_cases hc : isBlank c = true
    · exact ⟨[], words t, by rw [wordsAfter, if_pos hc, if_neg (by simpa using hne), List.append_nil, words]⟩
    · obtain ⟨w, ws, hws⟩ := ih (List.cons_ne_nil c word)
      exact ⟨c :: w, ws, by rw [wordsAfter, if_neg hc, hws, List.reverse_cons, List.append_assoc]; rfl⟩

/-- A text that starts with a character of a word starts with its first word. -/
theorem exists_words_cons {c : Char} (hc : isBlank c = false) (t : Text) :
    ∃ w ws, words (c :: t) = (c :: w) :: ws := by
  obtain ⟨w, ws, hws⟩ := exists_wordsAfter_cons (List.cons_ne_nil c []) t
  exact ⟨w, ws, by rw [words, wordsAfter, hc, if_neg Bool.false_ne_true, hws]; rfl⟩

/-- The words of texts joined by spaces are those of the texts. -/
theorem words_join (ts : List Text) : words (join [' '] ts) = ts.flatMap words := by
  induction ts with
  | nil => rfl
  | cons t ts ih =>
    cases ts with
    | nil => rw [join_singleton, List.flatMap_singleton]
    | cons u ts =>
      rw [join_cons_cons, List.append_assoc, List.singleton_append, words_append_blank (by decide), ih,
        ← List.flatMap_cons]

end ComponentBook.Text
