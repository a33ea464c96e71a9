import ComponentBook.Proofs.Text.Blank

/-! # Lines of texts that are put together

A text is cut into lines in two ways: at every line break (`Text.lines`) and at line feeds alone
(`Text.fields '\n'`). This file says what both do to texts that are put together:

* **`filledLines`** — the lines of a text that are not blank; a line feed between two texts keeps
  them apart (`filledLines_append_newline`), so the filled lines of a join are those of its parts
  (`filledLines_join`).
* **`IsPlain`** — a text on one line with no blanks at its ends; plain texts that are joined by line
  feeds are found again by either way of cutting (`lines_join`, `fields_join`). -/

namespace ComponentBook.Text

/-! ## Filled lines -/

/-- A text with something else than blanks. -/
def isFilled (t : Text) : Bool := !t.allBlank

/-- The lines of a text that are not blank. -/
def filledLines (t : Text) : List Text := t.lines.filter isFilled

/-- The lines that are not blank of a text whose first line has been read up to `line`, last
character first. -/
def filledLinesAfter (line t : Text) : List Text :=
  ((brokenLinesAfter line t).map Prod.fst).filter isFilled

theorem filledLinesAfter_nil (line : Text) :
    filledLinesAfter line [] = [line.reverse].filter isFilled := by
  rw [filledLinesAfter, brokenLinesAfter]
  cases line with
  | nil => rfl
  | cons c line => rfl

/-- A carriage return and a line feed end one line and not two; the line between them would be empty,
so that among filled lines each break counts for itself. -/
theorem filledLinesAfter_cons_break (line : Text) {c : Char} (t : Text)
    (h : isLineBreak c = true) :
    filledLinesAfter line (c :: t)
      = ([line.reverse].filter isFilled) ++ filledLinesAfter [] t := by
  rw [filledLinesAfter]
  -- a carriage return takes the line feed behind it along, which ends no line of its own then
  by_cases hpair : c = '\r' ∧ t.head? = some '\n'
  · obtain ⟨rfl, hhead⟩ := hpair
    obtain ⟨rest, rfl⟩ := List.head?_eq_some_iff.1 hhead
    rw [brokenLinesAfter, List.map_cons, ← List.singleton_append, List.filter_append]
    rfl
  · rw [brokenLinesAfter, if_pos h, List.map_cons, ← List.singleton_append, List.filter_append]
    · rfl
    · rintro rest rfl rfl
      exact hpair ⟨rfl, rfl⟩

theorem filledLinesAfter_cons (line : Text) {c : Char} (t : Text) (h : isLineBreak c = false) :
    filledLinesAfter line (c :: t) = filledLinesAfter (c :: line) t := by
  rw [filledLinesAfter, brokenLinesAfter, h]
  · rfl
  · rintro rest rfl
    cases h

theorem filledLinesAfter_append_newline (line a b : Text) :
    filledLinesAfter line (a ++ '\n' :: b) = filledLinesAfter line a ++ b.filledLines := by
  induction a generalizing line with
  | nil => rw [List.nil_append, filledLinesAfter_cons_break line b rfl, filledLinesAfter_nil]; rfl
  | cons c a ih =>
    rw [List.cons_append]
    cases h : isLineBreak c with
    | true => rw [filledLinesAfter_cons_break _ _ h, filledLinesAfter_cons_break _ _ h, ih,
        List.append_assoc]
    | false => rw [filledLinesAfter_cons _ _ h, filledLinesAfter_cons _ _ h, ih]

/-- A line feed keeps the filled lines before it apart from those behind it. -/
theorem filledLines_append_newline (a b : Text) :
    (a ++ '\n' :: b).filledLines = a.filledLines ++ b.filledLines :=
  filledLinesAfter_append_newline [] a b

/-- The filled lines of texts joined by line feeds are those of the texts. -/
theorem filledLines_join (ts : List Text) :
    (join ['\n'] ts).filledLines = ts.flatMap filledLines := by
  induction ts with
  | nil => rfl
  | cons t ts ih =>
    cases ts with
    | nil => rw [join_singleton, List.flatMap_cons, List.flatMap_nil, List.append_nil]
    | cons u ts =>
      rw [join_cons_cons, List.append_assoc, List.singleton_append, filledLines_append_newline, ih,
        ← List.flatMap_cons]

theorem filledLinesAfter_of_no_break (line t : Text) (h : ∀ c ∈ t, isLineBreak c = false) :
    filledLinesAfter line t = [line.reverse ++ t].filter isFilled := by
  induction t generalizing line with
  | nil => rw [filledLinesAfter_nil, List.append_nil]
  | cons c t ih =>
    rw [filledLinesAfter_cons line t (h c List.mem_cons_self),
      ih _ fun d hd => h d (List.mem_cons_of_mem c hd), List.reverse_cons, List.append_assoc,
      List.singleton_append]

/-- A text on one line is its only filled line, or it is blank. -/
theorem filledLines_of_no_break {t : Text} (h : ∀ c ∈ t, isLineBreak c = false) :
    t.filledLines = [t].filter isFilled :=
  filledLinesAfter_of_no_break [] t h

/-- The lines of a text hold no line breaks. -/
theorem isLineBreak_eq_false_of_mem_lines {t l : Text} (hl : l ∈ t.lines) :
    ∀ c ∈ l, isLineBreak c = false := by
  -- along the lines: the line that is being read has met no break so far
  have after (line t : Text) (hline : ∀ c ∈ line, isLineBreak c = false) :
      ∀ p ∈ brokenLinesAfter line t, ∀ c ∈ p.1, isLineBreak c = false := by
    fun_induction brokenLinesAfter line t with
    | case1 line h => simp
    | case2 line h => simpa using hline
    | case3 line t ih => simpa using ⟨hline, fun a b => ih (by simp) (a, b)⟩
    | case4 line c t _ h ih => simpa using ⟨hline, fun a b => ih (by simp) (a, b)⟩
    | case5 line c t _ h ih => exact ih (by simpa [h] using hline)
  obtain ⟨p, hp, rfl⟩ := List.mem_map.1 hl
  exact after [] t (by simp) p hp

/-- The characters of a line stand in the text. -/
theorem mem_of_mem_lines {t l : Text} {c : Char} (hl : l ∈ t.lines) (hc : c ∈ l) : c ∈ t := by
  obtain ⟨p, hp, rfl⟩ := List.mem_map.1 hl
  rw [← flatten_brokenLines t]
  exact List.mem_flatten.2 ⟨_, List.mem_map.2 ⟨p, hp, rfl⟩, List.mem_append_left _ hc⟩

/-- A blank text has no filled lines. -/
theorem filledLines_of_allBlank {t : Text} (h : t.allBlank = true) : t.filledLines = [] := by
  rw [filledLines, List.filter_eq_nil_iff]
  intro l hl
  have hblank : l.allBlank = true :=
    allBlank_eq_true_iff.2 fun c hc => allBlank_eq_true_iff.1 h c (mem_of_mem_lines hl hc)
  simp [isFilled, hblank]

/-! ## Plain lines -/

/-- A text on one line, with something on it and no blanks at its ends. -/
structure IsPlain (l : Text) : Prop where
  filled : isFilled l = true
  strip_eq : l.strip = l
  no_break : ∀ c ∈ l, isLineBreak c = false

/-- A text without line breaks, as a test of its characters finds. -/
theorem no_break_of_all {t : Text} (h : (t.all fun c => !isLineBreak c) = true) :
    ∀ c ∈ t, isLineBreak c = false := by
  intro c hc
  simpa using List.all_eq_true.1 h c hc

/-- A filled line is plain once it is stripped. -/
theorem IsPlain.of_strip {l : Text} (hfilled : isFilled l = true)
    (hbreak : ∀ c ∈ l, isLineBreak c = false) : IsPlain l.strip where
  filled := by rw [isFilled, allBlank_strip]; exact hfilled
  strip_eq := strip_strip l
  no_break c hc := hbreak c ((strip_sublist l).subset hc)

theorem IsPlain.ne_nil {l : Text} (h : IsPlain l) : l ≠ [] := by
  rintro rfl
  cases h.filled

theorem IsPlain.filledLines_eq {l : Text} (h : IsPlain l) : l.filledLines = [l] := by
  rw [filledLines_of_no_break h.no_break, List.filter_cons_of_pos h.filled, List.filter_nil]

/-- The first character of a plain line is not blank. -/
theorem IsPlain.head?_not_blank {l : Text} (h : IsPlain l) {c : Char} (hc : l.head? = some c) :
    isBlank c = false := by
  rw [← h.strip_eq] at hc
  exact head?_strip_not_blank hc

/-- The last character of a plain line is not blank. -/
theorem IsPlain.getLast?_not_blank {l : Text} (h : IsPlain l) {c : Char}
    (hc : l.getLast? = some c) : isBlank c = false := by
  rw [← h.strip_eq] at hc
  exact getLast?_strip_not_blank hc

theorem map_fst_brokenLinesAfter_append_newline (line l t : Text)
    (h : ∀ c ∈ l, isLineBreak c = false) :
    (brokenLinesAfter line (l ++ '\n' :: t)).map Prod.fst = (line.reverse ++ l) :: t.lines := by
  induction l generalizing line with
  | nil =>
    rw [List.nil_append, List.append_nil, brokenLinesAfter]
    · rfl
    · rintro rest hcr
      cases hcr
  | cons c l ih =>
    have hc := h c List.mem_cons_self
    rw [List.cons_append, brokenLinesAfter, hc]
    · rw [if_neg Bool.false_ne_true, ih _ fun d hd => h d (List.mem_cons_of_mem c hd),
        List.reverse_cons, List.append_assoc, List.singleton_append]
    · rintro rest rfl
      cases hc

theorem map_fst_brokenLinesAfter_of_no_break (line l : Text) (hne : line.reverse ++ l ≠ [])
    (h : ∀ c ∈ l, isLineBreak c = false) :
    (brokenLinesAfter line l).map Prod.fst = [line.reverse ++ l] := by
  induction l generalizing line with
  | nil =>
    rw [List.append_nil] at hne
    rw [brokenLinesAfter, if_neg (by simpa using hne), List.append_nil]
    rfl
  | cons c l ih =>
    have hc := h c List.mem_cons_self
    rw [brokenLinesAfter, hc]
    · rw [if_neg Bool.false_ne_true, ih _ (by simp) fun d hd => h d (List.mem_cons_of_mem c hd),
        List.reverse_cons, List.append_assoc, List.singleton_append]
    · rintro rest rfl
      cases hc

/-- Lines that each end with a line feed are found again, in front of those of the text behind them. -/
theorem lines_flatMap_newline {ls : List Text} (h : ∀ l ∈ ls, ∀ c ∈ l, isLineBreak c = false) (t : Text) :
    Text.lines ((ls.flatMap fun l => l ++ ['\n']) ++ t) = ls ++ t.lines := by
  induction ls with
  | nil => rfl
  | cons l ls ih =>
    rw [List.forall_mem_cons] at h
    have hshape : ((l :: ls).flatMap fun l => l ++ ['\n']) ++ t =
        l ++ '\n' :: ((ls.flatMap fun l => l ++ ['\n']) ++ t) := by simp
    have hlines := map_fst_brokenLinesAfter_append_newline [] l ((ls.flatMap fun l => l ++ ['\n']) ++ t) h.1
    rw [hshape, List.cons_append, ← ih h.2]
    exact hlines

/-- Texts that each stand behind a line feed, with one more line feed behind them, are lines that each end with
one. -/
theorem append_flatMap_newline (t : Text) (ts : List Text) :
    t ++ (ts.flatMap (fun u => '\n' :: u) ++ ['\n']) = (t :: ts).flatMap fun u => u ++ ['\n'] := by
  induction ts generalizing t with
  | nil => simp
  | cons u ts ih => rw [List.flatMap_cons, List.flatMap_cons, ← ih u]; simp

/-- A line feed keeps the lines in front of it apart from those behind it. -/
theorem lines_append_newline (a b : Text) : (a ++ '\n' :: b).lines = (a ++ ['\n']).lines ++ b.lines := by
  -- along the first text, the part of its first line that is already read included
  have after (line : Text) : (brokenLinesAfter line (a ++ '\n' :: b)).map Prod.fst =
      (brokenLinesAfter line (a ++ ['\n'])).map Prod.fst ++ b.lines := by
    have hfeed (line : Text) : (brokenLinesAfter line ('\n' :: b)).map Prod.fst =
        (brokenLinesAfter line ['\n']).map Prod.fst ++ b.lines := by
      have hb := map_fst_brokenLinesAfter_append_newline line [] b nofun
      have hnil := map_fst_brokenLinesAfter_append_newline line [] [] nofun
      rw [List.nil_append] at hb hnil
      rw [hb, hnil]
      rfl
    fun_induction brokenLinesAfter line a with
    | case1 line => exact hfeed line
    | case2 line => exact hfeed line
    | case3 line t ih =>
      rw [List.cons_append, List.cons_append, brokenLinesAfter, List.map_cons, ih]
      rfl
    | case4 line c t hpair hbreak ih =>
      by_cases hend : c = '\r' ∧ t = []
      · obtain ⟨rfl, rfl⟩ := hend
        rfl
      · -- the carriage return and the line feed of a pair stand both in the first text
        have hnot (u v : Text) (hc : c = '\r') (ht : t ++ '\n' :: u = '\n' :: v) : False := by
          cases t with
          | nil => exact hend ⟨hc, rfl⟩
          | cons d t => exact hpair t hc (by rw [(List.cons.inj ht).1])
        rw [List.cons_append, brokenLinesAfter, if_pos hbreak, List.map_cons, ih, List.cons_append,
          brokenLinesAfter, if_pos hbreak]
        · rfl
        · exact hnot []
        · exact hnot b
    | case5 line c t hpair hbreak ih =>
      have hnot (u v : Text) (hc : c = '\r') : False := by
        rw [hc] at hbreak
        exact hbreak rfl
      rw [List.cons_append, brokenLinesAfter, if_neg hbreak, ih, List.cons_append, brokenLinesAfter,
        if_neg hbreak]
      · exact fun v hc _ => hnot [] v hc
      · exact fun v hc _ => hnot b v hc
  exact after []

/-- Plain lines joined by line feeds are the lines of the text. -/
theorem lines_join {ls : List Text} (h : ∀ l ∈ ls, IsPlain l) : (join ['\n'] ls).lines = ls := by
  induction ls with
  | nil => rfl
  | cons l ls ih =>
    have hl := h l List.mem_cons_self
    cases ls with
    | nil => exact map_fst_brokenLinesAfter_of_no_break [] l hl.ne_nil hl.no_break
    | cons k ls =>
      rw [join_cons_cons, List.append_assoc, List.singleton_append, lines, brokenLines,
        map_fst_brokenLinesAfter_append_newline [] l _ hl.no_break,
        ih fun m hm => h m (List.mem_cons_of_mem l hm)]
      rfl

theorem join_append (sep : Text) {ts us : List Text} (hts : ts ≠ []) (hus : us ≠ []) :
    join sep (ts ++ us) = join sep ts ++ sep ++ join sep us := by
  induction ts with
  | nil => exact absurd rfl hts
  | cons t ts ih =>
    cases ts with
    | nil =>
      obtain ⟨u, us, rfl⟩ := List.exists_cons_of_ne_nil hus
      rfl
    | cons v ts =>
      have hrest := ih (List.cons_ne_nil v ts)
      rw [List.cons_append] at hrest
      rw [List.cons_append, List.cons_append, join_cons_cons, hrest, join_cons_cons]
      simp only [List.append_assoc]

/-- Texts in front of others have the separator behind each. -/
theorem join_append_cons (sep : Text) (ts : List Text) (u : Text) (us : List Text) :
    join sep (ts ++ u :: us) = (ts.flatMap fun t => t ++ sep) ++ join sep (u :: us) := by
  induction ts with
  | nil => rfl
  | cons t ts ih =>
    obtain ⟨v, vs, hvs⟩ := List.exists_cons_of_ne_nil
      (List.append_ne_nil_of_right_ne_nil ts (List.cons_ne_nil u us))
    rw [List.flatMap_cons, List.append_assoc, ← ih, List.cons_append, hvs, join_cons_cons]

/-- A join that starts with a text that is not empty is not empty. -/
theorem join_ne_nil (sep : Text) {t : Text} (ts : List Text) (h : t ≠ []) :
    join sep (t :: ts) ≠ [] := by
  cases ts with
  | nil => exact h
  | cons u ts =>
    rw [join_cons_cons, List.append_assoc]
    exact List.append_ne_nil_of_left_ne_nil h _

theorem head?_join (sep : Text) {t : Text} (ts : List Text) (h : t ≠ []) :
    (join sep (t :: ts)).head? = t.head? := by
  cases ts with
  | nil => rfl
  | cons u ts => rw [join_cons_cons, List.append_assoc, List.head?_append_of_ne_nil _ h]

/-- A join of texts without blanks at their ends has none at its ends. -/
theorem strip_join {sep : Text} {ts : List Text} (h : ∀ t ∈ ts, t ≠ [] ∧ t.strip = t) :
    (join sep ts).strip = join sep ts := by
  refine strip_eq_self (fun c hc => ?_) (fun c hc => ?_)
  · cases ts with
    | nil => cases hc
    | cons t ts =>
      obtain ⟨hne, hstrip⟩ := h t List.mem_cons_self
      rw [head?_join _ ts hne, ← hstrip] at hc
      exact head?_strip_not_blank hc
  · induction ts with
    | nil => cases hc
    | cons t ts ih =>
      cases ts with
      | nil =>
        rw [join_singleton, ← (h t List.mem_cons_self).2] at hc
        exact getLast?_strip_not_blank hc
      | cons u ts =>
        have hu := (h u (List.mem_cons_of_mem t List.mem_cons_self)).1
        rw [join_cons_cons, List.getLast?_append_of_ne_nil _ (join_ne_nil _ ts hu)] at hc
        exact ih (fun v hv => h v (List.mem_cons_of_mem t hv)) hc

/-- What holds of the characters of texts and of a separator holds of those of the join. -/
theorem forall_mem_join {P : Char → Prop} {sep : Text} (hsep : ∀ c ∈ sep, P c) {ts : List Text}
    (h : ∀ t ∈ ts, ∀ c ∈ t, P c) : ∀ c ∈ join sep ts, P c := by
  induction ts with
  | nil => exact nofun
  | cons t ts ih =>
    rw [List.forall_mem_cons] at h
    cases ts with
    | nil => exact h.1
    | cons u ts =>
      rw [join_cons_cons, List.forall_mem_append, List.forall_mem_append]
      exact ⟨⟨h.1, hsep⟩, ih h.2⟩

/-- What stands in one of the texts stands in the join. -/
theorem mem_join (sep : Text) {c : Char} {t : Text} {ts : List Text} (ht : t ∈ ts) (hc : c ∈ t) :
    c ∈ join sep ts := by
  obtain ⟨front, back, rfl⟩ := List.append_of_mem ht
  rw [join_append_cons]
  cases back with
  | nil => exact List.mem_append_right _ hc
  | cons u back =>
    rw [join_cons_cons, List.append_assoc]
    exact List.mem_append_right _ (List.mem_append_left _ hc)

/-! ## Cutting at one character -/

theorem fields_append_cons (sep : Char) (a b : Text) :
    fields sep (a ++ sep :: b) = fields sep a ++ fields sep b := by
  induction a with
  | nil =>
    rw [List.nil_append, fields.eq_2, if_pos rfl]
    rfl
  | cons c a ih =>
    rw [List.cons_append, fields, fields, ih]
    by_cases hc : c = sep
    · rw [if_pos hc, if_pos hc, List.cons_append]
    · rw [if_neg hc, if_neg hc]
      cases hf : fields sep a with
      | nil => exact absurd hf (fields_ne_nil sep a)
      | cons f fs => rfl

/-- A text without the character is its only field. -/
theorem fields_of_not_mem {sep : Char} {t : Text} (h : sep ∉ t) : fields sep t = [t] := by
  induction t with
  | nil => rfl
  | cons c t ih =>
    rw [List.mem_cons, not_or] at h
    rw [fields, if_neg (Ne.symm h.1), ih h.2]

/-- No field holds the character. -/
theorem not_mem_of_mem_fields {sep : Char} {t f : Text} (hf : f ∈ fields sep t) : sep ∉ f := by
  induction t generalizing f with
  | nil =>
    rw [fields, List.mem_singleton] at hf
    rw [hf]
    exact List.not_mem_nil
  | cons c t ih =>
    rw [fields] at hf
    split at hf
    · rcases List.mem_cons.1 hf with rfl | hf
      · exact List.not_mem_nil
      · exact ih hf
    · next hc =>
      cases hfields : fields sep t with
      | nil => exact absurd hfields (fields_ne_nil sep t)
      | cons g gs =>
        rw [hfields] at hf ih
        rcases List.mem_cons.1 hf with rfl | hf
        · rw [List.mem_cons, not_or]
          exact ⟨Ne.symm hc, ih List.mem_cons_self⟩
        · exact ih (List.mem_cons_of_mem g hf)

/-- What stands in a part of a text stands in the text. -/
theorem mem_of_mem_fields {sep c : Char} {t f : Text} (hf : f ∈ fields sep t) (hc : c ∈ f) :
    c ∈ t := by
  rw [← join_fields sep t]
  exact mem_join [sep] hf hc

/-- The fields of texts joined by the character are those of the texts. -/
theorem fields_join {sep : Char} {ts : List Text} (h : ts ≠ []) :
    fields sep (join [sep] ts) = ts.flatMap (fields sep) := by
  induction ts with
  | nil => exact absurd rfl h
  | cons t ts ih =>
    cases ts with
    | nil => rw [join_singleton, List.flatMap_cons, List.flatMap_nil, List.append_nil]
    | cons u ts =>
      rw [join_cons_cons, List.append_assoc, List.singleton_append, fields_append_cons,
        ih (List.cons_ne_nil u ts), ← List.flatMap_cons]

/-! ## Unified line ends -/

/-- A text without carriage returns has unified line ends. -/
theorem unifyNewlines_of_not_mem {t : Text} (h : '\r' ∉ t) : unifyNewlines t = t := by
  fun_induction unifyNewlines t with
  | case1 => rfl
  | case2 t ih => exact absurd List.mem_cons_self h
  | case3 c t _ ih =>
    rw [List.mem_cons, not_or] at h
    rw [if_neg (Ne.symm h.1), ih h.2]

/-- Line ends are unified apart from each other, unless a carriage return and a line feed come together. -/
theorem unifyNewlines_append (a b : Text) (h : a.getLast? = some '\r' → b.head? ≠ some '\n') :
    unifyNewlines (a ++ b) = unifyNewlines a ++ unifyNewlines b := by
  fun_induction unifyNewlines a with
  | case1 => rfl
  | case2 t ih =>
    have ht : t.getLast? = some '\r' → b.head? ≠ some '\n' := by
      intro hlast
      exact h (by rw [List.getLast?_cons, List.getLast?_cons, hlast]; rfl)
    rw [List.cons_append, List.cons_append, unifyNewlines, ih ht, List.cons_append]
  | case3 c t hpair ih =>
    have ht : t.getLast? = some '\r' → b.head? ≠ some '\n' := by
      intro hlast
      exact h (by rw [List.getLast?_cons, hlast]; rfl)
    rw [List.cons_append, unifyNewlines, ih ht, List.cons_append]
    -- a pair of both breaks could only arise where the texts meet
    rintro rest rfl hrest
    cases t with
    | nil =>
      rw [List.nil_append] at hrest
      exact h rfl (by rw [hrest]; rfl)
    | cons d t =>
      rw [List.cons_append, List.cons.injEq] at hrest
      exact hpair t rfl (by rw [hrest.1])

theorem unifyNewlines_newline (t : Text) : unifyNewlines ('\n' :: t) = '\n' :: unifyNewlines t := by
  rw [unifyNewlines]
  · rfl
  · rintro rest hcr
    cases hcr

/-- A line feed that no carriage return stands in front of is a line end of its own. -/
theorem unifyNewlines_append_newline (a b : Text) (h : a.getLast? ≠ some '\r') :
    unifyNewlines (a ++ '\n' :: b) = unifyNewlines a ++ '\n' :: unifyNewlines b := by
  rw [unifyNewlines_append a _ fun hlast => absurd hlast h, unifyNewlines_newline]

/-- A carriage return and a line feed behind a text are one line end. -/
theorem unifyNewlines_append_pair (a b : Text) :
    unifyNewlines (a ++ '\r' :: '\n' :: b) = unifyNewlines a ++ '\n' :: unifyNewlines b := by
  rw [unifyNewlines_append a ('\r' :: '\n' :: b) fun _ => by simp, unifyNewlines]

/-- Behind a line feed line ends are unified apart from what stands in front of it. -/
theorem exists_unifyNewlines_append_newline (a : Text) :
    ∃ x, ∀ b, unifyNewlines (a ++ '\n' :: b) = x ++ '\n' :: unifyNewlines b := by
  by_cases h : a.getLast? = some '\r'
  · -- the pair of both breaks is one line end
    obtain ⟨a, rfl⟩ := List.getLast?_eq_some_iff.1 h
    refine ⟨unifyNewlines a, fun b => ?_⟩
    rw [List.append_assoc, List.singleton_append, unifyNewlines_append_pair]
  · exact ⟨unifyNewlines a, fun b => unifyNewlines_append_newline a b h⟩

end ComponentBook.Text
