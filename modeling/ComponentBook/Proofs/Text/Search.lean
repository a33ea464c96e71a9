import ComponentBook.Text.Basic
import Mathlib.Data.List.Infix

/-! # Where a pattern is found

What `Text.search` answers is told by places: the pattern holds at the place that is found and at none in
front of it (**`exists_of_search`**), or it holds nowhere (**`search_eq_none_iff`**). From that,

* a stretch of text at whose places the pattern does not hold is passed over (**`search_append`**,
  **`occurrences_append`**);
* a cut goes through at the first place of the needle (**`cut?_append`**);
* the occurrences of a pattern in a text are those of its front part and those of its hind part, as soon
  as none of them stands on both (**`map_snd_occurrences_of_apart`**).

A place at which a word starts in one text and goes on in the next is ruled out by the first character of
the next one (`prefix_of_prefix_append`). -/

namespace ComponentBook.Text

variable {α : Type} {c : Char} {p s t u w y needle : Text} {before : Option Char} {a : α}

/-! ## Characters of a text

What is said of the characters of a text is decided along the text, not over all characters there are. -/

instance (priority := high) decidableForallMem (t : Text) (P : Char → Prop) [DecidablePred P] :
    Decidable (∀ c ∈ t, P c) := List.decidableBAll P t

instance (priority := high) decidableForallSome (o : Option Char) (P : Char → Prop) [DecidablePred P] :
    Decidable (∀ c, o = some c → P c) :=
  decidable_of_iff (∀ c ∈ o.toList, P c) (by simp)

/-! ## Prefixes and conditions -/

theorem guard_eq_some_iff {p : Bool} {o : Unit} : (guard (p = true) : Option Unit) = some o ↔ p = true := by
  cases p <;> simp [guard]

@[simp] theorem dropPrefix?_append (p t : Text) : dropPrefix? p (p ++ t) = some t :=
  dropPrefix?_eq_some_iff.2 rfl

theorem dropPrefix?_eq_none_iff : dropPrefix? p t = none ↔ ¬ p <+: t := by
  rw [Option.eq_none_iff_forall_ne_some]
  constructor
  · rintro h ⟨r, rfl⟩
    exact h r (dropPrefix?_append p r)
  · intro h r hr
    exact h ⟨r, (dropPrefix?_eq_some_iff.1 hr).symm⟩

/-- A word is looked for in front of a character that is none of its own. -/
theorem dropPrefix?_append_cons (hd : d ∉ s) (t r : Text) :
    dropPrefix? s (t ++ d :: r) = (dropPrefix? s t).map (· ++ d :: r) := by
  induction s generalizing t with
  | nil => simp [dropPrefix?]
  | cons c s ih =>
    rw [List.mem_cons, not_or] at hd
    obtain ⟨hc, hs⟩ := hd
    cases t with
    | nil => simp [dropPrefix?, Ne.symm hc]
    | cons e t =>
      rw [List.cons_append, dropPrefix?, dropPrefix?]
      split
      · exact ih hs t
      · rfl

/-- A word that starts in `y` stands in `y`, unless the text behind `y` goes on with one of its later
letters. -/
theorem prefix_of_prefix_append (hy : y ≠ []) (ht : ∀ d, t.head? = some d → d ∉ w)
    (h : c :: w <+: y ++ t) : c :: w <+: y := by
  rcases List.prefix_or_prefix_of_prefix h (List.prefix_append y t) with hin | ⟨v, hv⟩
  · exact hin
  · cases y with
    | nil => exact absurd rfl hy
    | cons d y =>
      obtain ⟨rfl, rfl⟩ := List.cons.inj hv
      -- what is left of the word starts the text behind
      have hrest : v <+: t := by
        rw [List.cons_append, List.cons_prefix_cons] at h
        exact (List.prefix_append_right_inj y).1 h.2
      cases v with
      | nil => simp
      | cons e v =>
        obtain ⟨r, rfl⟩ := hrest
        exact absurd (List.mem_append_right y List.mem_cons_self) (ht e rfl)

/-- A word that does not stand in a text starts at none of its places, unless the text behind goes on with one of
its later letters. -/
theorem not_prefix_of_absent (h : ¬ c :: w <:+: s) (ht : ∀ d, t.head? = some d → d ∉ w) :
    ∀ x y, s = x ++ y → y ≠ [] → ¬ c :: w <+: y ++ t := by
  rintro x y rfl hy hprefix
  exact h ((prefix_of_prefix_append hy ht hprefix).isInfix.trans (List.suffix_append x y).isInfix)

/-- A word that stands in two texts put together stands in one of them, unless the second one starts with
one of its later letters. -/
theorem infix_or_infix_of_infix_append (ht : ∀ d, t.head? = some d → d ∉ w) (h : c :: w <:+: s ++ t) :
    c :: w <:+: s ∨ c :: w <:+: t := by
  induction s with
  | nil => exact .inr h
  | cons d s ih =>
    rw [List.cons_append, List.infix_cons_iff] at h
    rcases h with hhere | hlater
    · exact .inl (prefix_of_prefix_append (y := d :: s) (by simp) ht hhere).isInfix
    · rcases ih hlater with hin | hin
      · exact .inl (List.infix_cons hin)
      · exact .inr hin

/-- A word does not start in a text without its first letter. -/
theorem infix_of_infix_append (hs : c ∉ s) (h : c :: w <:+: s ++ t) : c :: w <:+: t := by
  induction s with
  | nil => exact h
  | cons d s ih =>
    rw [List.mem_cons, not_or] at hs
    rw [List.cons_append, List.infix_cons_iff] at h
    rcases h with hhere | hlater
    · exact absurd (List.cons_prefix_cons.1 hhere).1 hs.1
    · exact ih hs.2 hlater

/-- A word stands in front of a character that is none of its own or behind it. -/
theorem infix_or_infix_of_not_mem {word a b : Text} (hword : word ≠ [])
    (hd : d ∉ word) (h : word <:+: a ++ d :: b) : word <:+: a ∨ word <:+: b := by
  obtain ⟨c, w, rfl⟩ := List.exists_cons_of_ne_nil hword
  rw [List.mem_cons, not_or] at hd
  have hhead : ∀ e, (d :: b).head? = some e → e ∉ w := by
    intro e he
    obtain rfl : d = e := Option.some.inj he
    exact hd.2
  rcases infix_or_infix_of_infix_append hhead h with hfront | hback
  · exact .inl hfront
  · exact .inr (infix_of_infix_append (s := [d]) (by simpa using Ne.symm hd.1) hback)

/-! ## Stretches of one kind -/

theorem takeWhile_append_of_stop {p : Char → Bool} (hs : ∀ c ∈ s, p c = true)
    (ht : ∀ d, t.head? = some d → p d = false) : (s ++ t).takeWhile p = s := by
  rw [List.takeWhile_append_of_pos hs]
  cases t with
  | nil => simp
  | cons d t => simp [ht d rfl]

theorem dropWhile_append_of_stop {p : Char → Bool} (hs : ∀ c ∈ s, p c = true)
    (ht : ∀ d, t.head? = some d → p d = false) : (s ++ t).dropWhile p = t := by
  rw [List.dropWhile_append_of_pos hs]
  cases t with
  | nil => simp
  | cons d t => simp [ht d rfl]

/-- Nothing is taken from the first element on that is not to be taken. -/
theorem takeWhile_append_cons_of_neg {q : α → Bool} (h : q a = false) (xs ys : List α) :
    (xs ++ a :: ys).takeWhile q = xs.takeWhile q := by
  induction xs with
  | nil => rw [List.nil_append, List.takeWhile_cons_of_neg (by simp [h]), List.takeWhile_nil]
  | cons x xs ih =>
    rw [List.cons_append, List.takeWhile_cons, List.takeWhile_cons, ih]

/-! ## Cuts -/

theorem cut?_of_prefix (needle r : Text) : cut? needle (needle ++ r) = some ([], r) := by
  cases h : needle ++ r with
  | nil =>
    obtain ⟨rfl, rfl⟩ := List.append_eq_nil_iff.1 h
    rfl
  | cons c t => rw [cut?, ← h, dropPrefix?_append]

/-- A cut goes through at the needle when no needle starts in front of it. -/
theorem cut?_append (h : ∀ x y, s = x ++ y → y ≠ [] → ¬ needle <+: y ++ (needle ++ t)) :
    cut? needle (s ++ (needle ++ t)) = some (s, t) := by
  induction s with
  | nil => exact cut?_of_prefix needle t
  | cons c s ih =>
    have hhere : dropPrefix? needle (c :: (s ++ (needle ++ t))) = none :=
      dropPrefix?_eq_none_iff.2 (h [] (c :: s) rfl (by simp))
    have hlater : cut? needle (s ++ (needle ++ t)) = some (s, t) := by
      apply ih
      intro x y hxy hy
      exact h (c :: x) y (by rw [hxy, List.cons_append]) hy
    simp [cut?, hhere, hlater]

/-- A cut goes through behind a text in which the needle does not stand, if its first letter is none of its later
ones. -/
theorem cut?_of_absent (hc : c ∉ w) (h : ¬ c :: w <:+: s) (t : Text) :
    cut? (c :: w) (s ++ (c :: w ++ t)) = some (s, t) := by
  refine cut?_append (not_prefix_of_absent h fun d hd => ?_)
  obtain rfl : c = d := Option.some.inj hd
  exact hc

/-- What stands behind the needle has no part in where a cut goes through. -/
theorem cut?_congr {b r : Text} (r' : Text) (h : cut? needle s = some (b, r)) :
    cut? needle (b ++ (needle ++ r')) = some (b, r') := by
  induction s generalizing b with
  | nil =>
    obtain ⟨_, -, he⟩ := Option.map_eq_some_iff.1 h
    obtain ⟨rfl, rfl⟩ := Prod.mk.inj he
    exact cut?_of_prefix needle r'
  | cons c s ih =>
    rw [cut?] at h
    cases hhere : dropPrefix? needle (c :: s) with
    | some r =>
      rw [hhere] at h
      obtain ⟨rfl, rfl⟩ := Prod.mk.inj (Option.some.inj h)
      exact cut?_of_prefix needle r'
    | none =>
      rw [hhere] at h
      obtain ⟨⟨before, behind⟩, hlater, he⟩ := Option.map_eq_some_iff.1 h
      obtain ⟨rfl, rfl⟩ := Prod.mk.inj he
      have hnone : dropPrefix? needle (c :: (before ++ (needle ++ r'))) = none := by
        rw [dropPrefix?_eq_none_iff] at hhere ⊢
        intro hprefix
        apply hhere
        -- a needle at this place would end before what stands behind the one that was found
        have hin : needle <+: c :: before ++ needle :=
          List.prefix_of_prefix_length_le hprefix ⟨r', by simp⟩ (by simp; omega)
        rw [eq_append_of_cut? hlater, ← List.cons_append, ← List.cons_append]
        exact hin.trans (List.prefix_append _ _)
      simp [cut?, hnone, ih hlater]

theorem cut?_eq_none_iff : cut? needle t = none ↔ ¬ needle <:+: t := by
  induction t with
  | nil => simp [cut?, dropPrefix?_eq_none_iff]
  | cons c t ih =>
    rw [cut?, List.infix_cons_iff]
    cases hd : dropPrefix? needle (c :: t) with
    | some r =>
      have hhere : needle <+: c :: t := ⟨r, (dropPrefix?_eq_some_iff.1 hd).symm⟩
      simp [hhere]
    | none => simp [ih, dropPrefix?_eq_none_iff.1 hd]

/-- The first place of a character, and the length of the text when it does not occur. -/
theorem length_cut?_singleton (c : Char) (t : Text) :
    ((cut? [c] t).map fun found => found.1.length).getD t.length = (t.takeWhile (· ≠ c)).length := by
  induction t with
  | nil => rfl
  | cons d t ih =>
    by_cases h : c = d
    · subst h
      simp [cut?, dropPrefix?]
    · rw [List.takeWhile_cons_of_pos (by simpa using Ne.symm h)]
      cases hcut : cut? [c] t <;> simp_all [cut?, dropPrefix?]

theorem contains_eq_true_iff : contains t needle = true ↔ needle <:+: t := by
  rw [contains, ← not_iff_not, ← cut?_eq_none_iff]
  simp

theorem startsWith_eq_true_iff : startsWith t p = true ↔ p <+: t := by
  rw [startsWith, List.isPrefixOf_iff_prefix]

theorem endsWith_eq_true_iff : endsWith t s = true ↔ s <:+ t := by
  rw [endsWith, List.isSuffixOf_iff_suffix]

/-! ## The first place of a pattern -/

theorem getLast?_cons_or (c : Char) (x : Text) (before : Option Char) :
    (c :: x).getLast?.or before = x.getLast?.or (some c) := by
  rw [List.getLast?_cons]
  cases x.getLast? with
  | none => rfl
  | some d => rfl

section

variable {pattern : Option Char → Text → Option α}

theorem search_of_here (h : pattern before t = some a) : search pattern before t = some ([], a) := by
  cases t with
  | nil => simp [search, h]
  | cons c t => simp [search, h]

/-- A stretch at whose places the pattern does not hold is passed over. -/
theorem search_append
    (h : ∀ x y, s = x ++ y → y ≠ [] → pattern (x.getLast?.or before) (y ++ t) = none) :
    search pattern before (s ++ t) =
      (search pattern (s.getLast?.or before) t).map fun found => (s ++ found.1, found.2) := by
  induction s generalizing before with
  | nil => simp
  | cons c s ih =>
    have hhere : pattern before (c :: (s ++ t)) = none := h [] (c :: s) rfl (by simp)
    have hlater : search pattern (some c) (s ++ t) =
        (search pattern (s.getLast?.or (some c)) t).map fun found => (s ++ found.1, found.2) := by
      apply ih
      intro x y hxy hy
      rw [← getLast?_cons_or c x before]
      exact h (c :: x) y (by rw [hxy, List.cons_append]) hy
    rw [List.cons_append, search, hhere, getLast?_cons_or]
    simp only [hlater, Option.map_map]
    rfl

/-- The pattern holds at the place that is found, and at no place in front of it. -/
theorem exists_of_search (h : search pattern before t = some (s, a)) :
    ∃ u, t = s ++ u ∧ pattern (s.getLast?.or before) u = some a ∧
      ∀ x y, s = x ++ y → y ≠ [] → pattern (x.getLast?.or before) (y ++ u) = none := by
  induction t generalizing before s with
  | nil =>
    obtain ⟨b, hb, he⟩ := Option.map_eq_some_iff.1 h
    obtain ⟨rfl, rfl⟩ := Prod.mk.inj he
    exact ⟨[], rfl, hb, by simp⟩
  | cons c t ih =>
    rw [search] at h
    cases hhere : pattern before (c :: t) with
    | some b =>
      rw [hhere] at h
      obtain ⟨rfl, rfl⟩ := Prod.mk.inj (Option.some.inj h)
      exact ⟨c :: t, rfl, hhere, by simp⟩
    | none =>
      rw [hhere] at h
      obtain ⟨⟨s', b⟩, hfound, he⟩ := Option.map_eq_some_iff.1 h
      obtain ⟨rfl, rfl⟩ := Prod.mk.inj he
      obtain ⟨u, rfl, hu, hnone⟩ := ih hfound
      -- a place in front is the first one, where nothing was found, or one behind it
      refine ⟨u, rfl, by rwa [getLast?_cons_or], ?_⟩
      intro x y hxy hy
      cases x with
      | nil =>
        rw [List.nil_append] at hxy
        rw [← hxy]
        exact hhere
      | cons d x =>
        obtain ⟨rfl, rfl⟩ := List.cons.inj hxy
        rw [getLast?_cons_or]
        exact hnone x y rfl hy

/-- The pattern holds at no place in front of the one that is found. -/
theorem none_of_search (h : (search pattern none (s ++ t)).map Prod.fst = some s) :
    ∀ x y, s = x ++ y → y ≠ [] → pattern x.getLast? (y ++ t) = none := by
  obtain ⟨⟨found, a⟩, hfound, he⟩ := Option.map_eq_some_iff.1 h
  obtain rfl : found = s := he
  obtain ⟨u, hu, -, hearlier⟩ := exists_of_search hfound
  obtain rfl : t = u := List.append_cancel_left hu
  intro x y hxy hy
  have hnone := hearlier x y hxy hy
  rwa [Option.or_none] at hnone

/-- A place at which the pattern holds is found when it holds at none in front of it. -/
theorem search_of_first_place (hfirst : ∀ x y, s = x ++ y → y ≠ [] → pattern x.getLast? (y ++ t) = none)
    (h : pattern s.getLast? t = some a) : search pattern none (s ++ t) = some (s, a) := by
  have hnone : ∀ x y, s = x ++ y → y ≠ [] → pattern (x.getLast?.or none) (y ++ t) = none := by
    intro x y hxy hy
    rw [Option.or_none]
    exact hfirst x y hxy hy
  have hhere : search pattern (s.getLast?.or none) t = some ([], a) := by
    rw [Option.or_none]
    exact search_of_here h
  rw [search_append hnone, hhere]
  simp

theorem search_eq_none_iff :
    search pattern before t = none ↔ ∀ x y, t = x ++ y → pattern (x.getLast?.or before) y = none := by
  constructor
  · intro h x y hxy
    by_contra hsome
    obtain ⟨b, hb⟩ := Option.ne_none_iff_exists'.1 hsome
    induction x generalizing before t with
    | nil =>
      obtain rfl : t = y := hxy
      have hfound : search pattern before t = some ([], b) := search_of_here hb
      rw [h] at hfound
      simp at hfound
    | cons c x ih =>
      obtain rfl := hxy
      rw [List.cons_append, search] at h
      split at h
      · simp at h
      · rw [getLast?_cons_or] at hsome hb
        exact ih (Option.map_eq_none_iff.1 h) rfl hsome hb
  · intro h
    induction t generalizing before with
    | nil => simpa [search] using h [] [] rfl
    | cons c t ih =>
      have hhere : pattern before (c :: t) = none := h [] (c :: t) rfl
      have hlater : search pattern (some c) t = none := by
        apply ih
        intro x y hxy
        rw [← getLast?_cons_or c x before]
        exact h (c :: x) y (by rw [hxy, List.cons_append])
      simp [search, hhere, hlater]

end

/-! ## All places of a pattern -/

section

variable {pattern : Text → Option (α × Text)} {front back r : Text}

/-- What a pattern answers as the rest is the text behind a part that is not empty. -/
def Advances (pattern : Text → Option (α × Text)) : Prop :=
  ∀ ⦃t : Text⦄ ⦃a : α⦄ ⦃r : Text⦄, pattern t = some (a, r) → ∃ v, v ≠ [] ∧ t = v ++ r

theorem Advances.none_of_nil (hp : Advances pattern) : pattern [] = none := by
  rw [Option.eq_none_iff_forall_ne_some]
  rintro ⟨a, r⟩ h
  obtain ⟨v, hv, he⟩ := hp h
  exact hv (List.append_eq_nil_iff.1 he.symm).1

theorem search_congr_before (b b' : Option Char) (t : Text) :
    search (fun _ v => pattern v) b t = search (fun _ v => pattern v) b' t := by
  cases t with
  | nil => rfl
  | cons c t => rfl

theorem search_of_first (hnone : ∀ x y, s = x ++ y → y ≠ [] → pattern (y ++ u) = none)
    (h : pattern u = some (a, r)) :
    search (fun _ v => pattern v) before (s ++ u) = some (s, a, r) := by
  have hhere : search (fun _ v => pattern v) (s.getLast?.or before) u = some ([], a, r) :=
    search_of_here h
  rw [search_append hnone, hhere]
  simp

theorem occurrences_of_search_none (h : search (fun _ v => pattern v) none t = none) :
    occurrences pattern t = [] := by
  rw [occurrences, h]

theorem occurrences_of_search (hp : Advances pattern)
    (h : search (fun _ v => pattern v) none t = some (s, a, r)) :
    occurrences pattern t = (s, a) :: occurrences pattern r := by
  obtain ⟨u, rfl, hu, -⟩ := exists_of_search h
  obtain ⟨v, hv, rfl⟩ := hp hu
  have hlen : r.length < (s ++ (v ++ r)).length := by
    have := List.length_pos_iff.2 hv
    simp only [List.length_append]
    omega
  rw [occurrences, h]
  simp only [hlen, if_true]

theorem occurrences_of_here (hp : Advances pattern) (h : pattern t = some (a, r)) :
    occurrences pattern t = ([], a) :: occurrences pattern r :=
  occurrences_of_search hp (search_of_here h)

theorem Advances.occurrences_nil (hp : Advances pattern) : occurrences pattern [] = [] :=
  occurrences_of_search_none (by rw [search, hp.none_of_nil]; rfl)

/-- Occurrences that are found behind the text `s`. -/
def behind (s : Text) : List (Text × α) → List (Text × α)
  | [] => []
  | (b, a) :: rest => (s ++ b, a) :: rest

theorem map_snd_behind (s : Text) (found : List (Text × α)) :
    (behind s found).map Prod.snd = found.map Prod.snd := by
  cases found with
  | nil => rfl
  | cons o found => rfl

/-- A stretch at whose places the pattern does not hold is passed over. -/
theorem occurrences_append (hp : Advances pattern)
    (h : ∀ x y, s = x ++ y → y ≠ [] → pattern (y ++ t) = none) :
    occurrences pattern (s ++ t) = behind s (occurrences pattern t) := by
  have hpass : search (fun _ v => pattern v) none (s ++ t) =
      (search (fun _ v => pattern v) none t).map fun found => (s ++ found.1, found.2) := by
    rw [search_append h, search_congr_before]
  cases hfound : search (fun _ v => pattern v) none t with
  | none =>
    rw [hfound] at hpass
    rw [occurrences_of_search_none hfound, occurrences_of_search_none hpass, behind]
  | some found =>
    obtain ⟨b, a, r⟩ := found
    rw [hfound] at hpass
    rw [occurrences_of_search hp hfound, occurrences_of_search hp hpass, behind]

/-! ## Occurrences with their places -/

/-- An occurrence of the pattern in a text, with the text in front of it and the text behind it. -/
inductive Occurs (pattern : Text → Option (α × Text)) : Text → Text → α → Text → Prop where
  /-- It is the first one. -/
  | first {t front : Text} {a : α} {back : Text} :
      search (fun _ v => pattern v) none t = some (front, a, back) → Occurs pattern t front a back
  /-- It stands behind the first one. -/
  | later {t s : Text} {b : α} {r front : Text} {a : α} {back : Text} :
      search (fun _ v => pattern v) none t = some (s, b, r) → Occurs pattern r front a back →
      Occurs pattern t (t.take (t.length - r.length) ++ front) a back

/-- No occurrence starts in a stretch at whose places the pattern does not hold. -/
theorem Occurs.length_le (hp : Advances pattern) (h : ∀ x y, s = x ++ y → y ≠ [] → pattern (y ++ u) = none)
    (hocc : Occurs pattern (s ++ u) front a back) : s.length ≤ front.length := by
  have hfirst {f : Text} {found : α × Text}
      (hfound : search (fun _ v => pattern v) none (s ++ u) = some (f, found)) : s.length ≤ f.length := by
    rw [search_append h] at hfound
    obtain ⟨o, -, he⟩ := Option.map_eq_some_iff.1 hfound
    have hf : s ++ o.1 = f := (Prod.mk.inj he).1
    simp [← hf]
  generalize ht : s ++ u = t at hocc hfirst
  cases hocc with
  | first hfound => exact hfirst hfound
  | later hfound _ =>
    obtain ⟨v, rfl, hv, -⟩ := exists_of_search hfound
    obtain ⟨w, -, rfl⟩ := hp hv
    have hle := hfirst hfound
    simp only [List.length_append, List.length_take]
    omega

/-- Whether the pattern holds at the start of a text, and how far it reaches, is settled by the part that
it reaches over. -/
def IsLocal (pattern : Text → Option (α × Text)) : Prop :=
  ∀ ⦃u : Text⦄ ⦃a : α⦄ ⦃r : Text⦄ (x : Text),
    pattern (u ++ x) = some (a, r ++ x) ↔ pattern u = some (a, r)

/-- A pattern that holds at no place of a text holds at none of its front part. -/
theorem IsLocal.none_of_none (hl : IsLocal pattern) {x : Text} (h : pattern (u ++ x) = none) :
    pattern u = none := by
  rw [Option.eq_none_iff_forall_ne_some]
  rintro ⟨a, r⟩ hu
  rw [(hl x).2 hu] at h
  cases h

theorem occurrences_eq_nil_of_places (h : ∀ x y, p = x ++ y → pattern y = none) :
    occurrences pattern p = [] :=
  occurrences_of_search_none (search_eq_none_iff.2 h)

/-- An occurrence that ends in the front part of a text is the first one there, too. -/
theorem search_of_search_append (hp : Advances pattern) (hl : IsLocal pattern)
    (h : search (fun _ v => pattern v) none (p ++ t) = some (s, a, r ++ t)) :
    search (fun _ v => pattern v) none p = some (s, a, r) := by
  obtain ⟨u, hu, hhere, hearlier⟩ := exists_of_search h
  obtain ⟨v, -, rfl⟩ := hp hhere
  obtain rfl : p = s ++ (v ++ r) := by
    have hall : p ++ t = (s ++ (v ++ r)) ++ t := by rw [hu]; simp
    exact List.append_cancel_right hall
  have hnone : ∀ x y, s = x ++ y → y ≠ [] → pattern (y ++ (v ++ r)) = none := by
    intro x y hxy hy
    have hlong := hearlier x y hxy hy
    rw [← List.append_assoc, ← List.append_assoc, List.append_assoc y] at hlong
    exact hl.none_of_none hlong
  have hfront : pattern (v ++ r) = some (a, r) := by
    apply (hl t).1
    rwa [List.append_assoc]
  exact search_of_first hnone hfront

/-- The first occurrence is found without the text in front of it. -/
theorem search_of_search_behind
    (h : search (fun _ v => pattern v) none (p ++ t) = some (p ++ s, a, r)) :
    search (fun _ v => pattern v) none t = some (s, a, r) := by
  obtain ⟨u, hu, hhere, hearlier⟩ := exists_of_search h
  obtain rfl : t = s ++ u := by
    rw [List.append_assoc] at hu
    exact List.append_cancel_left hu
  refine search_of_first (fun x y hxy hy => ?_) hhere
  exact hearlier (p ++ x) y (by rw [hxy, List.append_assoc]) hy

/-- There is none in the text in front of the first one. -/
theorem occurrences_eq_nil_of_search (hp : Advances pattern) (hl : IsLocal pattern)
    (h : search (fun _ v => pattern v) none (p ++ t) = some (p ++ s, a, r)) : occurrences pattern p = [] := by
  obtain ⟨u, hu, -, hearlier⟩ := exists_of_search h
  obtain rfl : t = s ++ u := by
    rw [List.append_assoc] at hu
    exact List.append_cancel_left hu
  apply occurrences_eq_nil_of_places
  intro x y hxy
  by_cases hy : y = []
  · rw [hy]
    exact hp.none_of_nil
  · have hlong := hearlier x (y ++ s) (by rw [hxy, List.append_assoc]) (by simp [hy])
    rw [List.append_assoc] at hlong
    exact hl.none_of_none hlong

/-- When no occurrence stands on both sides of `s` or touches it, `s` can be left out: the occurrences are
those in front of it and those behind it. -/
theorem map_snd_occurrences_of_apart (hp : Advances pattern) (hl : IsLocal pattern)
    (h : ∀ front a back, Occurs pattern (p ++ (s ++ t)) front a back →
      (s ++ t).length ≤ back.length ∨ (p ++ s).length ≤ front.length) :
    (occurrences pattern (p ++ (s ++ t))).map Prod.snd =
      (occurrences pattern p).map Prod.snd ++ (occurrences pattern t).map Prod.snd := by
  -- along the occurrences in front of `s`, each of which leaves a shorter text there
  induction hn : p.length using Nat.strong_induction_on generalizing p with
  | _ n ih =>
    cases hfound : search (fun _ v => pattern v) none (p ++ (s ++ t)) with
    | none =>
      have hnone := search_eq_none_iff.1 hfound
      have hfront : occurrences pattern p = [] := occurrences_eq_nil_of_places fun x y hxy =>
        hl.none_of_none (x := s ++ t) (hnone x (y ++ (s ++ t)) (by simp [hxy]))
      have hback : occurrences pattern t = [] := occurrences_eq_nil_of_places fun x y hxy =>
        hnone (p ++ s ++ x) y (by simp [hxy])
      rw [occurrences_of_search_none hfound, hfront, hback]
      rfl
    | some found =>
      obtain ⟨f, a, b⟩ := found
      obtain ⟨u, hu, hhere, -⟩ := exists_of_search hfound
      obtain ⟨v, hv, rfl⟩ := hp hhere
      rw [occurrences_of_search hp hfound]
      rcases h f a b (.first hfound) with hback | hfront
      · -- the first occurrence ends in front of `s`
        obtain ⟨b, rfl⟩ : ∃ b', b = b' ++ (s ++ t) := by
          have hsuffix : s ++ t <:+ f ++ (v ++ b) := ⟨p, hu⟩
          have hb : b <:+ f ++ (v ++ b) := ⟨f ++ v, by simp⟩
          obtain ⟨b', hb'⟩ := List.suffix_of_suffix_length_le hsuffix hb hback
          exact ⟨b', hb'.symm⟩
        have hshorter : b.length < n := by
          have hlength := congrArg List.length hu
          have hpos := List.length_pos_iff.2 hv
          simp only [List.length_append] at hlength
          omega
        have hapart : ∀ front a' back, Occurs pattern (b ++ (s ++ t)) front a' back →
            (s ++ t).length ≤ back.length ∨ (b ++ s).length ≤ front.length := by
          intro front a' back hocc
          have hlater := h _ a' back (.later hfound hocc)
          have hlength := congrArg List.length hu
          simp only [List.length_append, List.length_take] at hlater hlength ⊢
          omega
        rw [occurrences_of_search hp (search_of_search_append hp hl hfound), List.map_cons, List.map_cons,
          List.cons_append, ih b.length hshorter hapart rfl]
      · -- it starts behind `s`
        obtain ⟨f, rfl⟩ : ∃ f', f = p ++ (s ++ f') := by
          have hprefix : p ++ s <+: f ++ (v ++ b) := ⟨t, by rw [← hu]; simp⟩
          have hf : f <+: f ++ (v ++ b) := List.prefix_append f _
          obtain ⟨f', hf'⟩ := List.prefix_of_prefix_length_le hprefix hf hfront
          exact ⟨f', by rw [← hf', List.append_assoc]⟩
        have hbehind := search_of_search_behind (search_of_search_behind hfound)
        rw [occurrences_eq_nil_of_search hp hl hfound, occurrences_of_search hp hbehind]
        rfl

end

end ComponentBook.Text
