import ComponentBook.Proofs.Index.Bundled
import ComponentBook.Proofs.Index.Grouping
import ComponentBook.Proofs.Markdown.Canonical
import ComponentBook.Proofs.Text.Words

/-! # The links of an index

An index has a line with a link for each of its entries. The layout keeps such a line as it is, whatever
stands around it (**`mem_pageLines_tidy_of_hyphen`**), and so a component has its link exactly when it is
listed and its name is on one line (**`hasLink_iff`**). -/

namespace ComponentBook

open Text (OneLine isFilled)

namespace Markdown

variable {a b l : Text}

/-! ## Lines that are found again -/

/-- A text that ends where a line ends. -/
def EndsLine (t : Text) : Prop := t = [] ∨ ∃ u, t = u ++ ['\n']

theorem endsLine_concat (t : Text) : EndsLine (t ++ ['\n']) := .inr ⟨t, rfl⟩

theorem EndsLine.append (ha : EndsLine a) (hb : EndsLine b) : EndsLine (a ++ b) := by
  rcases hb with rfl | ⟨u, rfl⟩
  · rwa [List.append_nil]
  · rw [← List.append_assoc]
    exact endsLine_concat _

theorem endsLine_flatMap {α : Type} {f : α → Text} {xs : List α} (h : ∀ x ∈ xs, EndsLine (f x)) :
    EndsLine (xs.flatMap f) := by
  induction xs with
  | nil => exact .inl rfl
  | cons x xs ih =>
    rw [List.flatMap_cons]
    exact (h x List.mem_cons_self).append (ih fun y hy => h y (List.mem_cons_of_mem x hy))

/-- The lines behind a text that ends where a line ends are lines of the whole. -/
theorem mem_pageLines_append (ha : EndsLine a) (hl : l ∈ pageLines b) : l ∈ pageLines (a ++ b) := by
  rcases ha with rfl | ⟨a, rfl⟩
  · exact hl
  · obtain ⟨x, hx⟩ := Text.exists_unifyNewlines_append_newline a
    rw [List.append_assoc, List.singleton_append, pageLines, hx, Text.fields_append_cons]
    exact List.mem_append_right _ hl

/-- A text without line ends is a line when a line feed follows it. -/
theorem mem_pageLines_line (hlf : '\n' ∉ l) (hcr : '\r' ∉ l) (b : Text) :
    l ∈ pageLines (l ++ '\n' :: b) := by
  have hlast : l.getLast? ≠ some '\r' := fun h => hcr (List.mem_of_getLast? h)
  rw [pageLines_append_newline l b hlast, pageLines, Text.unifyNewlines_of_not_mem hcr,
    Text.fields_of_not_mem hlf]
  exact List.mem_append_left _ List.mem_cons_self

/-! ## Lines that are laid out -/

/-- What a filled line becomes is a line of the page in canonical layout. -/
theorem mem_pageLines_tidy {page : Text} (hl : l ∈ laidLines (pageLines page))
    (hfilled : isFilled l = true) : l ∈ pageLines (tidy page) := by
  -- the line stands in one of the blocks, since blank lines are all that the blocks leave out
  have hlines : l ∈ (Block.ofLines (pageLines page)).flatMap Block.lines := by
    have hmem := List.mem_filter.2 ⟨hl, hfilled⟩
    rw [← filter_flatMap_lines_ofLines] at hmem
    exact (List.mem_filter.1 hmem).1
  obtain ⟨b, hb, hlb⟩ := List.mem_flatMap.1 hlines
  rw [pageLines_tidy (List.ne_nil_of_mem hb), List.mem_flatMap]
  exact ⟨b, hb, List.mem_append_left _ hlb⟩

/-- What starts with a hyphen is prose. -/
theorem kind_of_hyphen (hhead : l.head? = some '-') (hstrip : l.strip = l) :
    LineKind.of l = .prose := by
  obtain ⟨rest, rfl⟩ := List.head?_eq_some_iff.1 hhead
  rw [LineKind.of, opensFence, hstrip]
  rfl

/-- A line that starts with a hyphen and has no blanks at its end stays as it is. -/
theorem layLine_of_hyphen (inFence : Bool) (hhead : l.head? = some '-') (hstrip : l.strip = l) :
    (layLine inFence l).2 = [l] := by
  cases inFence with
  | true =>
    have hcloses : closesFence l = false := by
      obtain ⟨rest, rfl⟩ := List.head?_eq_some_iff.1 hhead
      rw [closesFence, opensFence, hstrip]
      rfl
    rw [layLine, if_neg (Bool.eq_false_iff.1 hcloses)]
  | false =>
    rw [layLine, kind_of_hyphen hhead hstrip]
    exact congrArg (fun line => [line]) (Text.stripRight_of_strip_eq hstrip)

/-- A line that stays as it is inside a fence and outside is among the lines that are laid out. -/
theorem mem_laidLines {ls : List Text} (hl : l ∈ ls)
    (hsame : ∀ inFence, (layLine inFence l).2 = [l]) : l ∈ laidLines ls := by
  obtain ⟨before, after, rfl⟩ := List.append_of_mem hl
  rw [laidLines, layLines_append, layLines_cons, hsame]
  exact List.mem_append_left _ (List.mem_append_right _ (List.mem_append_left _ List.mem_cons_self))

/-- **The layout keeps a line that starts with a hyphen.** -/
theorem mem_pageLines_tidy_of_hyphen {page : Text} (hl : l ∈ pageLines page)
    (hhead : l.head? = some '-') (hstrip : l.strip = l) : l ∈ pageLines (tidy page) := by
  refine mem_pageLines_tidy (mem_laidLines hl fun inFence => layLine_of_hyphen inFence hhead hstrip) ?_
  obtain ⟨rest, rfl⟩ := List.head?_eq_some_iff.1 hhead
  rfl

end Markdown

/-! ## The lines of entries -/

variable {locale : Locale} {rules : List CategoryRule} {names : List Text}
  {describe : Text → Text} {groups : List IndexGroup} {e : IndexEntry}

theorem flatDescription_oneLine (page : Text) : OneLine (flatDescription page) := by
  rw [flatDescription]
  cases Markdown.description? page with
  | none => exact .inl rfl
  | some d => exact Text.oneLine_collapse d

/-- What stands in the line of an entry behind the address. -/
def linkTail (e : IndexEntry) : Text :=
  if e.description.isEmpty then [] else ' ' :: '—' :: ' ' :: e.description

theorem linkLine_eq (e : IndexEntry) :
    linkLine e = ['-', ' ', '['] ++ e.name ++ [']', '('] ++ e.link ++ ')' :: linkTail e := by
  simp [linkLine, linkTail]

theorem getLast?_linkTail (h : OneLine e.description) {c : Char}
    (hc : (')' :: linkTail e).getLast? = some c) : Text.isBlank c = false := by
  rw [linkTail] at hc
  rcases h with hnil | hplain
  · rw [hnil] at hc
    obtain rfl := Option.some.inj hc
    rfl
  · rw [if_neg (by simpa using hplain.ne_nil)] at hc
    refine hplain.getLast?_not_blank (Eq.trans ?_ hc)
    exact (List.getLast?_append_of_ne_nil [')', ' ', '—', ' '] hplain.ne_nil).symm

theorem strip_linkLine (h : OneLine e.description) : (linkLine e).strip = linkLine e := by
  refine Text.strip_eq_self (fun c hc => ?_) fun c hc => ?_
  · obtain rfl : '-' = c := Option.some.inj hc
    rfl
  · rw [linkLine_eq, List.getLast?_append_of_ne_nil _ (List.cons_ne_nil _ _)] at hc
    exact getLast?_linkTail h hc

/-- The line of an entry has line ends only when the name has them. -/
theorem mem_linkLine_iff {c : Char} {name : Text} (hc : c = '\n' ∨ c = '\r')
    (h : OneLine (describe name)) : c ∈ linkLine (indexEntry describe name) ↔ c ∈ name := by
  have hdescription : c ∉ describe name := by
    rcases h with hnil | hplain
    · rw [hnil]
      exact List.not_mem_nil
    · intro hmem
      have hbreak := hplain.no_break c hmem
      rcases hc with rfl | rfl <;> cases hbreak
  have htail : c ∉ ')' :: linkTail (indexEntry describe name) := by
    have hsigns : c ∉ [')', ' ', '—', ' '] := by rcases hc with rfl | rfl <;> decide
    rw [linkTail]
    split
    · exact fun hmem => hsigns (List.mem_of_mem_take (i := 1) hmem)
    · exact List.not_mem_append hsigns hdescription
  have hsigns : c ∉ ['-', ' ', '['] ∧ c ∉ [']', '('] ∧ c ∉ "./".toList ∧ c ∉ pageSuffix := by
    rcases hc with rfl | rfl <;> decide
  obtain ⟨hstart, hmiddle, hhere, hsuffix⟩ := hsigns
  have hlink : c ∈ (indexEntry describe name).link ↔ c ∈ name := by
    show c ∈ "./".toList ++ name ++ pageSuffix ↔ c ∈ name
    simp only [List.mem_append, hhere, hsuffix, false_or, or_false]
  rw [linkLine_eq]
  simp only [List.mem_append, hstart, hmiddle, hlink, htail, false_or, or_false]
  exact or_self_iff

/-- The line of an entry stands in the index before it is laid out. -/
theorem linkLine_mem_pageLines_indexDraft {group : IndexGroup} (hgroup : group ∈ groups)
    (he : e ∈ group.entries) (hlf : '\n' ∉ linkLine e) (hcr : '\r' ∉ linkLine e) :
    linkLine e ∈ Markdown.pageLines (indexDraft locale groups) := by
  obtain ⟨groupsBefore, groupsAfter, rfl⟩ := List.append_of_mem hgroup
  obtain ⟨before, after, hentries⟩ := List.append_of_mem he
  have hgroups : Markdown.EndsLine (groupsBefore.flatMap groupDraft) :=
    Markdown.endsLine_flatMap fun g _ => Markdown.endsLine_concat _
  have hbefore : Markdown.EndsLine (before.flatMap fun e => linkLine e ++ ['\n']) :=
    Markdown.endsLine_flatMap fun e _ => Markdown.endsLine_concat _
  -- everything in front of the line ends where a line ends
  have hstart : Markdown.EndsLine (('#' :: ' ' :: locale.indexTitle ++ '\n' :: '\n' ::
      locale.indexIntro ++ ['\n']) ++ ['\n']) := Markdown.endsLine_concat _
  have htitle : Markdown.EndsLine (('#' :: '#' :: ' ' :: group.title ++ ['\n']) ++ ['\n']) :=
    Markdown.endsLine_concat _
  have hline := Markdown.mem_pageLines_append (((hstart.append hgroups).append htitle).append hbefore)
    (Markdown.mem_pageLines_line hlf hcr ((after.flatMap fun e => linkLine e ++ ['\n']) ++ '\n' ::
      (groupsAfter.flatMap groupDraft ++ '#' :: '#' :: ' ' :: locale.principlesTitle ++ '\n' :: '\n' ::
        locale.principles.flatMap fun p => principleLine p ++ ['\n'])))
  rw [indexDraft, List.flatMap_append, List.flatMap_cons, groupDraft, hentries, List.flatMap_append,
    List.flatMap_cons]
  simpa using hline

/-- An index has the line that belongs to an entry with a name. -/
def HasLink (groups : List IndexGroup) (index name : Text) : Prop :=
  ∃ group ∈ groups, ∃ e ∈ group.entries, e.name = name ∧ linkLine e ∈ Markdown.pageLines index

/-- **Which components an index links.** A component has a link in the index when it is listed and its
name is on one line. -/
theorem hasLink_iff (h : groupNames locale rules names describe = .ok groups)
    (hdescribe : ∀ name, OneLine (describe name)) (name : Text) :
    HasLink groups (Markdown.tidy (indexDraft locale groups)) name ↔
      name ∈ names ∧ '\n' ∉ name ∧ '\r' ∉ name := by
  constructor
  · rintro ⟨group, hgroup, e, he, rfl, hline⟩
    obtain ⟨name, hname, rfl⟩ := (exists_mem_entries_iff h).1 ⟨group, hgroup, he⟩
    obtain ⟨hlf, hcr⟩ := Markdown.not_mem_of_mem_pageLines hline
    rw [mem_linkLine_iff (.inl rfl) (hdescribe name)] at hlf
    rw [mem_linkLine_iff (.inr rfl) (hdescribe name)] at hcr
    exact ⟨hname, hlf, hcr⟩
  · rintro ⟨hname, hlf, hcr⟩
    obtain ⟨group, hgroup, he⟩ := (exists_mem_entries_iff h).2 ⟨name, hname, rfl⟩
    rw [← mem_linkLine_iff (.inl rfl) (hdescribe name)] at hlf
    rw [← mem_linkLine_iff (.inr rfl) (hdescribe name)] at hcr
    refine ⟨group, hgroup, _, he, rfl, Markdown.mem_pageLines_tidy_of_hyphen ?_ rfl
      (strip_linkLine (hdescribe name))⟩
    exact linkLine_mem_pageLines_indexDraft hgroup he hlf hcr

end ComponentBook
