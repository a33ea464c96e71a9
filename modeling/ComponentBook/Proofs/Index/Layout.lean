import ComponentBook.Proofs.Batch.InMemory
import ComponentBook.Proofs.Index.LinkLines
import ComponentBook.Proofs.Markdown.Sections

/-! # The text of an index

The index of the pages in memory can be told from the pages alone: a title and an introduction, a section
for each group with one line for each page, and the principles (**`indexSections`**). These sections stand as
they are (`isSound_of_mem_indexSections`), so that the bundled template gives exactly their text
(**`indexPage_listedPages`**). Whatever a name or a description says, it starts no block of its own: the lines
of the index that are links are those of the pages, one for each. -/

namespace ComponentBook

open Text (OneLine)
open Markdown (Section StandsAs pageLines tidy)

variable {locale : Locale} {rules : List CategoryRule} {groups : List IndexGroup} {m : PageMemory}
  {names : List Text} {name index : Text} {describe : Text → Text}

/-! ## The sections of an index -/

/-- The page in memory under a name; empty when there is none. -/
def storedPage (m : PageMemory) (name : Text) : Text := (m.page? name).getD []

/-- What an index says of a page behind the link: its description on one line, if it has one. -/
def pageRemark (page : Text) : Text :=
  match Markdown.description? page with
  | none => []
  | some description => ' ' :: '—' :: ' ' :: description.collapse

/-- The line of a page in an index. -/
def pageLine (name page : Text) : Text :=
  ['-', ' ', '['] ++ name ++ [']', '(', '.', '/'] ++ name ++ ['.', 'm', 'd', ')'] ++ pageRemark page

/-- The section of a group of pages. -/
def groupSection (page : Text → Text) (group : IndexGroup) : Section where
  heading := '#' :: '#' :: ' ' :: group.title
  lines := (group.entries.map IndexEntry.name).map fun name => pageLine name (page name)

/-- The sections of the index of some pages. -/
def indexSections (locale : Locale) (page : Text → Text) (groups : List IndexGroup) : List Section :=
  ⟨'#' :: ' ' :: locale.indexTitle, [locale.indexIntro]⟩ :: groups.map (groupSection page) ++
    [⟨'#' :: '#' :: ' ' :: locale.principlesTitle, locale.principles.map principleLine⟩]

/-- Whether a line starts with a link. -/
def isLink (l : Text) : Bool := l.startsWith ['-', ' ', '[']

/-- The lines of an index that are links. -/
def linkLines (index : Text) : List Text := (pageLines index).filter isLink

/-! ## The lines of pages -/

/-- A description has words. -/
theorem collapse_ne_nil_of_description? {page d : Text} (h : Markdown.description? page = some d) :
    d.collapse ≠ [] := by
  -- it is made of lines that are not empty and have no blanks at their ends
  obtain ⟨ls, hne, hplain, rfl⟩ := Markdown.exists_plain_of_description? h
  obtain ⟨l, ls, rfl⟩ := List.exists_cons_of_ne_nil hne
  have hstrip : (Text.join ['\n'] (l :: ls)).strip = Text.join ['\n'] (l :: ls) :=
    Text.strip_join fun k hk => ⟨(hplain k hk).ne_nil, (hplain k hk).strip_eq⟩
  rw [ne_eq, Text.collapse_eq_nil_iff, ← Text.strip_eq_nil_iff, hstrip]
  exact Text.join_ne_nil ['\n'] ls (hplain l List.mem_cons_self).ne_nil

/-- The line of an entry is the line of its page. -/
theorem linkLine_eq_pageLine {page : Text} (h : describe name = flatDescription page) :
    linkLine (indexEntry describe name) = pageLine name page := by
  have htail : linkTail (indexEntry describe name) = pageRemark page := by
    rw [linkTail, indexEntry, h, flatDescription, pageRemark]
    cases hd : Markdown.description? page with
    | none => rfl
    | some d =>
      -- what is there to be said is not empty when its blanks are collapsed
      have hsome : d.collapse.isEmpty = false := by simpa using collapse_ne_nil_of_description? hd
      simp only [Option.map_some, Option.getD_some, hsome]
      rfl
  rw [linkLine_eq, htail]
  simp only [pageLine, indexEntry, pageSuffix, String.reduceToList, List.append_assoc, List.cons_append,
    List.nil_append]

/-- The line of a page is a line of prose when its name is on one line. -/
theorem standsAs_pageLine {page : Text} (hlf : '\n' ∉ name) (hcr : '\r' ∉ name) :
    StandsAs .prose (pageLine name page) := by
  have hline : linkLine (indexEntry (fun _ => flatDescription page) name) = pageLine name page :=
    linkLine_eq_pageLine rfl
  have hdescription : OneLine (flatDescription page) := flatDescription_oneLine page
  have hstrip := strip_linkLine (e := indexEntry (fun _ => flatDescription page) name) hdescription
  have hends {c : Char} (hc : c = '\n' ∨ c = '\r') :
      c ∈ linkLine (indexEntry (fun _ => flatDescription page) name) ↔ c ∈ name :=
    mem_linkLine_iff hc hdescription
  rw [← hline]
  exact ⟨Markdown.kind_of_hyphen rfl hstrip, hstrip, fun hmem => hlf ((hends (.inl rfl)).1 hmem),
    fun hmem => hcr ((hends (.inr rfl)).1 hmem)⟩

/-! ## The texts of a language -/

/-- The texts of an index that come from its language are headings and lines of prose, and no line of them
is a link. -/
structure Locale.IsSound (locale : Locale) : Prop where
  title : StandsAs .heading ('#' :: ' ' :: locale.indexTitle)
  intro : StandsAs .prose locale.indexIntro
  groupTitle : ∀ category ∈ categoryOrder,
    StandsAs .heading ('#' :: '#' :: ' ' :: locale.categoryTitle category)
  principlesTitle : StandsAs .heading ('#' :: '#' :: ' ' :: locale.principlesTitle)
  principles_ne_nil : locale.principles ≠ []
  principle : ∀ p ∈ locale.principles, StandsAs .prose (principleLine p)
  introApart : isLink locale.indexIntro = false
  principlesApart : ∀ p ∈ locale.principles, isLink (principleLine p) = false

theorem Locale.isSound_of_mem_all (h : locale ∈ Locale.all) : locale.IsSound := by
  rcases List.mem_cons.1 h with rfl | h
  · constructor <;> decide +kernel
  · obtain rfl := List.mem_singleton.1 h
    constructor <;> decide +kernel

/-! ## The lines of an index -/

/-- A group is written as its section. -/
theorem groupDraft_eq_spacedLines {page : Text → Text} {group : IndexGroup}
    (hentries : ∀ e ∈ group.entries, linkLine e = pageLine e.name (page e.name)) :
    groupDraft group = (groupSection page group).spacedLines.flatMap fun l => l ++ ['\n'] := by
  have hlines : group.entries.flatMap (fun e => linkLine e ++ ['\n']) =
      (groupSection page group).lines.flatMap fun l => l ++ ['\n'] := by
    rw [groupSection, List.flatMap_map, List.flatMap_map]
    exact List.flatMap_congr fun e he => congrArg (fun l => l ++ ['\n']) (hentries e he)
  rw [groupDraft, hlines]
  simp [Section.spacedLines, groupSection]

/-- The lines of an index as it is written. -/
theorem pageLines_indexDraft {page : Text → Text}
    (hentries : ∀ group ∈ groups, ∀ e ∈ group.entries, linkLine e = pageLine e.name (page e.name))
    (hsound : ∀ s ∈ indexSections locale page groups, s.IsSound) :
    pageLines (indexDraft locale groups) =
      (indexSections locale page groups).flatMap Section.spacedLines := by
  have hgroups : groups.flatMap groupDraft =
      ((groups.map (groupSection page)).flatMap Section.spacedLines).flatMap fun l => l ++ ['\n'] := by
    rw [List.flatMap_map, List.flatMap_assoc]
    exact List.flatMap_congr fun group hgroup => groupDraft_eq_spacedLines (hentries group hgroup)
  have hprinciples : (locale.principles.flatMap fun p => principleLine p ++ ['\n']) =
      (locale.principles.map principleLine).flatMap fun l => l ++ ['\n'] := by
    rw [List.flatMap_map]
  -- the template writes a line feed behind each line, and none behind the blank line at the end
  obtain ⟨ls, hls, hdraft⟩ : ∃ ls,
      (indexSections locale page groups).flatMap Section.spacedLines = ls ++ [[]] ∧
        indexDraft locale groups = ls.flatMap fun l => l ++ ['\n'] := by
    refine ⟨(⟨'#' :: ' ' :: locale.indexTitle, [locale.indexIntro]⟩ ::
      groups.map (groupSection page)).flatMap Section.spacedLines ++
        ('#' :: '#' :: ' ' :: locale.principlesTitle) :: [] :: locale.principles.map principleLine, ?_, ?_⟩
    · simp [indexSections, Section.spacedLines]
    · rw [indexDraft, hgroups, hprinciples]
      simp [Section.spacedLines]
  have hapart : ∀ l ∈ ls, '\n' ∉ l ∧ '\r' ∉ l := by
    intro l hl
    have hmem : l ∈ (indexSections locale page groups).flatMap Section.spacedLines :=
      hls ▸ List.mem_append_left _ hl
    obtain ⟨s, hs, hmem⟩ := List.mem_flatMap.1 hmem
    exact (hsound s hs).apart l hmem
  rw [hls, hdraft, Markdown.pageLines_flatMap hapart]

/-- The sections of an index are headings and lines of prose. -/
theorem isSound_of_mem_indexSections {page : Text → Text} (hlocale : locale.IsSound)
    (h : groupNames locale rules names describe = .ok groups)
    (hnames : ∀ name ∈ names, '\n' ∉ name ∧ '\r' ∉ name) :
    ∀ s ∈ indexSections locale page groups, s.IsSound := by
  have hgrouping := isGrouping_of_groupNames h
  intro s hs
  rw [indexSections, List.cons_append, List.mem_cons, List.mem_append, List.mem_map,
    List.mem_singleton] at hs
  -- the title with the introduction, the groups, the principles
  rcases hs with rfl | ⟨group, hgroup, rfl⟩ | rfl
  · exact ⟨hlocale.title, List.cons_ne_nil _ _, List.forall_mem_singleton.2 hlocale.intro⟩
  · have hcategory : group.category ∈ categoryOrder :=
      hgrouping.ordered.subset (List.mem_map_of_mem hgroup)
    refine ⟨?_, ?_, ?_⟩
    · rw [groupSection, hgrouping.title_eq group hgroup]
      exact hlocale.groupTitle group.category hcategory
    · simpa [groupSection] using hgrouping.filled group hgroup
    · intro l hl
      obtain ⟨name, hname, rfl⟩ := List.mem_map.1 hl
      have hgrouped : name ∈ groupedNames groups := List.mem_flatMap.2 ⟨group, hgroup, hname⟩
      obtain ⟨hlf, hcr⟩ := hnames name ((hgrouping.mem_iff name).1 hgrouped)
      exact standsAs_pageLine hlf hcr
  · refine ⟨hlocale.principlesTitle, ?_, ?_⟩
    · simpa using hlocale.principles_ne_nil
    · intro l hl
      obtain ⟨p, hp, rfl⟩ := List.mem_map.1 hl
      exact hlocale.principle p hp

/-- The lines of a section that are links stand below its heading. -/
theorem filter_isLink_spacedLines {s : Section} (hheading : s.heading.head? = some '#') :
    s.spacedLines.filter isLink = s.lines.filter isLink := by
  obtain ⟨rest, hrest⟩ := List.head?_eq_some_iff.1 hheading
  have hlink : isLink s.heading = false := by
    rw [hrest]
    rfl
  have hblank : isLink [] = false := rfl
  rw [Section.spacedLines, List.filter_cons_of_neg (by simp [hlink]),
    List.filter_cons_of_neg (by simp [hblank]), List.filter_append, List.filter_cons_of_neg (by simp [hblank]),
    List.filter_nil, List.append_nil]

/-- The links of an index are the lines of its pages. -/
theorem linkLines_eq_map {page : Text → Text} (hlocale : locale.IsSound)
    (hlines : pageLines index = (indexSections locale page groups).flatMap Section.spacedLines) :
    linkLines index = (groupedNames groups).map fun name => pageLine name (page name) := by
  have hintro : [locale.indexIntro].filter isLink = [] := by
    rw [List.filter_cons_of_neg (by simp [hlocale.introApart]), List.filter_nil]
  have hprinciples : (locale.principles.map principleLine).filter isLink = [] := by
    rw [List.filter_eq_nil_iff, List.forall_mem_map]
    intro p hp
    simp [hlocale.principlesApart p hp]
  have hgroup (group : IndexGroup) : (groupSection page group).spacedLines.filter isLink =
      (group.entries.map IndexEntry.name).map fun name => pageLine name (page name) := by
    rw [filter_isLink_spacedLines rfl, groupSection, List.filter_eq_self, List.forall_mem_map]
    intro name _
    rfl
  -- only the sections of groups have links, and all lines below their headings are links
  rw [linkLines, hlines, List.filter_flatMap, indexSections, List.flatMap_append, List.flatMap_cons,
    List.flatMap_map, List.flatMap_singleton, filter_isLink_spacedLines rfl, filter_isLink_spacedLines rfl,
    hintro, hprinciples, List.nil_append, List.append_nil, groupedNames, List.map_flatMap]
  exact List.flatMap_congr fun group _ => hgroup group

/-! ## The index of the pages in memory -/

/-- What the index says of a name is read off its page. -/
theorem flatDescription_listedPages (m : PageMemory) (name : Text) :
    (((Batch.listedPages m).lookup name).map flatDescription).getD [] =
      flatDescription (storedPage m name) := by
  by_cases hname : name ∈ m.names
  · rw [Batch.listedPages, List.lookup_graph _ hname]
    rfl
  · -- without a page there is nothing to say
    have hlisted : (Batch.listedPages m).lookup name = none := by
      rw [List.lookup_eq_none_iff, Batch.listedPages, List.forall_mem_map]
      intro other hother
      simpa using fun heq : name = other => hname (heq ▸ hother)
    have hpage : m.page? name = none := by
      rw [PageMemory.page?, List.lookup_eq_none_iff]
      intro entry hentry
      have hother : entry.1 ∈ m.names := Text.mem_sorted.2 (List.mem_map_of_mem hentry)
      simpa using fun heq : name = entry.1 => hname (heq ▸ hother)
    rw [hlisted, storedPage, hpage]
    rfl

/-- The index of the pages in memory is made of the groups of their names. -/
theorem indexPage_listedPages_of_groupNames
    (h : groupNames locale rules m.names (fun name => flatDescription (storedPage m name)) = .ok groups)
    (template : Text) :
    indexPage locale rules template (Batch.listedPages m) = renderIndex locale template groups := by
  have hnames : (Batch.listedPages m).map Prod.fst = m.names := by
    rw [Batch.listedPages, List.map_map]
    exact List.map_id _
  rw [indexPage, hnames]
  simp only [flatDescription_listedPages, h]

/-- **The index of the pages in memory.** With the bundled template it is the text of the sections of their
groups, and its links are one line for each page, whatever the pages say. -/
theorem indexPage_listedPages (hlocale : locale ∈ Locale.all)
    (hrules : ∀ r ∈ rules, r.category ∈ categoryOrder)
    (hnames : ∀ name ∈ m.names, '\n' ∉ name ∧ '\r' ∉ name) :
    ∃ groups, groupNames locale rules m.names (fun name => flatDescription (storedPage m name)) = .ok groups ∧
      indexPage locale rules bundledTemplate (Batch.listedPages m) =
        .ok (Section.text (indexSections locale (storedPage m) groups)) ∧
      linkLines (Section.text (indexSections locale (storedPage m) groups)) =
        (groupedNames groups).map (fun name => pageLine name (storedPage m name)) ∧
      (∀ name, name ∈ groupedNames groups ↔ name ∈ m.names) ∧ (groupedNames groups).Nodup := by
  have hlocale := Locale.isSound_of_mem_all hlocale
  obtain ⟨groups, hgroups⟩ :=
    exists_groupNames locale m.names (fun name => flatDescription (storedPage m name)) hrules
  have hgrouping := isGrouping_of_groupNames hgroups
  have hsound : ∀ s ∈ indexSections locale (storedPage m) groups, s.IsSound :=
    isSound_of_mem_indexSections hlocale hgroups hnames
  have hentries : ∀ group ∈ groups, ∀ e ∈ group.entries,
      linkLine e = pageLine e.name (storedPage m e.name) := by
    intro group hgroup e he
    rw [hgrouping.entry_eq group hgroup e he]
    exact linkLine_eq_pageLine rfl
  have hdraft := pageLines_indexDraft hentries hsound
  have hne : indexSections locale (storedPage m) groups ≠ [] := List.cons_ne_nil _ _
  refine ⟨groups, hgroups, ?_, ?_, hgrouping.mem_iff, hgrouping.nodup⟩
  · rw [indexPage_listedPages_of_groupNames hgroups, renderIndex_bundledTemplate,
      Markdown.tidy_of_sections hne hsound hdraft]
  · exact linkLines_eq_map hlocale (Markdown.pageLines_text hne hsound hdraft)

/-- Pages with descriptions that look like a fence, a row and a heading, with names that look like such lines,
without a description and without any text. -/
def awkwardPages : PageMemory where
  pages := [("Tab".toList, "# Tab\n```\n\n| a  | b\n## X\n".toList),
    ("## A](b".toList, "# A\n### x\n##\n## Y".toList), ("```".toList, "no heading".toList), ("|".toList, [])]

/-- None of these pages loses its line. -/
theorem indexPage_listedPages_awkwardPages :
    Locale.english ∈ Locale.all ∧ (∀ r ∈ categoryRules, r.category ∈ categoryOrder) ∧
      (∀ name ∈ awkwardPages.names, '\n' ∉ name ∧ '\r' ∉ name) ∧
      ∃ groups, groupNames .english categoryRules awkwardPages.names
          (fun name => flatDescription (storedPage awkwardPages name)) = .ok groups ∧
        indexPage .english categoryRules bundledTemplate (Batch.listedPages awkwardPages) =
          .ok (Section.text (indexSections .english (storedPage awkwardPages) groups)) ∧
        linkLines (Section.text (indexSections .english (storedPage awkwardPages) groups)) =
          (groupedNames groups).map (fun name => pageLine name (storedPage awkwardPages name)) ∧
        (∀ name, name ∈ groupedNames groups ↔ name ∈ awkwardPages.names) ∧
        (groupedNames groups).Nodup := by
  have hlocale : Locale.english ∈ Locale.all := List.mem_cons_self
  have hrules : ∀ r ∈ categoryRules, r.category ∈ categoryOrder := by decide +kernel
  have hnames : ∀ name ∈ awkwardPages.names, '\n' ∉ name ∧ '\r' ∉ name := by
    have hall : ∀ name ∈ awkwardPages.pages.map Prod.fst, '\n' ∉ name ∧ '\r' ∉ name := by decide
    exact fun name hname => hall name (Text.mem_sorted.1 hname)
  exact ⟨hlocale, hrules, hnames, indexPage_listedPages hlocale hrules hnames⟩

end ComponentBook
