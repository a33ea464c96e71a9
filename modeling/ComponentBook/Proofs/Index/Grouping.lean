import ComponentBook.Index.Grouping
import ComponentBook.Proofs.Text.Order
import ComponentBook.Proofs.Text.Search
import Mathlib.Data.List.Basic
import Mathlib.Data.List.Nodup

/-! # The entries of an index

The groups of an index hold one entry for each name that is grouped and no other entry
(**`exists_mem_entries_iff`**). More exactly, they part the names (**`IsGrouping`**,
**`groupNames_isGrouping`**): each name has one entry, in the group of the category that the first rule with a
keyword in it gives (**`GivesCategory`**); no group is empty, the categories stand in their fixed order and
the names of a group ascend. -/

namespace ComponentBook

variable {locale : Locale} {rules : List CategoryRule} {names : List Text} {name : Text}
  {describe : Text → Text} {groups : List IndexGroup} {rule : CategoryRule} {category : Category}

/-! ## Distinct names in ascending order -/

theorem mem_dropRepeats {t : Text} {ts : List Text} : t ∈ dropRepeats ts ↔ t ∈ ts := by
  fun_induction dropRepeats ts with
  | case1 => exact Iff.rfl
  | case2 => exact Iff.rfl
  | case3 u ts ih => simp [ih]
  | case4 u v ts _ ih => rw [List.mem_cons, ih, List.mem_cons (a := t) (b := u)]

theorem mem_distinctSorted {t : Text} {ts : List Text} : t ∈ distinctSorted ts ↔ t ∈ ts := by
  rw [distinctSorted, mem_dropRepeats, Text.mem_sorted]

/-- An ascending list without its repeats ascends strictly. -/
theorem dropRepeats_pairwise {ts : List Text} (h : ts.Pairwise (Text.precedes · · = true)) :
    (dropRepeats ts).Pairwise Text.ComesBefore := by
  fun_induction dropRepeats ts with
  | case1 => exact List.Pairwise.nil
  | case2 t => exact List.pairwise_singleton _ t
  | case3 t ts ih => exact ih (List.pairwise_cons.1 h).2
  | case4 t u ts hne ih =>
    obtain ⟨hfirst, hrest⟩ := List.pairwise_cons.1 h
    refine List.pairwise_cons.2 ⟨fun v hv => ?_, ih hrest⟩
    rw [mem_dropRepeats] at hv
    refine Text.comesBefore_iff.2 ⟨hfirst v hv, ?_⟩
    -- a text that came once more would stand both in front of its neighbour and behind it
    rintro rfl
    rcases List.mem_cons.1 hv with htu | hv
    · exact hne htu
    · exact hne (Text.precedes_antisymm (hfirst u List.mem_cons_self)
        ((List.pairwise_cons.1 hrest).1 t hv))

theorem distinctSorted_pairwise (ts : List Text) : (distinctSorted ts).Pairwise Text.ComesBefore :=
  dropRepeats_pairwise (Text.sorted_pairwise ts)

theorem nodup_distinctSorted (ts : List Text) : (distinctSorted ts).Nodup :=
  (distinctSorted_pairwise ts).imp Text.ComesBefore.ne

/-! ## Categories -/

/-- A name contains a keyword of a rule. -/
def CategoryRule.Matches (rule : CategoryRule) (name : Text) : Prop := ∃ k ∈ rule.keywords, k <:+: name

theorem CategoryRule.accepts_eq_true_iff : rule.accepts name = true ↔ rule.Matches name := by
  simp only [accepts, Matches, List.any_eq_true, Text.contains_eq_true_iff]

/-- The category that rules give a name. -/
inductive GivesCategory (name : Text) : List CategoryRule → Category → Prop
  /-- No rule has a keyword in the name. -/
  | fallback : GivesCategory name [] "Example".toList
  /-- The first rule has one. -/
  | first {rule : CategoryRule} {rules : List CategoryRule} (h : rule.Matches name) :
      GivesCategory name (rule :: rules) rule.category
  /-- The first rule has none, and the others decide. -/
  | later {rule : CategoryRule} {rules : List CategoryRule} {category : Category}
      (h : ¬ rule.Matches name) (hrest : GivesCategory name rules category) :
      GivesCategory name (rule :: rules) category

theorem givesCategory_classify (rules : List CategoryRule) (name : Text) :
    GivesCategory name rules (classify rules name) := by
  induction rules with
  | nil => exact .fallback
  | cons rule rules ih =>
    rw [classify, List.find?_cons]
    cases haccepts : rule.accepts name with
    | true => exact .first (CategoryRule.accepts_eq_true_iff.1 haccepts)
    | false =>
      refine .later (fun hmatches => ?_) ih
      rw [CategoryRule.accepts_eq_true_iff.2 hmatches] at haccepts
      cases haccepts

/-- A category that rules give is the fallback or one of theirs. -/
theorem GivesCategory.mem_categoryOrder (h : GivesCategory name rules category)
    (hrules : ∀ r ∈ rules, r.category ∈ categoryOrder) : category ∈ categoryOrder := by
  induction h with
  | fallback => decide
  | first => exact hrules _ List.mem_cons_self
  | later _ _ ih => exact ih fun r hr => hrules r (List.mem_cons_of_mem _ hr)

/-! ## Groups -/

/-- The group of a category: those of some names that the rules place in it. -/
def groupOf (locale : Locale) (rules : List CategoryRule) (describe : Text → Text) (sorted : List Text)
    (category : Category) : IndexGroup where
  category := category
  title := locale.categoryTitle category
  entries := (sorted.filter fun n => classify rules n == category).map (indexEntry describe)

theorem names_groupOf (sorted : List Text) (category : Category) :
    (groupOf locale rules describe sorted category).entries.map IndexEntry.name =
      sorted.filter fun n => classify rules n == category := by
  rw [groupOf, List.map_map]
  exact List.map_id _

/-- The groups of the categories in their order, without those that are empty. -/
def filledGroups (locale : Locale) (rules : List CategoryRule) (describe : Text → Text)
    (sorted : List Text) : List IndexGroup :=
  (categoryOrder.map (groupOf locale rules describe sorted)).filter fun group => !group.entries.isEmpty

theorem groupNames_eq_ok (h : ∀ name ∈ names, classify rules name ∈ categoryOrder) :
    groupNames locale rules names describe =
      .ok (filledGroups locale rules describe (distinctSorted names)) := by
  have hnone : (distinctSorted names).find? (fun n => !categoryOrder.contains (classify rules n)) = none := by
    rw [List.find?_eq_none]
    intro name hname
    simpa using h name (mem_distinctSorted.1 hname)
  rw [groupNames, hnone]
  refine congrArg Except.ok ?_
  rw [filledGroups, ← List.filterMap_eq_filter, List.filterMap_map]
  apply List.filterMap_congr
  intro category _
  rw [Function.comp, groupOf]
  -- a group is listed when it has a member
  cases (distinctSorted names).filter fun n => classify rules n == category with
  | nil => rfl
  | cons name members => rfl

/-- **What grouping comes to.** -/
theorem groupNames_eq_ok_iff : groupNames locale rules names describe = .ok groups ↔
    (∀ name ∈ names, classify rules name ∈ categoryOrder) ∧
      groups = filledGroups locale rules describe (distinctSorted names) := by
  constructor
  · intro h
    have hall : ∀ name ∈ names, classify rules name ∈ categoryOrder := by
      rw [groupNames] at h
      split at h
      · cases h
      · next hnone =>
        intro name hname
        simpa using List.find?_eq_none.1 hnone name (mem_distinctSorted.2 hname)
    rw [groupNames_eq_ok hall] at h
    exact ⟨hall, (Except.ok.inj h).symm⟩
  · rintro ⟨hall, rfl⟩
    exact groupNames_eq_ok hall

/-- Groups are made of the names that the rules place in their categories. -/
theorem mem_filledGroups {sorted : List Text} {group : IndexGroup} :
    group ∈ filledGroups locale rules describe sorted ↔
      ∃ category ∈ categoryOrder, group = groupOf locale rules describe sorted category ∧
        ∃ name ∈ sorted, classify rules name = category := by
  rw [filledGroups, List.mem_filter, List.mem_map]
  constructor
  · rintro ⟨⟨category, hcategory, rfl⟩, hfilled⟩
    refine ⟨category, hcategory, rfl, ?_⟩
    simpa [groupOf] using hfilled
  · rintro ⟨category, hcategory, rfl, name, hname, hclass⟩
    refine ⟨⟨category, hcategory, rfl⟩, ?_⟩
    have hmember : ∃ n ∈ sorted, classify rules n = category := ⟨name, hname, hclass⟩
    simpa [groupOf] using hmember

/-- The entries of the groups are those of the names. -/
theorem exists_mem_entries_iff (h : groupNames locale rules names describe = .ok groups)
    {entry : IndexEntry} :
    (∃ group ∈ groups, entry ∈ group.entries) ↔
      ∃ name ∈ names, entry = indexEntry describe name := by
  obtain ⟨hall, rfl⟩ := groupNames_eq_ok_iff.1 h
  constructor
  · rintro ⟨group, hgroup, hentry⟩
    obtain ⟨category, -, rfl, -⟩ := mem_filledGroups.1 hgroup
    obtain ⟨name, hname, rfl⟩ := List.mem_map.1 hentry
    exact ⟨name, mem_distinctSorted.1 (List.mem_filter.1 hname).1, rfl⟩
  · rintro ⟨name, hname, rfl⟩
    -- the category of the name is one of those that are listed, so its group is there
    have hsorted : name ∈ distinctSorted names := mem_distinctSorted.2 hname
    refine ⟨_, mem_filledGroups.2 ⟨_, hall name hname, rfl, name, hsorted, rfl⟩, ?_⟩
    exact List.mem_map_of_mem (List.mem_filter.2 ⟨hsorted, beq_self_eq_true _⟩)

/-! ## Groups part the names -/

/-- The names of the entries of groups. -/
def groupedNames (groups : List IndexGroup) : List Text :=
  groups.flatMap fun group => group.entries.map IndexEntry.name

/-- Groups part names: each name has one entry, in the group of its category. -/
structure IsGrouping (locale : Locale) (rules : List CategoryRule) (names : List Text)
    (describe : Text → Text) (groups : List IndexGroup) : Prop where
  /-- The names of the entries, over all groups, are those that are grouped. -/
  mem_iff : ∀ name, name ∈ groupedNames groups ↔ name ∈ names
  /-- No name has two entries. -/
  nodup : (groupedNames groups).Nodup
  /-- An entry has the link and the description of its name. -/
  entry_eq : ∀ group ∈ groups, ∀ e ∈ group.entries, e = indexEntry describe e.name
  /-- A name is in the group of the category that the rules give it. -/
  category : ∀ group ∈ groups, ∀ e ∈ group.entries, GivesCategory e.name rules group.category
  /-- The heading of a group is that of its category. -/
  title_eq : ∀ group ∈ groups, group.title = locale.categoryTitle group.category
  /-- No group is empty. -/
  filled : ∀ group ∈ groups, group.entries ≠ []
  /-- The categories of the groups stand in their fixed order, none of them twice. -/
  ordered : (groups.map IndexGroup.category).Sublist categoryOrder
  /-- The names within a group ascend. -/
  ascending : ∀ group ∈ groups, (group.entries.map IndexEntry.name).Pairwise Text.ComesBefore

theorem mem_groupedNames_iff :
    name ∈ groupedNames groups ↔ ∃ group ∈ groups, ∃ e ∈ group.entries, e.name = name := by
  simp only [groupedNames, List.mem_flatMap, List.mem_map]

section

variable {sorted : List Text} {group : IndexGroup}

/-- The members of a group are the names that the rules place in its category. -/
theorem names_of_mem_filledGroups (h : group ∈ filledGroups locale rules describe sorted) :
    group.entries.map IndexEntry.name =
      sorted.filter fun n => classify rules n == group.category := by
  obtain ⟨category, -, rfl, -⟩ := mem_filledGroups.1 h
  exact names_groupOf sorted category

/-- The names of groups, category by category. -/
theorem groupedNames_filledGroups (sorted : List Text) :
    groupedNames (filledGroups locale rules describe sorted) =
      categoryOrder.flatMap fun category => sorted.filter fun n => classify rules n == category := by
  -- groups that are empty have no names
  have hfilter (all : List IndexGroup) :
      groupedNames (all.filter fun group => !group.entries.isEmpty) = groupedNames all := by
    induction all with
    | nil => rfl
    | cons group all ih =>
      rw [groupedNames, groupedNames, List.flatMap_cons] at *
      cases hentries : group.entries with
      | nil => simpa [hentries] using ih
      | cons e entries => simpa [hentries] using ih
  rw [filledGroups, hfilter, groupedNames, List.flatMap_map]
  exact List.flatMap_congr fun category _ => names_groupOf sorted category

/-- A name has one category, and no category is listed twice. -/
theorem nodup_groupedNames_filledGroups (h : sorted.Nodup) :
    (groupedNames (filledGroups locale rules describe sorted)).Nodup := by
  rw [groupedNames_filledGroups, List.nodup_flatMap]
  refine ⟨fun category _ => h.filter _, ?_⟩
  have hdistinct : categoryOrder.Nodup := by decide
  refine hdistinct.imp fun hne name hfirst hsecond => hne ?_
  have hfirst := eq_of_beq (List.mem_filter.1 hfirst).2
  have hsecond := eq_of_beq (List.mem_filter.1 hsecond).2
  exact hfirst.symm.trans hsecond

theorem givesCategory_of_mem_filledGroups (h : group ∈ filledGroups locale rules describe sorted)
    {e : IndexEntry} (he : e ∈ group.entries) : GivesCategory e.name rules group.category := by
  have hname : e.name ∈ group.entries.map IndexEntry.name := List.mem_map_of_mem he
  rw [names_of_mem_filledGroups h, List.mem_filter] at hname
  rw [← eq_of_beq hname.2]
  exact givesCategory_classify rules e.name

theorem categories_filledGroups (sorted : List Text) :
    ((filledGroups locale rules describe sorted).map IndexGroup.category).Sublist categoryOrder := by
  have hall : (categoryOrder.map (groupOf locale rules describe sorted)).map IndexGroup.category =
      categoryOrder := by
    rw [List.map_map]
    exact List.map_id _
  have hsublist : (filledGroups locale rules describe sorted).Sublist
      (categoryOrder.map (groupOf locale rules describe sorted)) := List.filter_sublist
  have hcategories := hsublist.map IndexGroup.category
  rwa [hall] at hcategories

end

/-- Groups that are made part the names that they are made of. -/
theorem isGrouping_of_groupNames (h : groupNames locale rules names describe = .ok groups) :
    IsGrouping locale rules names describe groups := by
  have hentries (entry : IndexEntry) :
      (∃ group ∈ groups, entry ∈ group.entries) ↔ ∃ name ∈ names, entry = indexEntry describe name :=
    exists_mem_entries_iff h
  obtain ⟨-, rfl⟩ := groupNames_eq_ok_iff.1 h
  refine
    { mem_iff := fun name => ?_
      nodup := nodup_groupedNames_filledGroups (nodup_distinctSorted names)
      entry_eq := fun group hgroup e he => ?_
      category := fun group hgroup e he => givesCategory_of_mem_filledGroups hgroup he
      title_eq := fun group hgroup => ?_
      filled := fun group hgroup => ?_
      ordered := categories_filledGroups (distinctSorted names)
      ascending := fun group hgroup => ?_ }
  · rw [mem_groupedNames_iff]
    constructor
    · rintro ⟨group, hgroup, e, he, rfl⟩
      obtain ⟨name, hname, rfl⟩ := (hentries e).1 ⟨group, hgroup, he⟩
      exact hname
    · intro hname
      obtain ⟨group, hgroup, he⟩ := (hentries _).2 ⟨name, hname, rfl⟩
      exact ⟨group, hgroup, _, he, rfl⟩
  · obtain ⟨name, -, rfl⟩ := (hentries e).1 ⟨group, hgroup, he⟩
    rfl
  · obtain ⟨category, -, rfl, -⟩ := mem_filledGroups.1 hgroup
    rfl
  · have hfilled := (List.mem_filter.1 hgroup).2
    simpa using hfilled
  · rw [names_of_mem_filledGroups hgroup]
    exact (distinctSorted_pairwise names).filter _

/-- Names can be grouped when the rules place them in categories that an index lists. -/
theorem exists_groupNames (locale : Locale) (names : List Text) (describe : Text → Text)
    (hrules : ∀ r ∈ rules, r.category ∈ categoryOrder) :
    ∃ groups, groupNames locale rules names describe = .ok groups :=
  ⟨_, groupNames_eq_ok fun name _ => (givesCategory_classify rules name).mem_categoryOrder hrules⟩

/-- **Grouping is an ordered partition.** Rules that place names in categories that an index lists part
any names: each name has exactly one entry, in the group of the category of the first rule with a keyword in
it; groups are not empty and stand in the order of the categories, names within a group ascend. -/
theorem groupNames_isGrouping (locale : Locale) (names : List Text) (describe : Text → Text)
    (hrules : ∀ r ∈ rules, r.category ∈ categoryOrder) :
    ∃ groups, groupNames locale rules names describe = .ok groups ∧
      IsGrouping locale rules names describe groups := by
  obtain ⟨groups, hgroups⟩ := exists_groupNames locale names describe hrules
  exact ⟨groups, hgroups, isGrouping_of_groupNames hgroups⟩

/-- Rules that share a keyword and a category. -/
def overlappingRules : List CategoryRule := [
  ⟨"Form".toList, ["Picker".toList]⟩, ⟨"Base".toList, ["Icon".toList, "Pick".toList]⟩,
  ⟨"Form".toList, ["Box".toList]⟩]

/-- Names that come more than once, that two rules match and that none does. -/
theorem groupNames_isGrouping_overlappingRules :
    (∀ r ∈ overlappingRules, r.category ∈ categoryOrder) ∧
      ∃ groups, groupNames .english overlappingRules
          ["IconPicker".toList, "Icon".toList, "Zebra".toList, "Icon".toList, "Box".toList] id = .ok groups ∧
        IsGrouping .english overlappingRules
          ["IconPicker".toList, "Icon".toList, "Zebra".toList, "Icon".toList, "Box".toList] id groups := by
  have hrules : ∀ r ∈ overlappingRules, r.category ∈ categoryOrder := by decide
  exact ⟨hrules, groupNames_isGrouping _ _ _ hrules⟩

end ComponentBook
