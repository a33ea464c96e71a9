import ComponentBook.Proofs.Batch.Confinement
import ComponentBook.Proofs.Index.LinkLines
import Mathlib.Data.List.Forall2

/-! # What is left of the pages of a run

A run that succeeds has saved a page for each of its sources and then an index (**`Outcome`**). Each page
is there afterwards, and linked by the index, when nothing clashes (**`NoClash`**): no two pages that
differ have the same file, no page has the file of the index, and each page is one that the directory
lists under a name on one line. This is not only enough but also needed (**`retained_run_iff`**), and
the names of the components decide most of it (`Outcome.lists_iff`). -/

namespace ComponentBook.Batch

open World (Rewrites)

variable {s : Settings} {w u v : World} {pages : PageDirectory} {paths : List Path}
  {staging : Option Bool} {report : BatchReport} {results : List FileReport}
  {saved : List (Text × Text)}
  {groups : List IndexGroup} {index : Text}

/-! ## What a run has done when it succeeds -/

/-- How a run ends that succeeds: each report names a page that has been saved, and behind the pages an
index has been saved that is made of the names listed then. -/
structure Outcome (s : Settings) (paths : List Path) (pages : PageDirectory) (w u v : World)
    (results : List FileReport) (saved : List (Text × Text)) (groups : List IndexGroup)
    (index : Text) : Prop where
  inTurn : InTurn s w paths results saved u
  reported : List.Forall₂ (fun r entry => r.component = some entry.1) results saved
  grouped : ∃ names describe, u.pageNames = .ok names ∧ (∀ name, Text.OneLine (describe name)) ∧
    groupNames s.locale categoryRules names describe = .ok groups
  laid : index = Markdown.tidy (indexDraft s.locale groups)
  indexed : World.Saves pages.indexPath index u v

/-- The groups of an index that the bundled template gives. -/
theorem exists_groups {listed : List (Text × Text)}
    (h : indexPage s.locale categoryRules bundledTemplate listed = .ok index) :
    ∃ describe groups, (∀ name, Text.OneLine (describe name)) ∧
      groupNames s.locale categoryRules (listed.map Prod.fst) describe = .ok groups ∧
      index = Markdown.tidy (indexDraft s.locale groups) := by
  rw [indexPage] at h
  split at h
  · cases h
  · next groups hgroups =>
    rw [renderIndex_bundledTemplate] at h
    refine ⟨_, groups, fun name => ?_, hgroups, (Except.ok.inj h).symm⟩
    cases listed.lookup name with
    | none => exact .inl rfl
    | some page => exact flatDescription_oneLine page

theorem exists_outcome (hshelf : w.shelf = .directory pages) (hbundled : w.UsesBundledTemplate)
    (hrun : w.attempt (run s paths staging) = (.ok report, v)) (hsuccess : report.success = true) :
    ∃ u saved groups index, Outcome s paths pages w u v report.results saved groups index := by
  obtain ⟨u, u', done, hruns⟩ := runs_run w s paths staging
  rw [hrun] at hruns
  obtain ⟨hall, hnone⟩ := hruns.success report rfl hsuccess
  obtain ⟨saved, hsaved⟩ := exists_inTurn s paths w
  rw [hruns.documents] at hsaved
  rw [(hruns.told report rfl).results]
  have hpages := hsaved.rewrites hshelf
  have hindex := hruns.index
  -- an index that is not written would have been reported
  rcases rebuildIndex_cases u s with ⟨e, x, hrun, -⟩ | ⟨names, listed, index, file, x, hwrites⟩
  · rw [hrun] at hindex
    rw [← (Prod.mk.inj (Prod.mk.inj hindex).1).2] at hnone
    cases hnone
  rw [hwrites.run] at hindex
  obtain rfl : x = u' := (Prod.mk.inj hindex).2
  obtain ⟨-, hsaves⟩ := hwrites.saves (hpages.shelf.trans hshelf)
  obtain ⟨template, htemplate, hpage⟩ := hwrites.indexPage
  rw [World.indexTemplate_of_bundled (hpages.bundled hbundled)] at htemplate
  obtain rfl := Except.ok.inj htemplate
  obtain ⟨describe, groups, hdescribe, hgroups, htidy⟩ := exists_groups hpage
  obtain ⟨outcome, houtcome, hnames⟩ := attempt_readPages u names
  rw [hwrites.readPages] at houtcome
  rw [hnames listed (Prod.mk.inj houtcome).1.symm] at hgroups
  exact ⟨u, saved, groups, index, hsaved, hsaved.forall₂ hall,
    ⟨names, describe, hwrites.pageNames, hdescribe, hgroups⟩, htidy, hsaves.trans hruns.rest⟩

/-! ## What is left afterwards -/

/-- Each saved page is there under its name, and the index has its link. -/
def Retained (v : World) (saved : List (Text × Text)) (groups : List IndexGroup) (index : Text) :
    Prop :=
  ∀ entry ∈ saved, v.readPage entry.1 = .ok (some entry.2) ∧ HasLink groups index entry.1

/-- Nothing that a run saves clashes with something else that it saves: the pages that share a file do
not differ, nor does a page that shares the file of the index; and each page has a name on one line that
the directory lists when the index is made. -/
structure NoClash (w u : World) (pages : PageDirectory) (saved : List (Text × Text))
    (index : Text) : Prop where
  page : ∀ a ∈ saved, ∀ b ∈ saved, pagePlace w pages a.1 = pagePlace w pages b.1 → a.2 = b.2
  index : ∀ a ∈ saved, pagePlace w pages a.1 = indexPlace w pages → a.2 = index
  listed : ∀ a ∈ saved, pages.Lists u.disk a.1
  line : ∀ a ∈ saved, '\n' ∉ a.1 ∧ '\r' ∉ a.1

/-- The log goes to none of the pages that are reported. -/
def LogsApartFromReported (w : World) (pages : PageDirectory) (results : List FileReport) : Prop :=
  ∀ r ∈ results, ∀ name, r.component = some name → w.LogsApart (pages.pathOf name)

namespace Outcome

variable {entry : Text × Text} (h : Outcome s paths pages w u v results saved groups index)
include h

/-- The index is there. -/
theorem readIndex (hshelf : w.shelf = .directory pages) (hlog : w.LogsApart pages.indexPath) :
    v.disk.read pages.indexPath = .ok index := by
  have hunix : '\r' ∉ index := by
    rw [h.laid]
    exact Markdown.carriageReturn_not_mem_tidy _
  exact h.indexed.read ((h.inTurn.rewrites hshelf).logsApart_iff.2 hlog) hunix

theorem logsApart (hlog : LogsApartFromReported w pages results) (hentry : entry ∈ saved) :
    w.LogsApart (pages.pathOf entry.1) := by
  obtain ⟨r, hr, hname⟩ := h.inTurn.exists_report hentry
  exact hlog r hr entry.1 hname

/-- The pages, and behind them the index, are written to their places. -/
theorem rewrites (hshelf : w.shelf = .directory pages) :
    Rewrites (pageWrites w pages saved ++ [(indexPlace w pages, index)]) w v := by
  have hpages := h.inTurn.rewrites hshelf
  have hall := hpages.trans h.indexed.rewrites
  rwa [hpages.disk.grows.placeOf] at hall

/-- What is read under the name of a page that has been saved is what its file holds. -/
theorem readPage_iff (hshelf : w.shelf = .directory pages) (hentry : entry ∈ saved) {t : Text} :
    v.readPage entry.1 = .ok (some t) ↔
      ∃ c, v.disk.contentAt? (pagePlace w pages entry.1) = some c ∧
        Disk.readContent c = .ok t := by
  have hrewrites := h.rewrites hshelf
  obtain ⟨hnul, hfind⟩ := h.inTurn.find hshelf hentry
  rw [World.readPage_directory (hrewrites.shelf.trans hshelf), Disk.read_eq_ok_iff,
    hrewrites.disk.grows.placeOf]
  exact ⟨fun hread => hread.2.2,
    fun hread => ⟨hnul, h.indexed.rewrites.disk.grows.find hfind, hread⟩⟩

/-- **Which pages are left.** Those are left of which each file has one text only. -/
theorem readPage_all_iff (hshelf : w.shelf = .directory pages)
    (hlog : LogsApartFromReported w pages results) (hlogIndex : w.LogsApart pages.indexPath) :
    (∀ entry ∈ saved, v.readPage entry.1 = .ok (some entry.2)) ↔
      (∀ a ∈ saved, ∀ b ∈ saved, pagePlace w pages a.1 = pagePlace w pages b.1 → a.2 = b.2) ∧
        ∀ a ∈ saved, pagePlace w pages a.1 = indexPlace w pages → a.2 = index := by
  constructor
  · intro hleft
    -- two readings of one file give one text
    refine ⟨fun a ha b hb hplace => ?_, fun a ha hplace => ?_⟩
    · obtain ⟨c, hc, hta⟩ := (h.readPage_iff hshelf ha).1 (hleft a ha)
      obtain ⟨c', hc', htb⟩ := (h.readPage_iff hshelf hb).1 (hleft b hb)
      rw [hplace, hc'] at hc
      obtain rfl := Option.some.inj hc
      exact Except.ok.inj (hta.symm.trans htb)
    · obtain ⟨c, hc, hta⟩ := (h.readPage_iff hshelf ha).1 (hleft a ha)
      obtain ⟨-, -, c', hc', hti⟩ := Disk.read_eq_ok_iff.1 (h.readIndex hshelf hlogIndex)
      rw [(h.rewrites hshelf).disk.grows.placeOf] at hc'
      rw [hplace, indexPlace, hc'] at hc
      obtain rfl := Option.some.inj hc
      exact Except.ok.inj (hta.symm.trans hti)
  · rintro ⟨hpage, hindex⟩ entry hentry
    obtain ⟨x, hx, hplace, hheld⟩ := Disk.exists_overlay_eq
      ⟨_, List.mem_append_left [(indexPlace w pages, index)] (mem_pageWrites w pages hentry), rfl⟩
      (w.disk.contentAt? (pagePlace w pages entry.1))
    -- whatever has been written last to the file is the text of the page
    have htext : x.2 = entry.2 := by
      rcases List.mem_append.1 hx with hx | hx
      · obtain ⟨b, hb, rfl⟩ := List.mem_map.1 hx
        exact (hpage entry hentry b hb hplace.symm).symm
      · obtain rfl := List.mem_singleton.1 hx
        exact (hindex entry hentry hplace.symm).symm
    rw [h.readPage_iff hshelf hentry]
    refine ⟨.text entry.2, ?_, ?_⟩
    · refine ((h.rewrites hshelf).disk.contentAt? _ (h.logsApart hlog hentry)).trans ?_
      rw [← htext]
      exact hheld
    · rw [Disk.readContent, Text.unifyNewlines_of_not_mem (h.inTurn.carriageReturn_not_mem hentry)]

/-- **Which pages are linked.** -/
theorem hasLink_iff_lists (hshelf : w.shelf = .directory pages) (name : Text) :
    HasLink groups index name ↔ pages.Lists u.disk name ∧ '\n' ∉ name ∧ '\r' ∉ name := by
  obtain ⟨names, describe, hnames, hdescribe, hgroups⟩ := h.grouped
  rw [World.pageNames, (h.inTurn.rewrites hshelf).shelf, hshelf] at hnames
  rw [h.laid, hasLink_iff hgroups hdescribe,
    PageDirectory.mem_names_iff (World.mapError_eq_ok_iff.1 hnames)]

/-- A page whose name has no slash is listed unless its file has the name of the index. -/
theorem lists_iff (hshelf : w.shelf = .directory pages)
    (hlog : LogsApartFromReported w pages results) (hentry : entry ∈ saved)
    (hslash : '/' ∉ entry.1) (hne : entry.1 ≠ [] ∧ entry.1 ≠ pageSuffix) :
    pages.Lists u.disk entry.1 ↔ entry.1 ++ pageSuffix ≠ pages.indexName := by
  constructor
  · intro hlists
    exact (PageDirectory.ne_indexName_of_lists hlists).resolve_right hne.2
  · intro hindex
    obtain ⟨hnul, hfind⟩ := h.inTurn.find hshelf hentry
    -- the file of the page is there when the index is made
    obtain ⟨x, -, -, hheld⟩ := Disk.exists_overlay_eq
      ⟨_, mem_pageWrites w pages hentry, rfl⟩ (w.disk.contentAt? (pagePlace w pages entry.1))
    have hcontent := ((h.inTurn.rewrites hshelf).disk.contentAt? _
      (h.logsApart hlog hentry)).trans hheld
    have hplace := Disk.eq_placeOf_of_find hfind
    rw [pages.pathOf_of_not_mem hslash] at hnul hfind hplace
    rw [PageDirectory.fileIn, Disk.extend, Disk.hasNul, List.any_append, Bool.or_eq_false_iff] at hnul
    refine PageDirectory.lists_of_isFileAt hne.1 hindex hnul.1 (Disk.isFileAt_iff.2 ⟨?_, ?_⟩)
    · exact hfind.trans (congrArg _ hplace)
    · refine (congrArg (fun l => (u.disk.contentAt? l).isSome) hplace.symm).trans ?_
      exact (congrArg Option.isSome hcontent).trans rfl

end Outcome

/-- **What is left of the pages of a run.** A run that succeeds has saved a page for each report and an
index behind them. All of these pages are there afterwards and linked by the index exactly when nothing
clashes. A name without a slash is listed unless it is that of the index; a name with a slash is not, as
long as no file of the directory has a slash in its name. -/
theorem retained_run_iff (hshelf : w.shelf = .directory pages) (hbundled : w.UsesBundledTemplate)
    (hrun : w.attempt (run s paths staging) = (.ok report, v)) (hsuccess : report.success = true)
    (hlog : LogsApartFromReported w pages report.results)
    (hlogIndex : w.LogsApart pages.indexPath) :
    ∃ u saved groups index,
      Outcome s paths pages w u v report.results saved groups index ∧
      v.disk.read pages.indexPath = .ok index ∧
      (Retained v saved groups index ↔ NoClash w u pages saved index) ∧
      ∀ entry ∈ saved, entry.1 ≠ [] ∧ entry.1 ≠ pageSuffix →
        ('/' ∉ entry.1 →
          (pages.Lists u.disk entry.1 ↔ entry.1 ++ pageSuffix ≠ pages.indexName)) ∧
        ('/' ∈ entry.1 → pages.Lists u.disk entry.1 →
          ∃ f, '/' ∈ f ∧ u.disk.isFileAt (pages.fileIn f) = true) := by
  obtain ⟨u, saved, groups, index, h⟩ := exists_outcome hshelf hbundled hrun hsuccess
  refine ⟨u, saved, groups, index, h, h.readIndex hshelf hlogIndex, ?_,
    fun entry hentry hne => ⟨fun hslash => h.lists_iff hshelf hlog hentry hslash hne,
      fun hslash hlists => PageDirectory.exists_slash_of_lists hlists hslash⟩⟩
  have hpages := h.readPage_all_iff hshelf hlog hlogIndex
  have hlinks := h.hasLink_iff_lists hshelf
  constructor
  · intro hretained
    obtain ⟨hpage, hindex⟩ := hpages.1 fun entry hentry => (hretained entry hentry).1
    refine ⟨hpage, hindex, fun a ha => ?_, fun a ha => ?_⟩
    · exact ((hlinks a.1).1 (hretained a ha).2).1
    · exact ((hlinks a.1).1 (hretained a ha).2).2
  · intro hclash entry hentry
    refine ⟨hpages.2 ⟨hclash.page, hclash.index⟩ entry hentry, (hlinks entry.1).2 ?_⟩
    exact ⟨hclash.listed entry hentry, hclash.line entry hentry⟩

/-- The run over the sample project with its pages in a directory. -/
def sampleRun (source : Text) : Except Failure BatchReport × World :=
  (sampleWorld source (.directory docsDirectory)).attempt (run sampleSettings [samplePath] none)

/-- Whether a run has told of success, and of which components. -/
def toldComponents? (outcome : Except Failure BatchReport) : Option (Bool × List (Option Text)) :=
  outcome.toOption.map fun report => (report.success, report.results.map (·.component))

theorem exists_of_toldComponents? {outcome : Except Failure BatchReport} {success : Bool}
    {components : List (Option Text)} (h : toldComponents? outcome = some (success, components)) :
    ∃ report, outcome = .ok report ∧ report.success = success ∧
      report.results.map (·.component) = components := by
  rcases outcome with e | report
  · cases h
  · obtain ⟨hsuccess, hcomponents⟩ := Prod.mk.inj (Option.some.inj h)
    exact ⟨report, rfl, hsuccess, hcomponents⟩

/-- The page of a component that is named after its file is left, and linked by the index. -/
theorem retained_bareSource :
    ∃ page groups index, (sampleRun bareSource).2.readPage "X".toList = .ok (some page) ∧
      (sampleRun bareSource).2.disk.read docsDirectory.indexPath = .ok index ∧
      HasLink groups index "X".toList := by
  have htold : toldComponents? (sampleRun bareSource).1 = some (true, [some "X".toList]) := by
    decide +kernel
  obtain ⟨report, hreport, hsuccess, hcomponents⟩ := exists_of_toldComponents? htold
  have hplaces : pagePlace (sampleWorld bareSource (.directory docsDirectory)) docsDirectory
        "X".toList
      ≠ indexPlace (sampleWorld bareSource (.directory docsDirectory)) docsDirectory := by
    decide +kernel
  obtain ⟨u, saved, groups, index, h, hread, hiff, hlists⟩ :=
    retained_run_iff (w := sampleWorld bareSource (.directory docsDirectory)) rfl ⟨rfl, nofun⟩
      (Prod.ext hreport rfl) hsuccess (fun r _ name _ => nofun) nofun
  -- the only report is that of the component, so its page is the only one that is saved
  obtain ⟨r, hr, hname⟩ := List.map_eq_singleton_iff.1 hcomponents
  have hreported := h.reported
  rw [hr] at hreported
  obtain ⟨⟨name, page⟩, rest, hentry, hnil, rfl⟩ := List.forall₂_cons_left_iff.1 hreported
  obtain rfl := List.forall₂_nil_left_iff.1 hnil
  obtain rfl : "X".toList = name := Option.some.inj (hname.symm.trans hentry)
  have hplain : ("X".toList ≠ [] ∧ "X".toList ≠ pageSuffix) ∧ '/' ∉ "X".toList ∧
      "X".toList ++ pageSuffix ≠ docsDirectory.indexName := by decide
  have hlisted := ((hlists _ List.mem_cons_self hplain.1).1 hplain.2.1).2 hplain.2.2
  have hleft := hiff.2 {
    page := by simp
    index := by simpa using fun heq => absurd heq hplaces
    listed := by simpa using hlisted
    line := by simp }
  obtain ⟨hpage, hlink⟩ := hleft _ List.mem_cons_self
  exact ⟨page, groups, index, hpage, hread, hlink⟩

/-- The source of a component whose name leads to a directory further down. -/
def nestedSource : Text := "<script>export default \x7b name: 'forms/X' \x7d</script>".toList

/-- The source of a component that has the name of the index. -/
def indexSource : Text := "<script>export default \x7b name: 'index' \x7d</script>".toList

/-- A page in a directory further down is not linked by the index, and a page that has the name of the
index is lost; the reports tell of success. -/
theorem not_retained_nestedSource_indexSource :
    (toldComponents? (sampleRun nestedSource).1 = some (true, [some "forms/X".toList]) ∧
      ((sampleRun nestedSource).2.disk.read docsDirectory.indexPath).toOption.map
        (fun index => (Markdown.pageLines index).any (·.startsWith "- [forms/X]".toList))
          = some false) ∧
    toldComponents? (sampleRun indexSource).1 = some (true, [some "index".toList]) ∧
      ((sampleRun indexSource).2.readPage "index".toList).toOption
        ≠ some (some (newPage sampleSettings none
            (describe sampleSettings indexSource samplePath.stem))) := by
  decide +kernel

end ComponentBook.Batch
