import ComponentBook.Proofs.Disk.Place
import ComponentBook.Proofs.Text.Lines
import ComponentBook.Proofs.Text.Search
import ComponentBook.Store.Directory

/-! # The pages that a directory lists

A page whose name has no slash is a file of the directory of pages (**`pathOf_of_not_mem`**). The
directory lists the files that stand in it directly and have the suffix of pages, apart from the file
with the name of the index (**`mem_names_iff`**). A page in a directory further down is not among them,
and neither is one that has the name of the index. -/

namespace ComponentBook

/-! ## The length of a path -/

namespace Text

theorem utf8Length_append (t u : Text) : (t ++ u).utf8Length = t.utf8Length + u.utf8Length := by
  induction t with
  | nil => rw [List.nil_append, utf8Length, Nat.zero_add]
  | cons c t ih => rw [List.cons_append, utf8Length, utf8Length, ih, Nat.add_assoc]

/-- A text joined from some of the parts is no longer than that of all of them. -/
theorem utf8Length_join_le_of_sublist (sep : Text) {ts us : List Text} (h : ts.Sublist us) :
    (join sep ts).utf8Length ≤ (join sep us).utf8Length := by
  induction h with
  | slnil => exact Nat.le_refl _
  | @cons ts us u h ih =>
    cases us with
    | nil =>
      rw [List.sublist_nil.1 h]
      exact Nat.zero_le _
    | cons v us =>
      rw [join_cons_cons, utf8Length_append]
      exact Nat.le_trans ih (Nat.le_add_left _ _)
  | @cons_cons ts us t h ih =>
    cases us with
    | nil => rw [List.sublist_nil.1 h]
    | cons v us =>
      cases ts with
      | nil =>
        rw [join_singleton, join_cons_cons, List.append_assoc, utf8Length_append]
        exact Nat.le_add_right _ _
      | cons u ts =>
        rw [join_cons_cons, join_cons_cons, utf8Length_append, utf8Length_append (t ++ sep)]
        exact Nat.add_le_add_left ih _

end Text

namespace Disk

variable {d e : Disk} {p : Path} {l m : Location} {name : Text} {front more : List Text}

/-! ## The way to a file -/

/-- A path is not too long when it is not with further names in between. -/
theorem tooLong_of_sublist {q : Path} (hslashes : p.slashes = q.slashes)
    (hnames : p.names.Sublist q.names) (h : tooLong q = false) : tooLong p = false := by
  rw [tooLong, decide_eq_false_iff_not, Nat.not_lt] at h ⊢
  -- a path without slashes and names is written as a dot, which further names replace
  by_cases hdot : p.slashes = 0 ∧ p.names = []
  · rw [Path.text, if_pos hdot]
    decide
  · have hlonger : ¬ (q.slashes = 0 ∧ q.names = []) := by
      rintro ⟨hzero, hnil⟩
      rw [hnil] at hnames
      exact hdot ⟨hslashes.trans hzero, List.sublist_nil.1 hnames⟩
    rw [Path.text, if_neg hlonger, Text.utf8Length_append] at h
    rw [Path.text, if_neg hdot, Text.utf8Length_append, hslashes]
    exact Nat.le_trans (Nat.add_le_add_left (Text.utf8Length_join_le_of_sublist ['/'] hnames) _) h

theorem tooLong_of_extend (h : tooLong (extend p more) = false) : tooLong p = false :=
  tooLong_of_sublist (q := extend p more) rfl (List.sublist_append_left p.names more) h

/-- What stands below a directory is found through it. -/
theorem find_of_find_extend (h : d.find (extend p (name :: more)) = .ok m) :
    d.find p = .ok (d.placeOf p) ∧ d.entryAt? (d.placeOf p) = some .directory := by
  rw [find] at h
  split at h
  · cases h
  · next hlong =>
    rw [extend, namesOf_append] at h
    -- the next step of the walk is taken in the directory
    rw [walk_append] at h
    obtain ⟨k, hk, hlast⟩ := bind_eq_ok_iff.1 h
    have hfind : d.find p = .ok k := by
      rw [find, tooLong_of_extend (Bool.eq_false_iff.2 hlong), if_neg Bool.false_ne_true]
      exact hk
    obtain rfl := eq_placeOf_of_find hfind
    obtain ⟨next, hstep, -⟩ := walk_cons_eq_ok_iff.1 hlast
    exact ⟨hfind, (eq_of_step hstep).1⟩

theorem isDirectory_eq_ok_true_iff :
    d.isDirectory p = .ok true ↔
      hasNul p = false ∧ d.find p = .ok (d.placeOf p) ∧
        d.entryAt? (d.placeOf p) = some .directory := by
  rw [isDirectory, bind_eq_ok_iff]
  have hpure (found : Option Entry) :
      (pure (decide (found = some .directory)) : Except Failure Bool) = .ok true ↔
        found = some .directory :=
    ⟨fun h => of_decide_eq_true (Except.ok.inj h), fun h => congrArg _ (decide_eq_true h)⟩
  constructor
  · rintro ⟨found, hlook, hfound⟩
    obtain rfl := (hpure found).1 hfound
    rw [look] at hlook
    split at hlook
    · cases hlook
    · next hnul =>
      split at hlook
      · next l hfind =>
        obtain rfl := eq_placeOf_of_find hfind
        exact ⟨Bool.eq_false_iff.2 hnul, hfind, Except.ok.inj hlook⟩
      · cases hlook
      · cases hlook
  · rintro ⟨hnul, hfind, hentry⟩
    refine ⟨some .directory, ?_, (hpure _).2 rfl⟩
    rw [look, hnul, if_neg Bool.false_ne_true, hfind, ← hentry]

theorem Grows.isDirectory (h : Grows d e) (hdir : d.isDirectory p = .ok true) :
    e.isDirectory p = .ok true := by
  obtain ⟨hnul, hfind, hentry⟩ := isDirectory_eq_ok_true_iff.1 hdir
  refine isDirectory_eq_ok_true_iff.2 ⟨hnul, ?_, ?_⟩
  · rw [h.placeOf]
    exact h.find hfind
  · rw [h.placeOf]
    exact h.directory _ hentry

/-! ## Files of a directory -/

theorem isFileAt_iff :
    d.isFileAt p = true ↔
      d.find p = .ok (d.placeOf p) ∧ (d.contentAt? (d.placeOf p)).isSome = true := by
  rw [isFileAt]
  rcases hfind : d.find p with fault | l
  · exact ⟨fun h => (nomatch h), fun h => (nomatch h.1)⟩
  · obtain rfl := eq_placeOf_of_find hfind
    rw [contentAt?]
    dsimp only
    rcases d.entryAt? (d.placeOf p) with _ | _ | f <;> simp [isFileEntry]

theorem Grows.isFileAt (h : Grows d e) (hfile : d.isFileAt p = true) : e.isFileAt p = true := by
  obtain ⟨hfind, hcontent⟩ := isFileAt_iff.1 hfile
  refine isFileAt_iff.2 ⟨?_, ?_⟩
  · rw [h.placeOf]
    exact h.find hfind
  · rw [h.placeOf]
    exact h.file _ hcontent

theorem readContent_ne_missing (content : Content) (t : Text) :
    readContent content ≠ .error (.fault .missing t) := by
  cases content with
  | text u => exact nofun
  | bytes bs =>
    rw [readContent]
    split
    · exact nofun
    · exact nofun

/-- A file that is there is not missing, whatever comes of reading it. -/
theorem read_ne_missing {t : Text} (hfile : d.isFileAt p = true) :
    d.read p ≠ .error (.fault .missing t) := by
  obtain ⟨hfind, hcontent⟩ := isFileAt_iff.1 hfile
  obtain ⟨content, hheld⟩ := Option.isSome_iff_exists.1 hcontent
  obtain ⟨file, hentry, -⟩ := contentAt?_eq_some_iff.1 hheld
  rw [read, Disk.file, hfind]
  dsimp only
  rw [hentry]
  split
  · intro h
    cases h
  · exact readContent_ne_missing file.content t

/-- The paths that a pattern for names stands for lead to what stands directly in the directory. -/
theorem mem_select_name {pattern : NamePattern} {q : Path} :
    q ∈ d.select [.name pattern] p ↔
      ∃ f, [f] ∈ d.namesBelow p ∧ pattern.accepts f = true ∧ q = extend p [f] := by
  rw [select, List.isEmpty_nil, if_pos rfl, List.mem_flatMap]
  constructor
  · rintro ⟨reached, hreached, hq⟩
    rw [select, List.mem_singleton] at hq
    obtain ⟨names, hnames, hname⟩ := List.mem_filterMap.1 hreached
    split at hname
    · next f =>
      split at hname
      · next haccepts => exact ⟨f, hnames, haccepts, hq.trans (Option.some.inj hname).symm⟩
      · cases hname
    · cases hname
  · rintro ⟨f, hnames, haccepts, rfl⟩
    refine ⟨extend p [f], List.mem_filterMap.2 ⟨[f], hnames, if_pos haccepts⟩, ?_⟩
    rw [select]
    exact List.mem_singleton_self _

theorem placeOf_extend_singleton (d : Disk) (p : Path) {f : Text} (hf : f ≠ ['.', '.']) :
    d.placeOf (extend p [f]) = d.placeOf p ++ [f] := by
  rw [extend, placeOf_append, placeFrom, List.foldl_cons, if_neg hf]
  rfl

/-- What stands further on from a path is below it. -/
theorem mem_namesBelow_of_entryAt? (hmore : more ≠ []) (hfind : d.find p = .ok (d.placeOf p))
    (hentry : (d.entryAt? (d.placeOf p ++ more)).isSome) : more ∈ d.namesBelow p := by
  obtain ⟨e, he⟩ := Option.isSome_iff_exists.1 hentry
  rw [entryAt?, if_neg (List.append_ne_nil_of_right_ne_nil _ hmore)] at he
  obtain ⟨before, after, hentries, -⟩ := List.lookup_eq_some_iff.1 he
  have hmem : (d.placeOf p ++ more, e) ∈ d.entries := by
    rw [hentries]
    exact List.mem_append_right _ List.mem_cons_self
  rw [namesBelow, hfind]
  refine List.mem_filterMap.2 ⟨_, hmem, ?_⟩
  rw [if_pos]
  · exact congrArg some (List.drop_left ..)
  · refine ⟨List.isPrefixOf_iff_prefix.2 (List.prefix_append _ _), ?_⟩
    simpa using hmore

/-- A file that stands directly in a directory is below it. -/
theorem mem_namesBelow {f : Text} (hf : f ≠ ['.', '.']) (hfind : d.find p = .ok (d.placeOf p))
    (hfile : d.isFileAt (extend p [f]) = true) : [f] ∈ d.namesBelow p := by
  obtain ⟨-, hcontent⟩ := isFileAt_iff.1 hfile
  obtain ⟨c, hc⟩ := Option.isSome_iff_exists.1 hcontent
  obtain ⟨file, hentry, -⟩ := contentAt?_eq_some_iff.1 hc
  rw [placeOf_extend_singleton d p hf] at hentry
  exact mem_namesBelow_of_entryAt? (List.cons_ne_nil f []) hfind (by rw [hentry]; rfl)

/-! ## Names with a suffix -/

theorem someEnd_iff {holds : Text → Bool} {t : Text} :
    someEnd holds t = true ↔ ∃ rest, rest <:+ t ∧ holds rest = true := by
  induction t with
  | nil => simp [someEnd]
  | cons c t ih =>
    rw [someEnd, Bool.or_eq_true, ih]
    constructor
    · rintro (h | ⟨rest, hrest, h⟩)
      · exact ⟨_, List.suffix_refl _, h⟩
      · exact ⟨rest, hrest.trans (List.suffix_cons c t), h⟩
    · rintro ⟨rest, hrest, h⟩
      rcases List.suffix_cons_iff.1 hrest with rfl | hrest
      · exact .inl h
      · exact .inr ⟨rest, hrest, h⟩

/-- A pattern of characters stands for their text. -/
theorem accepts_chars_iff {t u : Text} :
    NamePattern.accepts (t.map .char) u = true ↔ u = t := by
  induction t generalizing u with
  | nil => rw [List.map_nil, NamePattern.accepts, List.isEmpty_iff]
  | cons c t ih =>
    cases u with
    | nil => simp [NamePattern.accepts]
    | cons d u =>
      rw [List.map_cons, NamePattern.accepts, Bool.and_eq_true, ih, List.cons.injEq,
        PatternPiece.acceptsChar, decide_eq_true_eq]
      exact nofun

/-- A star and characters stand for the names that end with the characters. -/
theorem accepts_star_iff {t f : Text} :
    NamePattern.accepts (.star :: t.map .char) f = true ↔ t <:+ f := by
  rw [NamePattern.accepts, someEnd_iff]
  constructor
  · rintro ⟨rest, hrest, haccepts⟩
    rwa [← accepts_chars_iff.1 haccepts]
  · exact fun h => ⟨t, h, accepts_chars_iff.2 rfl⟩

/-- No character of the text stands for others in a pattern. -/
def IsLiteral (t : Text) : Prop := ∀ c ∈ t, c ≠ '*' ∧ c ≠ '?' ∧ c ≠ '['

instance (t : Text) : Decidable (IsLiteral t) := inferInstanceAs (Decidable (∀ c ∈ t, _ ∧ _ ∧ _))

theorem NamePattern.ofText_of_isLiteral {t : Text} (h : IsLiteral t) :
    NamePattern.ofText t = t.map .char := by
  induction t with
  | nil => rw [NamePattern.ofText, List.map_nil]
  | cons c t ih =>
    obtain ⟨⟨hstar, hany, hbracket⟩, hrest⟩ := List.forall_mem_cons.1 h
    rw [NamePattern.ofText.eq_5 c t hstar hany hbracket, ih hrest, List.map_cons]

/-- The pattern of the files with a suffix. -/
theorem PathPattern.ofText_star {t : Text} (h : IsLiteral t) (hslash : '/' ∉ t) :
    PathPattern.ofText ('*' :: t) = .ok [.name (.star :: t.map .char)] := by
  have hstar : '*' ∉ t := fun hmem => (h _ hmem).1 rfl
  have hnoslash : '/' ∉ '*' :: t := by simp [hslash]
  have hnames : (Path.ofText ('*' :: t)).names = ['*' :: t] := by
    show List.filter _ (Text.fields '/' ('*' :: t)) = _
    rw [Text.fields_of_not_mem hnoslash]
    simp
  have hstep : PatternStep.ofText ('*' :: t) = .ok (.name (.star :: t.map .char)) := by
    have htwo : ¬ ['*', '*'] <:+: '*' :: t := by
      intro hinfix
      have hcount := hinfix.sublist.count_le '*'
      simp [List.count_eq_zero_of_not_mem hstar] at hcount
    have hne : '*' :: t ≠ ['*', '*'] := fun heq => htwo (heq ▸ List.infix_refl _)
    rw [PatternStep.ofText, if_neg hne, if_neg (mt Text.contains_eq_true_iff.1 htwo),
      if_pos (by simp), NamePattern.ofText, NamePattern.ofText_of_isLiteral h]
  have hends : Text.endsWith ('*' :: t) ['/'] = false := by
    rw [Bool.eq_false_iff, ne_eq, Text.endsWith_eq_true_iff]
    exact fun hsuffix => hnoslash (hsuffix.subset (List.mem_singleton_self _))
  rw [PathPattern.ofText, hnames, List.mapM_cons, hstep, hends]
  rfl

/-- A text without slashes writes one name, unless it is empty or a dot. -/
theorem child_of_not_mem (p : Path) {f : Text} (h : '/' ∉ f) :
    p.child f = if f = [] ∨ f = ['.'] then p else extend p [f] := by
  have hslashes : Path.leadingSlashes f = 0 := by
    have hhead : f.takeWhile (· = '/') = [] := by
      rw [List.takeWhile_eq_nil_iff]
      intro hpos hslash
      exact h ((of_decide_eq_true hslash) ▸ List.getElem_mem hpos)
    rw [Path.leadingSlashes, hhead]
    rfl
  have hnames : (Path.ofText f).names = [f].filter fun n => n ≠ [] ∧ n ≠ ['.'] := by
    rw [← Text.fields_of_not_mem h]
    rfl
  rw [Path.child, Path.join, Path.isAbsolute, hnames]
  rw [show (Path.ofText f).slashes = 0 from hslashes]
  rw [if_neg (by decide), ← extend]
  split
  · next hdot =>
    have hnone : ([f].filter fun n => n ≠ [] ∧ n ≠ ['.']) = [] := by
      rcases hdot with rfl | rfl <;> rfl
    rw [hnone, extend, List.append_nil]
  · next hplain =>
    have hkept : ([f].filter fun n => n ≠ [] ∧ n ≠ ['.']) = [f] :=
      List.filter_eq_self.2 (List.forall_mem_singleton.2 (decide_eq_true (not_or.1 hplain)))
    rw [hkept]

end Disk

namespace PageDirectory

variable {pages : PageDirectory} {d : Disk} {names : List Text} {name f : Text}

/-- The file with a name that stands in the directory. -/
def fileIn (pages : PageDirectory) (f : Text) : Path := Disk.extend pages.directory [f]

/-- A name without a slash leads to a file of the directory. -/
theorem child_of_not_mem (pages : PageDirectory) (hnil : f ≠ []) (hdot : f ≠ ['.'])
    (h : '/' ∉ f) : pages.directory.child f = pages.fileIn f := by
  rw [Disk.child_of_not_mem pages.directory h, if_neg (not_or.2 ⟨hnil, hdot⟩), fileIn]

theorem ne_dot_of_suffix (h : pageSuffix <:+ f) : f ≠ ['.'] := by
  rintro rfl
  exact absurd h (by decide)

theorem ne_nil_of_suffix (h : pageSuffix <:+ f) : f ≠ [] := by
  rintro rfl
  exact absurd h (by decide)

/-- The file of a page whose name has no slash is a file of the directory. -/
theorem pathOf_of_not_mem (pages : PageDirectory) (h : '/' ∉ name) :
    pages.pathOf name = pages.fileIn (name ++ pageSuffix) := by
  have hsuffix : pageSuffix <:+ name ++ pageSuffix := List.suffix_append name pageSuffix
  have hfile : '/' ∉ name ++ pageSuffix := by
    rw [List.mem_append, not_or]
    exact ⟨h, by decide⟩
  exact pages.child_of_not_mem (ne_nil_of_suffix hsuffix) (ne_dot_of_suffix hsuffix) hfile

theorem ne_parent_of_suffix (h : pageSuffix <:+ f) : f ≠ ['.', '.'] := by
  rintro rfl
  exact absurd h (by decide)

/-- The index has the name of a file. -/
structure HasPlainIndex (pages : PageDirectory) : Prop where
  ne_nil : pages.indexName ≠ []
  no_slash : '/' ∉ pages.indexName
  ne_dot : pages.indexName ≠ ['.']
  ne_parent : pages.indexName ≠ ['.', '.']

theorem HasPlainIndex.indexPath (h : pages.HasPlainIndex) :
    pages.indexPath = pages.fileIn pages.indexName :=
  pages.child_of_not_mem h.ne_nil h.ne_dot h.no_slash

/-- The directory lists a name: it has a file with the suffix of pages whose stem is the name, and that
file does not have the name of the index. -/
def Lists (pages : PageDirectory) (d : Disk) (name : Text) : Prop :=
  d.isDirectory pages.directory = .ok true ∧
    ∃ f, d.isFileAt (pages.fileIn f) = true ∧ pageSuffix <:+ f ∧ f ≠ pages.indexName ∧
      Path.stemOf f = name

/-- A name that is listed is listed once the disk has grown. -/
theorem Lists.grow {e : Disk} (h : pages.Lists d name) (hgrows : Disk.Grows d e) :
    pages.Lists e name := by
  obtain ⟨hdir, f, hfile, hsuffix, hindex, hname⟩ := h
  exact ⟨hgrows.isDirectory hdir, f, hgrows.isFileAt hfile, hsuffix, hindex, hname⟩

theorem name_fileIn (pages : PageDirectory) (f : Text) : (pages.fileIn f).name = f := by
  show (pages.directory.names ++ [f]).getLast?.getD [] = f
  rw [List.getLast?_concat]
  rfl

theorem ofText_pattern :
    Disk.PathPattern.ofText ('*' :: pageSuffix) = .ok [.name (.star :: pageSuffix.map .char)] :=
  Disk.PathPattern.ofText_star (by decide) (by decide)

/-- The files of a directory that are pages. -/
def pageFiles (pages : PageDirectory) (d : Disk) : List Path :=
  ((d.select [.name (.star :: pageSuffix.map .char)] pages.directory).filter d.isFileAt).filter
    fun p => p.name ≠ pages.indexName

theorem names_of_isDirectory (h : d.isDirectory pages.directory = .ok true) :
    pages.names d = .ok (Text.sorted ((pages.pageFiles d).map Path.stem)) := by
  refine bind_eq_ok_iff.2 ⟨true, h, ?_⟩
  rw [ofText_pattern]
  rfl

theorem names_of_not_isDirectory (h : d.isDirectory pages.directory = .ok false) :
    pages.names d = .ok [] := bind_eq_ok_iff.2 ⟨false, h, rfl⟩

/-- The files of a directory that are pages stand in it directly. -/
theorem mem_pageFiles_iff (h : d.isDirectory pages.directory = .ok true) {q : Path} :
    q ∈ pages.pageFiles d ↔
      ∃ f, q = pages.fileIn f ∧ pageSuffix <:+ f ∧ f ≠ pages.indexName ∧
        d.isFileAt (pages.fileIn f) = true := by
  obtain ⟨-, hfind, -⟩ := Disk.isDirectory_eq_ok_true_iff.1 h
  rw [pageFiles, List.mem_filter, List.mem_filter, decide_eq_true_eq]
  constructor
  · rintro ⟨⟨hselect, hfile⟩, hindex⟩
    obtain ⟨f, -, haccepts, rfl⟩ := Disk.mem_select_name.1 hselect
    refine ⟨f, rfl, Disk.accepts_star_iff.1 haccepts, ?_, hfile⟩
    rwa [← fileIn, name_fileIn] at hindex
  · rintro ⟨f, rfl, hsuffix, hindex, hfile⟩
    have hbelow := Disk.mem_namesBelow (ne_parent_of_suffix hsuffix) hfind hfile
    rw [name_fileIn]
    exact ⟨⟨Disk.mem_select_name.2 ⟨f, hbelow, Disk.accepts_star_iff.2 hsuffix, rfl⟩, hfile⟩,
      hindex⟩

/-- **Which names a directory lists.** -/
theorem mem_names_iff (h : pages.names d = .ok names) : name ∈ names ↔ pages.Lists d name := by
  obtain ⟨there, hthere, -⟩ := bind_eq_ok_iff.1 h
  cases there with
  | false =>
    rw [names_of_not_isDirectory hthere] at h
    obtain rfl := Except.ok.inj h
    refine ⟨nofun, fun hlists => ?_⟩
    rw [Lists, hthere] at hlists
    cases hlists.1
  | true =>
    rw [names_of_isDirectory hthere] at h
    obtain rfl := Except.ok.inj h
    rw [Text.sorted, List.mem_mergeSort, List.mem_map]
    constructor
    · rintro ⟨q, hq, rfl⟩
      obtain ⟨f, rfl, hsuffix, hindex, hfile⟩ := (mem_pageFiles_iff hthere).1 hq
      exact ⟨hthere, f, hfile, hsuffix, hindex, by rw [Path.stem, name_fileIn]⟩
    · rintro ⟨-, f, hfile, hsuffix, hindex, rfl⟩
      refine ⟨pages.fileIn f, (mem_pageFiles_iff hthere).2 ⟨f, rfl, hsuffix, hindex, hfile⟩, ?_⟩
      rw [Path.stem, name_fileIn]

/-! ## Pages with a name of their own -/

/-- The stem of the file of a page is the name of the page. -/
theorem stemOf_append_pageSuffix (h : name ≠ []) : Path.stemOf (name ++ pageSuffix) = name := by
  -- the last dot is that of the suffix
  have hend : ((name ++ pageSuffix).reverse.takeWhile (· ≠ '.')).length = 2 := by
    rw [List.reverse_append]
    rfl
  have hlength : (name ++ pageSuffix).length = name.length + 3 := List.length_append
  have hpos := List.length_pos_iff.2 h
  rw [Path.stemOf, hend, hlength, if_neg (by omega)]
  exact List.take_left' (by omega)

/-- A page that stands in the directory is listed, unless it is the index. -/
theorem lists_of_isFileAt (h : name ≠ []) (hindex : name ++ pageSuffix ≠ pages.indexName)
    (hnul : Disk.hasNul pages.directory = false)
    (hfile : d.isFileAt (pages.fileIn (name ++ pageSuffix)) = true) : pages.Lists d name := by
  obtain ⟨hfind, -⟩ := Disk.isFileAt_iff.1 hfile
  exact ⟨Disk.isDirectory_eq_ok_true_iff.2 ⟨hnul, Disk.find_of_find_extend hfind⟩,
    _, hfile, List.suffix_append _ _, hindex, stemOf_append_pageSuffix h⟩

/-- A name that is listed is not that of the index. -/
theorem ne_indexName_of_lists (h : pages.Lists d name) :
    name ++ pageSuffix ≠ pages.indexName ∨ name = pageSuffix := by
  obtain ⟨-, f, -, ⟨stem, rfl⟩, hindex, hname⟩ := h
  by_cases hnil : stem = []
  · rw [hnil] at hname
    exact .inr hname.symm
  · rw [stemOf_append_pageSuffix hnil] at hname
    rw [← hname]
    exact .inl hindex

/-- A name with a slash is listed only when a file has a slash in its name. -/
theorem exists_slash_of_lists (h : pages.Lists d name) (hslash : '/' ∈ name) :
    ∃ f, '/' ∈ f ∧ d.isFileAt (pages.fileIn f) = true := by
  obtain ⟨-, f, hfile, -, -, rfl⟩ := h
  refine ⟨f, ?_, hfile⟩
  rw [Path.stemOf] at hslash
  split at hslash
  · exact hslash
  · exact List.mem_of_mem_take hslash

end PageDirectory

end ComponentBook
