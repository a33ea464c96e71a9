import ComponentBook.Git.Staging
import ComponentBook.Proofs.Source.Membership

/-! # How git is told a file, and where the files lie that it tells

A file that lies in a repository is told by its names from there on, any other file as it is written
(**`Git.TellsFile`**, `tellsFile_nameInRepository`).

The names of staged files lead on from the repository as well. Those that start with the names of the
directory of sources lie below it, as long as they do not lead back
(**`exists_placeOf_of_mem_stagedSources`**): the text that they have to start with is that of the names of the
directory from the repository on (`directoryPrefix_eq`), and the names of the text of names are the names
(`exists_names_ofText`). -/

namespace ComponentBook

open Disk (placeFrom)

namespace Path

theorem below?_eq_some_iff {q p : Path} {names : List Text} :
    below? q p = some names ↔ p.slashes = q.slashes ∧ p.names = q.names ++ names := by
  rw [below?]
  constructor
  · intro h
    split at h
    · next hunder =>
      obtain ⟨rest, hrest⟩ := List.isPrefixOf_iff_prefix.1 hunder.2
      obtain rfl := Option.some.inj h
      rw [← hrest, List.drop_left]
      exact ⟨hunder.1, rfl⟩
    · cases h
  · rintro ⟨hslashes, hnames⟩
    rw [hnames, if_pos ⟨hslashes, List.isPrefixOf_iff_prefix.2 (List.prefix_append _ _)⟩,
      List.drop_left]

/-- Taking each `..` away leads to the place to which following it leads. -/
theorem withoutParents_eq (names : List Text) : withoutParents names = placeFrom [] names := by
  have hreversed (out : List Text) :
      (names.foldl (fun out n => if n = ['.', '.'] then out.tail else n :: out) out).reverse
        = placeFrom out.reverse names := by
    -- along the names, with those that are kept so far in reverse
    induction names generalizing out with
    | nil => rfl
    | cons n names ih =>
      change _ = placeFrom (if n = ['.', '.'] then out.reverse.dropLast else out.reverse ++ [n]) names
      rw [List.foldl_cons, ih]
      split
      · rw [List.dropLast_reverse]
      · rw [List.reverse_cons]
  exact hreversed []

theorem names_resolved (d : Disk) (p : Path) :
    (resolved { slashes := 1, names := d.workingDirectory } p).names = d.placeOf p := by
  rw [resolved, withoutParents_eq, Disk.placeOf, Disk.namesOf, join]
  split <;> rfl

/-- A name that can stand in a path. -/
def IsPathName (name : Text) : Prop := name ≠ [] ∧ name ≠ ['.'] ∧ '/' ∉ name

instance (name : Text) : Decidable (IsPathName name) := inferInstanceAs (Decidable (_ ∧ _ ∧ _))

/-- The path is relative and does not lead back. -/
structure IsForward (p : Path) : Prop where
  relative : p.slashes = 0
  straight : ['.', '.'] ∉ p.names

instance (p : Path) : Decidable p.IsForward :=
  decidable_of_iff (p.slashes = 0 ∧ ['.', '.'] ∉ p.names) ⟨fun h => ⟨h.1, h.2⟩, fun h => ⟨h.1, h.2⟩⟩

variable {names : List Text} {t : Text}

/-- The fields of the text of names are the names. -/
theorem fields_join (h : ∀ name ∈ names, IsPathName name) (hne : names ≠ []) :
    Text.fields '/' (Text.join ['/'] names) = names := by
  have hone : ∀ name ∈ names, Text.fields '/' name = [name] := fun name hname =>
    Text.fields_of_not_mem (h name hname).2.2
  rw [Text.fields_join hne, List.flatMap_congr hone, List.flatMap_singleton']

/-- A text that starts with names and a slash writes a path that starts with them. -/
theorem exists_names_ofText (h : ∀ name ∈ names, IsPathName name) (hne : names ≠ [])
    (ht : Text.join ['/'] names ++ ['/'] <+: t) : ∃ more, (ofText t).names = names ++ more := by
  obtain ⟨rest, rfl⟩ := ht
  have hkept : (names.filter fun n => n ≠ [] ∧ n ≠ ['.']) = names :=
    List.filter_eq_self.2 fun name hname => decide_eq_true ⟨(h name hname).1, (h name hname).2.1⟩
  refine ⟨(Text.fields '/' rest).filter fun n => n ≠ [] ∧ n ≠ ['.'], ?_⟩
  rw [ofText, List.append_assoc, List.singleton_append, Text.fields_append_cons, fields_join h hne,
    List.filter_append, hkept]

end Path

namespace Git

/-- The name under which git is told a file: its names from the repository on when it lies there, else
the file as it is written. -/
structure TellsFile (here root p : Path) (name : Text) : Prop where
  below : ∀ names, (Path.resolved here p).names = (Path.resolved here root).names ++ names →
    name = Path.text { names }
  elsewhere : (∀ names, (Path.resolved here p).names ≠ (Path.resolved here root).names ++ names) →
    name = p.text

theorem tellsFile_nameInRepository (here root : Path) {p : Path} (h : Disk.hasNul p = false) :
    TellsFile here root p (nameInRepository here root p) := by
  rw [nameInRepository, h, if_neg Bool.false_ne_true]
  constructor
  · intro names hnames
    have hbelow : Path.below? (Path.resolved here root) (Path.resolved here p) = some names :=
      Path.below?_eq_some_iff.2 ⟨rfl, hnames⟩
    rw [hbelow]
  · intro hnames
    split
    · next names hbelow => exact absurd (Path.below?_eq_some_iff.1 hbelow).2 (hnames names)
    · rfl

variable {d : Disk} {root directory p : Path} {extension listing t : Text} {names : List Text}

/-- The directory from which relative paths start on a disk. -/
def hereOn (d : Disk) : Path := { slashes := 1, names := d.workingDirectory }

/-- No slash stands at the end of the text of names. -/
theorem dropRightWhile_join (hnames : ∀ name ∈ names, Path.IsPathName name) (hne : names ≠ []) :
    (Text.join ['/'] names).dropRightWhile (· = '/') = Text.join ['/'] names := by
  have hfields := Path.fields_join hnames hne
  rcases List.eq_nil_or_concat (Text.join ['/'] names) with hjoin | ⟨front, c, hjoin⟩
  · rw [hjoin]
    rfl
  rw [List.concat_eq_append] at hjoin
  have hc : c ≠ '/' := by
    rintro rfl
    -- behind the slash there would be an empty name
    rw [hjoin, Text.fields_append_cons] at hfields
    exact (hnames [] (hfields ▸ List.mem_append_right _ (List.mem_singleton_self _))).1 rfl
  rw [hjoin, Text.dropRightWhile, List.reverse_append, List.reverse_singleton, List.singleton_append,
    List.dropWhile_cons_of_neg (by simpa using hc), List.reverse_cons, List.reverse_reverse]

/-- The start of the names of files in a directory of the repository. -/
theorem directoryPrefix_eq (hnul : Disk.hasNul directory = false)
    (hplace : d.placeOf directory = d.placeOf root ++ names) (hnames : ∀ name ∈ names, Path.IsPathName name) :
    directoryPrefix (hereOn d) root directory = Text.join ['/'] names := by
  have hbelow :
      Path.below? (Path.resolved (hereOn d) root) (Path.resolved (hereOn d) directory) = some names := by
    refine Path.below?_eq_some_iff.2 ⟨rfl, ?_⟩
    rw [hereOn, Path.names_resolved, Path.names_resolved, hplace]
  have hname : nameInRepository (hereOn d) root directory = Path.text { names } := by
    rw [nameInRepository, hnul, if_neg Bool.false_ne_true, hbelow]
  rw [directoryPrefix, hname]
  by_cases hnil : names = []
  · subst hnil
    rfl
  have htext : Path.text { names } = Text.join ['/'] names := by
    rw [Path.text, if_neg fun h => hnil h.2]
    rfl
  -- a dot is written for the repository itself, and for nothing below it
  have hdot : Text.join ['/'] names ≠ ['.'] := by
    intro hdot
    have hfields := Path.fields_join hnames hnil
    rw [hdot] at hfields
    exact (hnames _ (hfields ▸ List.mem_singleton_self _)).2.1 rfl
  rw [htext, dropRightWhile_join hnames hnil]
  exact if_neg hdot

/-- A name in a listing, with slashes for backslashes. -/
def slashed (t : Text) : Text := t.map fun c => if c = '\\' then '/' else c

/-- **Where staged sources lie.** A staged source lies below the directory of sources, and its path ends in the
extension, if that is a plain one. -/
theorem exists_placeOf_of_mem_stagedSources (hnul : Disk.hasNul directory = false) {below : List Text}
    (hplace : d.placeOf directory = d.placeOf root ++ below) (hbelow : ∀ name ∈ below, Path.IsPathName name)
    (hlisting : ∀ name ∈ stagedNames listing, (Path.ofText (slashed name)).IsForward)
    (hp : p ∈ stagedSources (hereOn d) root directory extension listing) :
    (∃ names, ['.', '.'] ∉ names ∧ d.placeOf p = d.placeOf directory ++ names) ∧
      (IsPlainExtension extension → extension <:+ p.name) := by
  rw [stagedSources, directoryPrefix_eq hnul hplace hbelow] at hp
  obtain ⟨t, ht, rfl⟩ := List.mem_map.1 hp
  obtain ⟨hlisted, hselected⟩ := List.mem_filter.1 ht
  obtain ⟨name, hname, hslashed⟩ := List.mem_map.1 hlisted
  have hforward : (Path.ofText t).IsForward := hslashed ▸ hlisting name hname
  rw [Bool.and_eq_true, Text.endsWith_eq_true_iff, Bool.or_eq_true, Text.startsWith_eq_true_iff] at hselected
  obtain ⟨⟨u, rfl⟩, hstart⟩ := hselected
  refine ⟨?_, fun hplain => suffix_name_child hplain root u⟩
  -- the names of the staged file go on from those of the directory
  have hnames : ∃ names, (Path.ofText (u ++ extension)).names = below ++ names := by
    by_cases hnil : below = []
    · exact ⟨_, by rw [hnil, List.nil_append]⟩
    · rcases hstart with hempty | hstart
      · have hfields := Path.fields_join hbelow hnil
        rw [List.isEmpty_iff.1 hempty] at hfields
        exact absurd rfl (hbelow [] (hfields ▸ List.mem_singleton_self _)).1
      · exact Path.exists_names_ofText hbelow hnil hstart
  obtain ⟨names, hnames⟩ := hnames
  have hstraight := hforward.straight
  have hchild : root.child (u ++ extension) = Disk.extend root (Path.ofText (u ++ extension)).names := by
    rw [Path.child, Path.join, Path.isAbsolute, hforward.relative]
    rfl
  rw [hchild, Disk.placeOf_extend hstraight]
  rw [hnames] at hstraight ⊢
  exact ⟨names, fun hmem => hstraight (List.mem_append_right _ hmem), by rw [hplace, List.append_assoc]⟩

end Git

end ComponentBook
