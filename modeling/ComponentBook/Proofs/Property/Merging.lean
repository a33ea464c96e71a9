import ComponentBook.Property.Basic
import Mathlib.Data.List.Nodup

/-! # How the merge policies hang together

All properties together are the lists one behind the other. Of these the policy for one property a name keeps
those that are the first of their name (**`firstOfEachName_eq_firstOfNames`**): no name is kept twice
(`nodup_names_firstOfEachName`) and none is lost (`mem_names_firstOfEachName`). The policy for one list takes
the first that is not empty (`isFirstFilled_find?`). Together this is **`mergeProperties_consistent`**. -/

namespace ComponentBook

variable {seen : List Text} {ps : List Property} {results : List (List Property)} {name : Text}

/-! ## The first property of each name -/

/-- No property in front of the place `i` has the name. -/
def IsNewAt (ps : List Property) (i : Nat) (name : Text) : Prop := ∀ q ∈ ps.take i, q.name ≠ name

instance (ps : List Property) (i : Nat) (name : Text) : Decidable (IsNewAt ps i name) :=
  inferInstanceAs (Decidable (∀ q ∈ ps.take i, q.name ≠ name))

/-- The properties of a list that are the first of their name, in the order of the list. -/
def firstOfNames (ps : List Property) : List Property :=
  (ps.zipIdx.filter fun (p, i) => IsNewAt ps i p.name).map Prod.fst

theorem isNewAt_zero : IsNewAt ps 0 name := List.forall_mem_nil _

theorem isNewAt_succ {p : Property} {i : Nat} :
    IsNewAt (p :: ps) (i + 1) name ↔ p.name ≠ name ∧ IsNewAt ps i name := by
  rw [IsNewAt, List.take_succ_cons, List.forall_mem_cons, IsNewAt]

theorem firstOfNames_sublist (ps : List Property) : (firstOfNames ps).Sublist ps := by
  have h := (List.filter_sublist (p := fun (p, i) => IsNewAt ps i p.name) (l := ps.zipIdx)).map Prod.fst
  rwa [List.zipIdx_map_fst] at h

/-- What is kept when some names have been seen: the properties that have none of them and are new where they
stand. -/
theorem firstOfEachName_eq (seen : List Text) (ps : List Property) :
    firstOfEachName seen ps =
      (ps.zipIdx.filter fun (p, i) => p.name ∉ seen ∧ IsNewAt ps i p.name).map Prod.fst := by
  -- along the list: a property that has been read is seen by all behind it
  induction ps generalizing seen with
  | nil => rfl
  | cons p ps ih =>
    have hbehind : ((ps.zipIdx.map (Prod.map id (· + 1))).filter
        fun (q, i) => q.name ∉ seen ∧ IsNewAt (p :: ps) i q.name).map Prod.fst =
          firstOfEachName (p.name :: seen) ps := by
      rw [ih, List.filter_map, List.map_map]
      congr 1
      refine List.filter_congr fun (q, i) _ => decide_eq_decide.2 ?_
      show q.name ∉ seen ∧ IsNewAt (p :: ps) (i + 1) q.name ↔ _
      rw [isNewAt_succ, List.mem_cons, not_or, ne_comm]
      exact and_left_comm.trans (and_assoc (a := q.name ≠ p.name)).symm
    rw [firstOfEachName, List.zipIdx_cons', List.filter_cons, List.contains_eq_mem]
    by_cases hseen : p.name ∈ seen
    · -- a name that has been seen before is seen no less for being read again
      have hagain (name : Text) : name ∈ p.name :: seen ↔ name ∈ seen := by
        rw [List.mem_cons, or_iff_right_of_imp fun h => h ▸ hseen]
      rw [if_pos (decide_eq_true hseen), if_neg (by simp [hseen]), hbehind, ih, ih]
      simp only [hagain]
    · rw [if_neg (by simpa using hseen), if_pos (by simp [hseen, isNewAt_zero]), List.map_cons, hbehind]

/-- **Of the properties of each name the first one is kept.** -/
theorem firstOfEachName_eq_firstOfNames (ps : List Property) : firstOfEachName [] ps = firstOfNames ps := by
  simp only [firstOfEachName_eq, firstOfNames, List.not_mem_nil, not_false_eq_true, true_and]

/-- A name is kept when some property has it, unless it has been seen. -/
theorem mem_names_firstOfEachName :
    name ∈ (firstOfEachName seen ps).map (·.name) ↔ name ∉ seen ∧ name ∈ ps.map (·.name) := by
  induction ps generalizing seen with
  | nil => simp [firstOfEachName]
  | cons p ps ih =>
    rw [firstOfEachName, List.contains_eq_mem, List.map_cons, List.mem_cons]
    by_cases hseen : p.name ∈ seen
    · rw [if_pos (decide_eq_true hseen), ih]
      refine and_congr_right fun hnew => (or_iff_right ?_).symm
      rintro rfl
      exact hnew hseen
    · rw [if_neg (by simpa using hseen), List.map_cons, List.mem_cons, ih, List.mem_cons, not_or]
      by_cases hname : name = p.name
      · simp [hname, hseen]
      · simp [hname]

/-- No name is kept twice. -/
theorem nodup_names_firstOfEachName (seen : List Text) (ps : List Property) :
    ((firstOfEachName seen ps).map (·.name)).Nodup := by
  induction ps generalizing seen with
  | nil => exact List.nodup_nil
  | cons p ps ih =>
    rw [firstOfEachName]
    split
    · exact ih seen
    · rw [List.map_cons, List.nodup_cons, mem_names_firstOfEachName]
      exact ⟨fun h => h.1 List.mem_cons_self, ih _⟩

/-! ## The first list that is not empty -/

/-- A list is the first of some lists that is not empty, or it is empty as all of them are. -/
def IsFirstFilled (results : List (List Property)) (ps : List Property) : Prop :=
  (∃ before after, results = before ++ ps :: after ∧ (∀ qs ∈ before, qs = []) ∧ ps ≠ []) ∨
    (∀ qs ∈ results, qs = []) ∧ ps = []

theorem isFirstFilled_find? (results : List (List Property)) :
    IsFirstFilled results ((results.find? fun ps => !ps.isEmpty).getD []) := by
  cases hfind : results.find? fun ps => !ps.isEmpty with
  | none => exact .inr ⟨by simpa using hfind, rfl⟩
  | some ps =>
    obtain ⟨hfilled, before, after, hresults, hbefore⟩ := List.find?_eq_some_iff_append.1 hfind
    exact .inl ⟨before, after, hresults, by simpa using hbefore, by simpa using hfilled⟩

/-- The first list that is not empty starts all lists one behind the other. -/
theorem IsFirstFilled.isPrefix_flatten (h : IsFirstFilled results ps) : ps <+: results.flatten := by
  rcases h with ⟨before, after, rfl, hbefore, -⟩ | ⟨-, rfl⟩
  · rw [List.flatten_append, List.flatten_eq_nil_iff.2 hbefore, List.nil_append, List.flatten_cons]
    exact List.prefix_append ps _
  · exact List.nil_prefix

theorem IsFirstFilled.eq_nil_iff (h : IsFirstFilled results ps) : ps = [] ↔ results.flatten = [] := by
  rcases h with ⟨before, after, rfl, -, hfilled⟩ | ⟨hnone, rfl⟩
  · refine iff_of_false hfilled fun h => hfilled (List.flatten_eq_nil_iff.1 h ps ?_)
    exact List.mem_append_right before List.mem_cons_self
  · exact iff_of_true rfl (List.flatten_eq_nil_iff.2 hnone)

/-! ## The three policies -/

/-- **The policies are consistent.** One gives all lists, one behind the other. One gives those of these
properties that are the first of their name, so that every name is there once. One gives the first list that
is not empty, with which all properties start. -/
theorem mergeProperties_consistent (results : List (List Property)) :
    mergeProperties .concat results = results.flatten ∧
    (mergeProperties .dedupe results = firstOfNames (mergeProperties .concat results) ∧
      (mergeProperties .dedupe results).Sublist (mergeProperties .concat results) ∧
      ((mergeProperties .dedupe results).map (·.name)).Nodup ∧
      ∀ name, name ∈ (mergeProperties .dedupe results).map (·.name) ↔
        name ∈ (mergeProperties .concat results).map (·.name)) ∧
    IsFirstFilled results (mergeProperties .first results) ∧
      mergeProperties .first results <+: mergeProperties .concat results ∧
      (mergeProperties .first results = [] ↔ mergeProperties .concat results = []) := by
  have hdedupe : mergeProperties .dedupe results = firstOfNames (mergeProperties .concat results) :=
    firstOfEachName_eq_firstOfNames results.flatten
  have hfirst : IsFirstFilled results (mergeProperties .first results) := isFirstFilled_find? results
  refine ⟨rfl, ⟨hdedupe, ?_, nodup_names_firstOfEachName [] results.flatten, fun name => ?_⟩,
    hfirst, hfirst.isPrefix_flatten, hfirst.eq_nil_iff⟩
  · rw [hdedupe]
    exact firstOfNames_sublist _
  · exact mem_names_firstOfEachName.trans (and_iff_right List.not_mem_nil)

/-- A name that stands in both lists is kept from the first one. -/
example : (mergeProperties .dedupe [[⟨"a".toList, "x".toList, false, none, [], []⟩],
    [⟨"a".toList, "y".toList, false, none, [], []⟩, ⟨"b".toList, "z".toList, false, none, [], []⟩]]).map
      (·.type) = ["x".toList, "z".toList] := by decide

end ComponentBook
