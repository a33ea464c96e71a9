import ComponentBook.Text.Basic

/-! # Ranges of code points

Classes of characters are given as ascending lists of disjoint ranges of code points;
**`inRanges`** looks a code point up. -/

namespace ComponentBook.Text

/-- Whether `n` lies in one of the ascending ranges, the ends included. -/
def inRanges : List (Nat × Nat) → Nat → Bool
  | [], _ => false
  | (first, last) :: ranges, n =>
    if n < first then false else if n ≤ last then true else inRanges ranges n

/-- A code point of the class lies in a range of the list. -/
theorem exists_range_of_inRanges {ranges : List (Nat × Nat)} {n : Nat}
    (h : inRanges ranges n = true) : ∃ r ∈ ranges, r.1 ≤ n ∧ n ≤ r.2 := by
  induction ranges with
  | nil => simp [inRanges] at h
  | cons r ranges ih =>
    obtain ⟨first, last⟩ := r
    rw [inRanges] at h
    split at h
    · simp at h
    · split at h
      · exact ⟨(first, last), by simp, by omega, by omega⟩
      · obtain ⟨r, hr, hb⟩ := ih h
        exact ⟨r, by simp [hr], hb⟩

end ComponentBook.Text
