import Mathlib.Data.List.Sort
import ComponentBook.Text.Basic

/-! # The order of texts

Texts are ordered by their code points from the front (`Text.precedes`). The order is total
(`precedes_total`), and no two texts precede each other (`precedes_antisymm`), so a list of texts has
one ascending arrangement: **`sorted_eq_sorted`**. Texts that differ are in that order exactly when one
stands in front of the other in the library's order of lists (**`comesBefore_iff`**). -/

namespace ComponentBook.Text

/-- The order by code points is total. -/
theorem precedes_total (s t : Text) : (precedes s t || precedes t s) = true := by
  induction s generalizing t with
  | nil => simp [precedes]
  | cons a s ih =>
    cases t with
    | nil => simp [precedes]
    | cons b t =>
      by_cases hab : a = b
      · subst hab
        simpa [precedes] using ih t
      · have hne : a.toNat ≠ b.toNat := fun h => hab (Char.toNat_inj.1 h)
        simp only [precedes, if_neg hab, if_neg (Ne.symm hab), Bool.or_eq_true, decide_eq_true_eq]
        omega

/-- No two texts precede each other. -/
theorem precedes_antisymm {s t : Text} (hst : precedes s t = true) (hts : precedes t s = true) :
    s = t := by
  induction s generalizing t with
  | nil =>
    cases t with
    | nil => rfl
    | cons b t => simp [precedes] at hts
  | cons a s ih =>
    cases t with
    | nil => simp [precedes] at hst
    | cons b t =>
      by_cases hab : a = b
      · subst hab
        simp only [precedes, if_true] at hst hts
        rw [ih hst hts]
      · simp only [precedes, if_neg hab, if_neg (Ne.symm hab), decide_eq_true_eq] at hst hts
        omega

theorem precedes_trans {r s t : Text} (hrs : precedes r s = true) (hst : precedes s t = true) :
    precedes r t = true := by
  induction r generalizing s t with
  | nil => simp [precedes]
  | cons a r ih =>
    cases s with
    | nil => simp [precedes] at hrs
    | cons b s =>
      cases t with
      | nil => simp [precedes] at hst
      | cons c t =>
        -- the first place at which two of the texts differ decides
        by_cases hab : a = b
        · subst hab
          by_cases hac : a = c
          · subst hac
            simp only [precedes, if_true] at hrs hst ⊢
            exact ih hrs hst
          · simp only [precedes, if_neg hac] at hst ⊢
            exact hst
        · by_cases hbc : b = c
          · subst hbc
            simp only [precedes, if_neg hab] at hrs ⊢
            exact hrs
          · simp only [precedes, if_neg hab, if_neg hbc, decide_eq_true_eq] at hrs hst
            have hac : a ≠ c := by
              rintro rfl
              omega
            simp only [precedes, if_neg hac, decide_eq_true_eq]
            omega

theorem sorted_pairwise (ts : List Text) : (sorted ts).Pairwise (precedes · · = true) :=
  @List.pairwise_mergeSort Text precedes (fun _ _ _ => precedes_trans) precedes_total ts

/-- Two lists of the same texts have the same ascending arrangement. -/
theorem sorted_eq_sorted {ss ts : List Text} (h : ss.Perm ts) : sorted ss = sorted ts := by
  have hsame : (sorted ss).Perm (sorted ts) :=
    (List.mergeSort_perm ss precedes).trans (h.trans (List.mergeSort_perm ts precedes).symm)
  exact hsame.eq_of_pairwise (fun _ _ _ _ => precedes_antisymm) (sorted_pairwise ss) (sorted_pairwise ts)

theorem mem_sorted {t : Text} {ts : List Text} : t ∈ sorted ts ↔ t ∈ ts := List.mem_mergeSort

/-! ## Strictly ascending texts -/

/-- A text stands in front of another one: the first characters that differ are in the order of their code
points, or the text ends first. -/
def ComesBefore (s t : Text) : Prop := List.Lex (fun a b => a.toNat < b.toNat) s t

theorem comesBefore_iff {s t : Text} : ComesBefore s t ↔ precedes s t = true ∧ s ≠ t := by
  constructor
  · intro h
    induction h with
    | nil => simp [precedes]
    | @cons a s t _ ih => simpa [precedes] using ih
    | @rel a s b t hab =>
      have hne : a ≠ b := by
        rintro rfl
        exact absurd hab (Nat.lt_irrefl _)
      simp [precedes, hne, hab]
  · rintro ⟨hprecedes, hne⟩
    induction s generalizing t with
    | nil =>
      cases t with
      | nil => exact absurd rfl hne
      | cons b t => exact .nil
    | cons a s ih =>
      cases t with
      | nil => simp [precedes] at hprecedes
      | cons b t =>
        by_cases hab : a = b
        · subst hab
          simp only [precedes, if_true] at hprecedes
          exact .cons (ih hprecedes fun hst => hne (congrArg _ hst))
        · simp only [precedes, if_neg hab, decide_eq_true_eq] at hprecedes
          exact .rel hprecedes

theorem ComesBefore.ne {s t : Text} (h : ComesBefore s t) : s ≠ t := (comesBefore_iff.1 h).2

end ComponentBook.Text
