import ComponentBook.Number.Shortest
import ComponentBook.Text.Lower
import Mathlib.Data.Nat.Log
import Mathlib.Data.Nat.Digits.Defs
import Mathlib.Tactic.IntervalCases

/-! # Numbers as texts and as doubles

A number is written with a digit, a sign, a point or the start of `nan` or `inf` in front
(**`exists_head_signedDecimal`**, **`exists_head_text`**), so that no other word can be taken for one, whatever
the case of its letters (`head?_lower`). A whole number has at most so many digits when it is below a power of
ten (`length_decimal_le_iff`), and it is near to some double when it is below 2¹⁰²⁴ by more than half of the
last step between doubles (**`Double.ofInt?_eq_none_iff`**). -/

namespace ComponentBook

namespace Text

variable {c : Char} {t : Text} {n k : Nat}

/-- The characters with which the text of a number can start. -/
def numberStarts : Text := "0123456789-.ni".toList

theorem lowerChar_of_mem_numberStarts (h : c ∈ numberStarts) : lowerChar c = c := by
  revert c
  decide +kernel

/-- A text in lower case that starts like a number is written so from the start. -/
theorem head?_lower (h : c ∈ numberStarts) : (lower (c :: t)).head? = some c := by
  have hplain : ∀ c ∈ numberStarts, c ≠ 'İ' ∧ c ≠ 'Σ' := by decide
  rw [lower, lowerAfter, if_neg (hplain c h).1, if_neg (hplain c h).2, lowerChar_of_mem_numberStarts h]
  rfl

/-! ## Whole numbers -/

theorem mem_numberStarts_of_isDigit (h : c.isDigit = true) : c ∈ numberStarts := by
  have hbounds : 48 ≤ c.toNat ∧ c.toNat ≤ 57 := by
    rw [Char.isDigit, Bool.and_eq_true, decide_eq_true_eq, decide_eq_true_eq] at h
    exact ⟨UInt32.le_iff_toNat_le.1 h.1, UInt32.le_iff_toNat_le.1 h.2⟩
  rw [← Char.ofNat_toNat c]
  generalize c.toNat = code at hbounds
  obtain ⟨hlow, hhigh⟩ := hbounds
  interval_cases code <;> decide

theorem mem_numberStarts_of_mem_decimal (h : c ∈ decimal n) : c ∈ numberStarts :=
  mem_numberStarts_of_isDigit (Nat.isDigit_of_mem_toDigits (by decide) (by decide) h)

theorem decimal_ne_nil (n : Nat) : decimal n ≠ [] :=
  List.ne_nil_of_length_pos Nat.length_toDigits_pos

/-- How a whole number starts. -/
theorem exists_head_signedDecimal (n : Int) :
    ∃ c t, signedDecimal n = c :: t ∧ c ∈ numberStarts := by
  cases n with
  | ofNat n =>
    obtain ⟨c, t, ht⟩ := List.exists_cons_of_ne_nil (decimal_ne_nil n)
    exact ⟨c, t, ht, mem_numberStarts_of_mem_decimal (ht ▸ List.mem_cons_self)⟩
  | negSucc n => exact ⟨'-', _, rfl, by decide⟩

/-- A number has at most so many digits when it is below that power of ten. -/
theorem length_decimal_le_iff (hk : 0 < k) : (decimal n).length ≤ k ↔ n < 10 ^ k :=
  Nat.length_toDigits_le_iff (by decide) hk

end Text

namespace Double

variable {digits : Text} {power : Int} {n k : Nat} {negative : Bool}

/-! ## Numbers with a point -/

theorem exists_head_append {a b : Text} (ha : ∀ c ∈ a, c ∈ Text.numberStarts)
    (hb : ∃ c t, b = c :: t ∧ c ∈ Text.numberStarts) : ∃ c t, a ++ b = c :: t ∧ c ∈ Text.numberStarts := by
  cases a with
  | nil => exact hb
  | cons c a => exact ⟨c, a ++ b, rfl, ha c List.mem_cons_self⟩

/-- Digits are laid out with one of them in front, or a zero or the point. -/
theorem exists_head_layout (h : ∀ c ∈ digits, c ∈ Text.numberStarts) (power : Int) :
    ∃ c t, layout digits power = c :: t ∧ c ∈ Text.numberStarts := by
  have hzeros (k : Nat) : ∀ c ∈ List.replicate k '0', c ∈ Text.numberStarts := fun c hc => by
    rw [List.eq_of_mem_replicate hc]
    decide
  have htake (k : Nat) : ∀ c ∈ digits.take k, c ∈ Text.numberStarts :=
    fun c hc => h c (List.mem_of_mem_take hc)
  have hpoint (t : Text) : ∃ c u, '.' :: t = c :: u ∧ c ∈ Text.numberStarts := ⟨'.', t, rfl, by decide⟩
  rw [layout]
  split
  · split
    · rw [List.append_assoc]
      exact exists_head_append h (exists_head_append (hzeros _) (hpoint _))
    · split
      · exact exists_head_append (htake _) (hpoint _)
      · exact ⟨'0', _, rfl, by decide⟩
  · rw [List.append_assoc, List.append_assoc]
    by_cases hone : digits.length = 1
    · obtain ⟨c, rfl⟩ := List.length_eq_one_iff.1 hone
      exact ⟨c, _, rfl, h c (List.mem_singleton_self c)⟩
    · rw [if_neg hone]
      exact exists_head_append (htake 1) (hpoint _)

/-- How a number with a point starts. -/
theorem exists_head_text (x : Double) : ∃ c t, x.text = c :: t ∧ c ∈ Text.numberStarts := by
  have hsign (negative : Bool) : ∀ c ∈ (if negative then ['-'] else []), c ∈ Text.numberStarts := by
    cases negative <;> decide
  cases x with
  | undefined => exact ⟨'n', _, rfl, by decide⟩
  | infinite negative => exact exists_head_append (hsign negative) ⟨'i', _, rfl, by decide⟩
  | finite negative m exponent =>
    refine exists_head_append (hsign negative) ?_
    split
    · exact ⟨'0', _, rfl, by decide⟩
    · refine exists_head_layout (fun c hc => ?_) _
      have hkept : c ∈ Text.decimal (shortest m exponent).1 := by
        change c ∈ (Text.decimal (shortest m exponent).1).dropRightWhile (· = '0') at hc
        rw [Text.dropRightWhile, List.mem_reverse] at hc
        exact List.mem_reverse.1 ((List.dropWhile_sublist _).subset hc)
      exact Text.mem_numberStarts_of_mem_decimal hkept

/-! ## Whole numbers as doubles -/

/-- A quotient below a power of two is rounded up to it from half a unit below it on. -/
theorem roundDiv_eq_iff {half : Nat} (hn : n < 2 ^ 53 * (2 * half)) :
    roundDiv n (2 * half) = 2 ^ 53 ↔ 2 ^ 53 * (2 * half) - half ≤ n := by
  have hhalf : 0 < 2 * half := Nat.pos_of_ne_zero fun h => by simp [h] at hn
  have hdiv := Nat.div_add_mod n (2 * half)
  have hmod := Nat.mod_lt n hhalf
  have hquot : n / (2 * half) < 2 ^ 53 := Nat.div_lt_of_lt_mul (by rwa [Nat.mul_comm] at hn)
  rw [roundDiv]
  by_cases hlast : n / (2 * half) = 2 ^ 53 - 1
  · -- the last unit in front of the power: a half goes to the even neighbour, which is the power
    rw [hlast] at hdiv ⊢
    split <;> omega
  · have hbelow : 2 * half * (n / (2 * half)) ≤ 2 * half * (2 ^ 53 - 2) := Nat.mul_le_mul_left _ (by omega)
    split <;> omega

/-- A number of at least 53 binary digits is divided by the power of two that leaves 53 of them. -/
theorem scaleDown_of_log2 {guess : Int} (hguess : guess = n.log2 - (1 : Nat).log2 - 52)
    (h : n.log2 = k + 52) : guess = k ∧ scaleDown n 1 guess = (n, 2 ^ k) := by
  have hk : guess = k := by
    rw [hguess, h, show (1 : Nat).log2 = 0 by decide]
    omega
  refine ⟨hk, ?_⟩
  rw [hk]
  exact congrArg (Prod.mk n) (Nat.one_mul (2 ^ k))

/-- The least whole number that is rounded up to the power of two behind all doubles, in units of the last
step between doubles. -/
theorem pow_sub_pow_eq : 2 ^ 1024 - 2 ^ 970 = 2 ^ 53 * (2 * 2 ^ 970) - 2 ^ 970 := by
  rw [show 2 ^ 53 * (2 * 2 ^ 970) = 2 ^ (53 + (970 + 1)) by rw [pow_add, pow_succ' 2 970]]

theorem pow_le_pow_sub_pow : 2 ^ 53 ≤ 2 ^ 1024 - 2 ^ 970 := by
  have hunit (m : Nat) : 0 < 2 ^ m := Nat.two_pow_pos m
  have hpos := hunit 970
  rw [pow_sub_pow_eq]
  generalize 2 ^ 970 = half at hpos ⊢
  omega

/-- How a whole number compares with the least one that is too large, by the number of its digits. -/
theorem pow_sub_pow_le_iff (hlow : 2 ^ (k + 52) ≤ n) (hhigh : n < 2 ^ (k + 53)) :
    2 ^ 1024 - 2 ^ 970 ≤ n ↔ 971 < k ∨ k = 971 ∧ roundDiv n (2 ^ k) = 2 ^ 53 := by
  have hgreatest (m : Nat) : 2 ^ (971 + m) = 2 ^ m * (2 * 2 ^ 970) := by
    rw [pow_add, pow_succ' 2 970, Nat.mul_comm]
  rw [pow_sub_pow_eq]
  generalize hunit : 2 ^ 970 = half at hgreatest ⊢
  rcases Nat.lt_trichotomy k 971 with hk | rfl | hk
  · have hbelow (m : Nat) (hm : k + 53 ≤ 971 + m) : 2 ^ (k + 53) ≤ 2 ^ m * (2 * half) :=
      hgreatest m ▸ Nat.pow_le_pow_right (by decide) hm
    have hbound := hbelow 52 (by omega)
    refine iff_of_false ?_ ?_ <;> omega
  · have hround : roundDiv n (2 * half) = 2 ^ 53 ↔ 2 ^ 53 * (2 * half) - half ≤ n :=
      roundDiv_eq_iff (by rwa [← hgreatest 53])
    have hunits : 2 ^ 971 = 2 * half := by rw [← hunit, pow_succ' 2 970]
    rw [hunits, hround]
    simp
  · have habove (m : Nat) (hm : 971 + m ≤ k + 52) : 2 ^ m * (2 * half) ≤ 2 ^ (k + 52) :=
      hgreatest m ▸ Nat.pow_le_pow_right (by decide) hm
    have hbound := habove 53 (by omega)
    exact iff_of_true (by omega) (.inl hk)

/-- The power of two with which a whole number is rounded is the greatest or a smaller one, unless the number
is too large. -/
theorem greatestExponent_lt_iff {guess exponent exponent' : Int} {a b c e m' : Nat} (hne : n ≠ 0)
    (hguess : guess = n.log2 - (1 : Nat).log2 - 52) (hab : scaleDown n 1 guess = (a, b))
    (hexponent : exponent = max (if a < b * Nat.pow 2 52 then guess - 1 else guess) leastExponent)
    (hce : scaleDown n 1 exponent = (c, e))
    (hround : (if roundDiv c e = Nat.pow 2 53 then (Nat.pow 2 52, exponent + 1) else (roundDiv c e, exponent))
      = (m', exponent')) : greatestExponent < exponent' ↔ 2 ^ 1024 - 2 ^ 970 ≤ n := by
  have hlow := Nat.log2_self_le hne
  have hhigh := Nat.lt_log2_self (n := n)
  by_cases hdigits : 52 ≤ n.log2
  · -- with 53 binary digits or more the first guess is the exponent
    obtain ⟨k, hk⟩ := Nat.exists_eq_add_of_le' hdigits
    obtain ⟨hguessk, hscale⟩ := scaleDown_of_log2 hguess hk
    rw [hscale] at hab
    obtain ⟨rfl, rfl⟩ := Prod.mk.inj hab
    rw [hk] at hlow hhigh
    have hfull : ¬ n < 2 ^ k * Nat.pow 2 52 := Nat.not_lt.2 (by rwa [Nat.pow_add] at hlow)
    have hexponentk : exponent = k := by
      rw [hexponent, if_neg hfull, hguessk, leastExponent]
      omega
    rw [hexponentk, ← hguessk, hscale] at hce
    obtain ⟨rfl, rfl⟩ := Prod.mk.inj hce
    rw [pow_sub_pow_le_iff hlow hhigh, greatestExponent]
    split at hround
    · next hm =>
      have hm : roundDiv n (2 ^ k) = 2 ^ 53 := hm
      obtain rfl := (Prod.mk.inj hround).2
      omega
    · next hm =>
      have hm : roundDiv n (2 ^ k) ≠ 2 ^ 53 := hm
      obtain rfl := (Prod.mk.inj hround).2
      omega
  · -- a number of fewer digits is far below
    have hbelow : 2 ^ (n.log2 + 1) ≤ 2 ^ 52 := Nat.pow_le_pow_right (by decide) (by omega)
    have hbound := pow_le_pow_sub_pow
    generalize 2 ^ 1024 - 2 ^ 970 = bound at hbound ⊢
    have hexponent0 : exponent ≤ 0 := by
      rw [hexponent, leastExponent]
      rw [show (1 : Nat).log2 = 0 by decide] at hguess
      split <;> omega
    have hsmall : ¬ greatestExponent < exponent' := by
      rw [greatestExponent]
      split at hround
      · rw [← (Prod.mk.inj hround).2]
        omega
      · rw [← (Prod.mk.inj hround).2]
        omega
    exact iff_of_false hsmall (by omega)

/-- **Which whole numbers are near to no double.** -/
theorem ofInt?_eq_none_iff {n : Int} : ofInt? n = none ↔ 2 ^ 1024 - 2 ^ 970 ≤ n.natAbs := by
  rw [ofInt?]
  fun_cases ofFraction (decide (n < 0)) n.natAbs 1 with
  | case1 hzero =>
    refine iff_of_false (Option.some_ne_none _) (Nat.not_le.2 ?_)
    rw [hzero]
    exact Nat.lt_of_lt_of_le (by decide) pow_le_pow_sub_pow
  | case2 hne guess a b hab exponent c e hce m m' exponent' hround hlarge =>
    exact iff_of_true rfl ((greatestExponent_lt_iff hne rfl hab rfl hce hround).1 hlarge)
  | case3 hne guess a b hab exponent c e hce m m' exponent' hround hsmall =>
    exact iff_of_false (Option.some_ne_none _)
      (mt (greatestExponent_lt_iff hne rfl hab rfl hce hround).2 hsmall)

end Double

end ComponentBook
