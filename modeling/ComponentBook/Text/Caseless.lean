import ComponentBook.Text.Basic

/-! # Letters without regard to case

The tag and attribute names of a component file are ASCII words read without regard to case. Besides
the capital letters, the dotted and the dotless i count as `i`, the long s as `s` and the kelvin
sign as `k`. **`dropWordCaseless?`** reads such a word at the start of a text. -/

namespace ComponentBook.Text

/-- The small ASCII letter that a character counts as; other characters count as themselves. -/
def plainLetter (c : Char) : Char :=
  if 'A' ≤ c && c ≤ 'Z' then Char.ofNat (c.toNat + 32)
  else if c = 'İ' || c = 'ı' then 'i'
  else if c = 'ſ' then 's'
  else if c = '\u212a' then 'k'
  else c

/-- What follows the word `w` in `t`, letters being compared without regard to case. The word is
written in small letters. -/
def dropWordCaseless? : (w t : Text) → Option Text
  | [], t => some t
  | _ :: _, [] => none
  | a :: w, c :: t => if a = plainLetter c then dropWordCaseless? w t else none

end ComponentBook.Text
