import ComponentBook.Text.Basic

/-! # Lines

A line ends at a line feed, a carriage return, both together, or one of eight further characters
that break lines in some script or form. **`brokenLines`** gives each line with the break that ends
it and loses nothing (`flatten_brokenLines`); **`lines`** gives the lines alone. A file that is read
has its line ends made line feeds by **`unifyNewlines`**. -/

namespace ComponentBook.Text

/-- The characters other than line feed and carriage return that end a line. -/
def isOtherBreak (c : Char) : Bool :=
  c = '\x0b' || c = '\x0c' || c = '\x1c' || c = '\x1d' || c = '\x1e' || c = '\u0085' ||
    c = '\u2028' || c = '\u2029'

/-- A character that ends a line. -/
def isLineBreak (c : Char) : Bool := c = '\n' || c = '\r' || isOtherBreak c

/-- The lines of a text, each with the break that ends it; only the last line can have none. `line`
is the part of the first line already read, last character first. -/
def brokenLinesAfter (line : Text) : Text → List (Text × Text)
  | [] => if line.isEmpty then [] else [(line.reverse, [])]
  | '\r' :: '\n' :: t => (line.reverse, ['\r', '\n']) :: brokenLinesAfter [] t
  | c :: t =>
    if isLineBreak c then (line.reverse, [c]) :: brokenLinesAfter [] t
    else brokenLinesAfter (c :: line) t

/-- The lines of a text, each with the break that ends it. -/
def brokenLines (t : Text) : List (Text × Text) := brokenLinesAfter [] t

/-- The lines of a text without their breaks. -/
def lines (t : Text) : List Text := t.brokenLines.map Prod.fst

theorem flatten_brokenLinesAfter (line t : Text) :
    ((brokenLinesAfter line t).map fun l => l.1 ++ l.2).flatten = line.reverse ++ t := by
  fun_induction brokenLinesAfter line t with
  | case1 line h => simp_all
  | case2 line h => simp
  | case3 line t ih => simp_all
  | case4 line c t _ h ih => simp_all
  | case5 line c t _ h ih => simp_all

/-- Lines and breaks, one after another, are the text. -/
theorem flatten_brokenLines (t : Text) :
    (t.brokenLines.map fun l => l.1 ++ l.2).flatten = t := by
  simp [brokenLines, flatten_brokenLinesAfter]

/-- A text with every carriage return, alone or with a line feed, replaced by a line feed. -/
def unifyNewlines : Text → Text
  | [] => []
  | '\r' :: '\n' :: t => '\n' :: unifyNewlines t
  | c :: t => (if c = '\r' then '\n' else c) :: unifyNewlines t

/-- No carriage return is left. -/
theorem not_mem_unifyNewlines (t : Text) : '\r' ∉ unifyNewlines t := by
  fun_induction unifyNewlines t with
  | case1 => simp
  | case2 t ih => simp_all
  | case3 c t _ ih => split <;> simp_all [eq_comm]

end ComponentBook.Text
