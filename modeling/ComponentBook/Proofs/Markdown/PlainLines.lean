import ComponentBook.Proofs.Markdown.DescriptionReading
import ComponentBook.Proofs.Markdown.LaidLines
import Mathlib.Data.List.Forall2

/-! # Plain lines in the layout

The layout makes one line of every plain line. **`LaidAs`** lists what that line can be: the line
itself, a row with a pipe at its end, or the end of a fence in its short form. In each case it is
plain again and opens a section exactly when the line does. -/

namespace ComponentBook.Markdown

open Text (isFilled IsPlain)

/-- What the layout makes of a plain line. -/
inductive LaidAs (line : Text) : Text → Prop
  /-- The line stays as it is. -/
  | same : LaidAs line line
  /-- A row of a table ends in a pipe. -/
  | row (h : line.head? = some '|') : LaidAs line (closeRow line)
  /-- The end of a fence is three backquotes. -/
  | fence (h : closesFence line = true) : LaidAs line fence

theorem isPlain_fence : IsPlain fence where
  filled := rfl
  strip_eq := rfl
  no_break := Text.no_break_of_all rfl

/-- A line that closes a fence starts with a backquote. -/
theorem head?_of_opensFence {line : Text} (hl : IsPlain line) (h : opensFence line = true) :
    line.head? = some Script.backquote := by
  rw [opensFence, hl.strip_eq] at h
  obtain ⟨rest, rfl⟩ := List.isPrefixOf_iff_prefix.1 h
  rfl

theorem isPlain_closeRow {line : Text} (hl : IsPlain line) : IsPlain (closeRow line) := by
  rw [closeRow]
  split
  · refine ⟨?_, Text.strip_eq_self (fun c hc => ?_) (fun c hc => ?_),
      List.forall_mem_append.2 ⟨hl.no_break, Text.no_break_of_all rfl⟩⟩
    · rw [isFilled, Text.allBlank, List.all_append]
      simp only [List.all_cons, List.all_nil, Bool.and_true]
      rw [show Text.isBlank '|' = false from rfl, Bool.and_false, Bool.and_false]
      rfl
    · rw [List.head?_append_of_ne_nil _ hl.ne_nil] at hc
      exact hl.head?_not_blank hc
    · rw [List.getLast?_append_of_ne_nil _ (by simp)] at hc
      cases hc
      rfl
  · exact hl

/-- What a plain line becomes is plain. -/
theorem LaidAs.isPlain {line laid : Text} (h : LaidAs line laid) (hl : IsPlain line) :
    IsPlain laid := by
  cases h with
  | same => exact hl
  | row => exact isPlain_closeRow hl
  | fence => exact isPlain_fence

theorem opensSection_eq_false_of_head? {line : Text} {c : Char} (h : line.head? = some c)
    (hc : c ≠ '#') : opensSection line = false := by
  obtain ⟨rest, rfl⟩ := List.head?_eq_some_iff.1 h
  rw [opensSection, Text.startsWith, Bool.eq_false_iff, ne_eq, List.isPrefixOf_iff_prefix]
  rintro ⟨tail, htail⟩
  exact hc (List.cons.inj htail).1.symm

theorem head?_closeRow {line : Text} (h : line.head? = some '|') :
    (closeRow line).head? = some '|' := by
  obtain ⟨rest, rfl⟩ := List.head?_eq_some_iff.1 h
  rw [closeRow]
  split <;> rfl

/-- A row that ends in a pipe stays as it is. -/
theorem closeRow_closeRow (row : Text) : closeRow (closeRow row) = closeRow row := by
  by_cases hopen : (!row.endsWith ['|'] || row.endsWith ['\\', '|']) = true
  · have hend : (row ++ [' ', '|']).endsWith ['|'] = true ∧
        (row ++ [' ', '|']).endsWith ['\\', '|'] = false := by
      simp [Text.endsWith, List.isSuffixOf, List.isPrefixOf]
    rw [closeRow, closeRow, if_pos hopen, hend.1, hend.2]
    rfl
  · rw [closeRow, closeRow, if_neg hopen, if_neg hopen]

/-- What a plain line becomes looks like a section exactly when the line does. -/
theorem LaidAs.opensSection_eq {line laid : Text} (h : LaidAs line laid) (hl : IsPlain line) :
    opensSection laid = opensSection line := by
  cases h with
  | same => rfl
  | row hrow =>
    rw [opensSection_eq_false_of_head? hrow (by decide),
      opensSection_eq_false_of_head? (head?_closeRow hrow) (by decide)]
  | fence hcloses =>
    have hopens : opensFence line = true := by
      rw [closesFence, Bool.and_eq_true] at hcloses
      exact hcloses.1
    rw [opensSection_eq_false_of_head? (head?_of_opensFence hl hopens) (by decide)]
    rfl

/-- A plain line is not blank to the layout. -/
theorem kind_ne_blank {line : Text} (hl : IsPlain line) : LineKind.of line ≠ .blank := by
  rw [LineKind.of, hl.strip_eq]
  cases line with
  | nil => exact absurd rfl hl.ne_nil
  | cons c line => split <;> grind

theorem head?_of_row {line : Text} (hl : IsPlain line) (h : LineKind.of line = .row) :
    line.head? = some '|' := by
  rw [LineKind.of, hl.strip_eq] at h
  cases line with
  | nil => exact absurd rfl hl.ne_nil
  | cons c line => grind

theorem stripRight_eq_self {line : Text} (hl : IsPlain line) : line.stripRight = line := by
  rw [Text.stripRight_eq_rdropWhile, List.rdropWhile_eq_self_iff]
  intro hne
  simp [hl.getLast?_not_blank (List.getLast?_eq_some_getLast hne)]

/-- What a plain line becomes outside fences. -/
def laidLine (line : Text) : Text := if LineKind.of line = .row then closeRow line else line

/-- Outside fences a plain line becomes one line. -/
theorem layLine_false_of_plain {line : Text} (hl : IsPlain line) :
    (layLine false line).2 = [laidLine line] := by
  rw [layLine, laidLine, hl.strip_eq, stripRight_eq_self hl]
  cases hkind : LineKind.of line with
  | blank => exact absurd hkind (kind_ne_blank hl)
  | fence => rfl
  | heading => rfl
  | row => rfl
  | prose => rfl

theorem laidAs_laidLine {line : Text} (hl : IsPlain line) : LaidAs line (laidLine line) := by
  rw [laidLine]
  split
  · next hrow => exact .row (head?_of_row hl hrow)
  · exact .same

/-- A plain line becomes one line, inside a fence and outside. -/
theorem exists_layLine_eq (inFence : Bool) {line : Text} (hl : IsPlain line) :
    ∃ laid, (layLine inFence line).2 = [laid] ∧ LaidAs line laid := by
  cases inFence with
  | true =>
    rw [layLine]
    by_cases hcloses : closesFence line = true
    · exact ⟨fence, by rw [if_pos hcloses], .fence hcloses⟩
    · exact ⟨line, by rw [if_neg hcloses], .same⟩
  | false => exact ⟨laidLine line, layLine_false_of_plain hl, laidAs_laidLine hl⟩

/-- Plain lines become as many lines, each what its own line becomes. -/
theorem forall₂_layLines (inFence : Bool) {ls : List Text} (h : ∀ l ∈ ls, IsPlain l) :
    List.Forall₂ LaidAs ls (layLines inFence ls).2 := by
  induction ls generalizing inFence with
  | nil => exact .nil
  | cons l ls ih =>
    obtain ⟨laid, hlaid, has⟩ := exists_layLine_eq inFence (h l List.mem_cons_self)
    rw [layLines_cons, hlaid]
    exact .cons has (ih _ fun m hm => h m (List.mem_cons_of_mem l hm))

/-- What plain lines become are plain lines. -/
theorem isPlain_of_mem_layLines (inFence : Bool) {ls : List Text} (h : ∀ l ∈ ls, IsPlain l) :
    ∀ laid ∈ (layLines inFence ls).2, IsPlain laid := by
  induction ls generalizing inFence with
  | nil => simp
  | cons l ls ih =>
    have hl := h l List.mem_cons_self
    obtain ⟨laid, hlaid, has⟩ := exists_layLine_eq inFence hl
    rw [layLines_cons, hlaid]
    intro k hk
    rcases List.mem_cons.1 hk with rfl | hk
    · exact has.isPlain hl
    · exact ih _ (fun m hm => h m (List.mem_cons_of_mem l hm)) k hk

end ComponentBook.Markdown
