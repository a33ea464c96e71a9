import ComponentBook.Markdown.Description

/-! # Pages in memory

A store that keeps its pages in memory, in the order in which they were first saved, and the index
beside them. Saving a page makes it the one that is read under its name (`page?_save`) and leaves
every other page as it is (`page?_save_of_ne`). -/

namespace ComponentBook

/-- Pages in memory, each under its name, and the index when it has been saved. -/
structure PageMemory where
  pages : List (Text × Text) := []
  index : Option Text := none
  deriving DecidableEq, Repr

namespace PageMemory

/-- The page that is kept under a name. -/
def page? (m : PageMemory) (name : Text) : Option Text := m.pages.lookup name

/-- A page put under a name: in the place of an earlier page, else at the end. -/
def putPage (name page : Text) : List (Text × Text) → List (Text × Text)
  | [] => [(name, page)]
  | (n, p) :: rest => if name = n then (n, page) :: rest else (n, p) :: putPage name page rest

/-- The pages with one more page saved. -/
def save (m : PageMemory) (name page : Text) : PageMemory :=
  { m with pages := putPage name page m.pages }

/-- The names of the pages, in ascending order. -/
def names (m : PageMemory) : List Text := Text.sorted (m.pages.map Prod.fst)

/-- The pages with the index saved. -/
def saveIndex (m : PageMemory) (index : Text) : PageMemory := { m with index := some index }

theorem lookup_putPage (name page k : Text) (pages : List (Text × Text)) :
    (putPage name page pages).lookup k = if k = name then some page else pages.lookup k := by
  induction pages with
  | nil =>
    by_cases h : k = name
    · simp [putPage, h]
    · have : (k == name) = false := by simp [h]
      simp [putPage, List.lookup_cons, this, h]
  | cons e rest ih =>
    obtain ⟨n, p⟩ := e
    by_cases hn : name = n
    · by_cases hk : k = n
      · simp [putPage, hn, hk]
      · have : (k == n) = false := by simp [hk]
        simp [putPage, List.lookup_cons, hn, hk, this]
    · by_cases hk : k = n
      · subst hk
        simp [putPage, hn, Ne.symm hn]
      · have : (k == n) = false := by simp [hk]
        simp only [putPage, if_neg hn, List.lookup_cons, this, ih]

/-- A saved page is read back. -/
@[simp] theorem page?_save (m : PageMemory) (name page : Text) :
    (m.save name page).page? name = some page := by
  simp [page?, save, lookup_putPage]

/-- Saving a page leaves the others as they are. -/
theorem page?_save_of_ne (m : PageMemory) {name k : Text} (h : k ≠ name) (page : Text) :
    (m.save name page).page? k = m.page? k := by
  simp [page?, save, lookup_putPage, h]

/-- Saving the index leaves the pages as they are. -/
@[simp] theorem pages_saveIndex (m : PageMemory) (index : Text) :
    (m.saveIndex index).pages = m.pages := rfl

end PageMemory

end ComponentBook
