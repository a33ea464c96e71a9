import ComponentBook.Proofs.Plan.Conversation
import ComponentBook.Proofs.World.Effects

/-! # Conversations with the surroundings

The surroundings answer a request as they are, or a read, a write or the look for a repository fails and
changes nothing (**`World.Answers`**). A conversation goes on in the surroundings that each answer leaves
(**`World.Converses`**). Every run of a plan is such a conversation (**`exists_converses`**). An exchange
writes no text, or it saves a page or the index (**`answers_cases`**). -/

namespace ComponentBook

/-- A read, a write or a look for a repository that failed. -/
def Exchange.isFailure : Exchange → Bool
  | ⟨.readSource _, .error _⟩ => true
  | ⟨.readPage _, .error _⟩ => true
  | ⟨.savePage _ _, .error _⟩ => true
  | ⟨.pageNames, .error _⟩ => true
  | ⟨.saveIndex _, .error _⟩ => true
  | ⟨.indexTemplate, .error _⟩ => true
  | ⟨.isRepository _, .error _⟩ => true
  | _ => false

namespace World

variable {u v w : World} {x : Exchange} {xs ys : List Exchange} {α : Type}

/-- The surroundings answer a request, or a read, a write or a look for a repository fails and changes
nothing. -/
inductive Answers : World → Exchange → World → Prop
  | answered (w : World) (r : Request) : Answers w ⟨r, (respond r w).1⟩ (respond r w).2
  | failed (w : World) (x : Exchange) (hx : x.isFailure = true) : Answers w x w

/-- A conversation: each exchange takes place in the surroundings that the one before it leaves. -/
inductive Converses : World → List Exchange → World → Prop
  | nil (w : World) : Converses w [] w
  | cons {w u v : World} {x : Exchange} {xs : List Exchange} (first : Answers w x u)
      (rest : Converses u xs v) : Converses w (x :: xs) v

/-- What comes of an exchange. -/
theorem answers_iff {r : Request} {answer : r.Answer} :
    w.Answers ⟨r, answer⟩ v ↔
      respond r w = (answer, v) ∨ Exchange.isFailure ⟨r, answer⟩ = true ∧ v = w := by
  constructor
  · generalize hx : (⟨r, answer⟩ : Exchange) = x
    intro h
    cases h with
    | answered r =>
      cases hx
      exact .inl rfl
    | failed x hfailure =>
      subst hx
      exact .inr ⟨hfailure, rfl⟩
  · rintro (h | ⟨hfailure, rfl⟩)
    · have hanswered := Answers.answered w r
      rw [h] at hanswered
      exact hanswered
    · exact .failed _ _ hfailure

theorem eq_of_answers_pageNames {names : List Text} (h : w.Answers ⟨.pageNames, .ok names⟩ v) :
    w.pageNames = .ok names ∧ v = w := by
  rcases answers_iff.1 h with h | ⟨h, -⟩
  · obtain ⟨hnames, rfl⟩ := Prod.mk.inj h
    exact ⟨hnames, rfl⟩
  · cases h

theorem eq_of_answers_readPage {name : Text} {page : Option Text}
    (h : w.Answers ⟨.readPage name, .ok page⟩ v) : w.readPage name = .ok page ∧ v = w := by
  rcases answers_iff.1 h with h | ⟨h, -⟩
  · obtain ⟨hpage, rfl⟩ := Prod.mk.inj h
    exact ⟨hpage, rfl⟩
  · cases h

theorem eq_of_answers_saveIndex {index : Text} {file : Option Path}
    (h : w.Answers ⟨.saveIndex index, .ok file⟩ v) : w.saveIndex index = (.ok file, v) := by
  rcases answers_iff.1 h with h | ⟨h, -⟩
  · exact h
  · cases h

/-- A conversation after a conversation. -/
theorem converses_append : w.Converses (xs ++ ys) v ↔ ∃ u, w.Converses xs u ∧ u.Converses ys v := by
  constructor
  · intro h
    induction xs generalizing w with
    | nil => exact ⟨w, .nil w, h⟩
    | cons x xs ih =>
      cases h with
      | cons first rest =>
        obtain ⟨u, hxs, hys⟩ := ih rest
        exact ⟨u, .cons first hxs, hys⟩
  · rintro ⟨u, hxs, hys⟩
    induction hxs with
    | nil w => exact hys
    | cons first rest ih => exact .cons first (ih hys)

/-- Each exchange of a conversation takes place in some surroundings. -/
theorem exists_answers_of_mem (h : w.Converses xs v) (hx : x ∈ xs) :
    ∃ a b : World, a.Answers x b := by
  induction h with
  | nil => cases hx
  | cons first rest ih =>
    rcases List.mem_cons.1 hx with rfl | hx
    · exact ⟨_, _, first⟩
    · exact ih hx

/-- The run of a plan is a conversation. -/
theorem exists_converses (w : World) (p : Plan α) :
    ∃ xs, p.Admits xs (w.run p).1 ∧ w.Converses xs (w.run p).2 := by
  induction p generalizing w with
  | done a => exact ⟨[], .done a, .nil w⟩
  | ask r next ih =>
    obtain ⟨xs, hplan, hworld⟩ := ih (respond r w).1 (respond r w).2
    exact ⟨_ :: xs, .ask hplan, .cons (.answered w r) hworld⟩

/-- A plan that is answered as in some surroundings, and changes nothing there, comes to the value that it
has there. -/
theorem run_eq_of_admits {p : Plan α} {a : α} (h : p.Admits xs a)
    (hxs : ∀ x ∈ xs, respond x.request w = (x.answer, w)) : w.run p = (a, w) := by
  -- along the conversation, which always goes on in the same surroundings
  induction h with
  | done a => rfl
  | ask _ ih =>
    have hfirst := hxs _ List.mem_cons_self
    dsimp only at hfirst
    rw [run, Plan.run, hfirst]
    exact ih fun x hx => hxs x (List.mem_cons_of_mem _ hx)

/-! ## What is written -/

/-- What an exchange does: it writes no text, or a page or the index has been saved. -/
theorem answers_cases (h : w.Answers x v) (hpause : x.concern ≠ .pause) :
    Rewrites [] w v ∨
      (∃ name page file, x = ⟨.savePage name page, .ok file⟩ ∧
        w.savePage name page = (.ok file, v)) ∨
      ∃ index file, x = ⟨.saveIndex index, .ok file⟩ ∧ w.saveIndex index = (.ok file, v) := by
  cases h with
  | failed => exact .inl (Rewrites.refl _)
  | answered r =>
    cases r with
    | log record => exact .inl (w.rewrites_tell record)
    | indexTemplate => exact .inl w.rewrites_indexTemplate
    | git directory command => exact .inl (w.rewrites_answerGit directory command)
    | pause seconds => exact absurd rfl hpause
    | savePage name page =>
      -- a page that could not be saved leaves the texts as they are
      rcases hsave : w.savePage name page with ⟨e | file, v⟩
      · have hsame : respond (.savePage name page) w = (.error e, v) := hsave
        rw [hsame]
        exact .inl (rewrites_of_savePage_error hsave)
      · have hsame : respond (.savePage name page) w = (.ok file, v) := hsave
        rw [hsame]
        exact .inr (.inl ⟨name, page, file, rfl, hsave⟩)
    | saveIndex index =>
      rcases hsave : w.saveIndex index with ⟨e | file, v⟩
      · have hsame : respond (.saveIndex index) w = (.error e, v) := hsave
        rw [hsame]
        exact .inl (rewrites_of_saveIndex_error hsave)
      · have hsame : respond (.saveIndex index) w = (.ok file, v) := hsave
        rw [hsame]
        exact .inr (.inr ⟨index, file, rfl, hsave⟩)
    | _ => exact .inl (Rewrites.refl _)

/-- An exchange that saves nothing writes no text. -/
theorem rewrites_of_answers (h : w.Answers x v) (hpage : x.savesPage = false)
    (hindex : x.savesIndex = false) (hpause : x.concern ≠ .pause) : Rewrites [] w v := by
  rcases answers_cases h hpause with
    hrewrites | ⟨name, page, file, rfl, -⟩ | ⟨index, file, rfl, -⟩
  · exact hrewrites
  · cases hpage
  · cases hindex

/-- A conversation that saves nothing writes no text. -/
theorem rewrites_of_converses (h : w.Converses xs v)
    (hxs : ∀ x ∈ xs, x.savesPage = false ∧ x.savesIndex = false ∧ x.concern ≠ .pause) :
    Rewrites [] w v := by
  induction h with
  | nil w => exact Rewrites.refl w
  | cons first rest ih =>
    obtain ⟨hpage, hindex, hpause⟩ := hxs _ List.mem_cons_self
    have hfirst := rewrites_of_answers first hpage hindex hpause
    exact hfirst.trans (ih fun x hx => hxs x (List.mem_cons_of_mem _ hx))

end World

end ComponentBook
