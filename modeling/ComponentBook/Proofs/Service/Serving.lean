import Mathlib.Logic.Function.Basic
import ComponentBook.Proofs.World.Pages

/-! # Requests served together

Requests that are served at the same time share their surroundings, and each has an index template of its
own, which it has loaded itself (**`State`**). They ask one at a time, in whatever order, and are answered
in the surroundings that the others leave (**`Serves`**). What one of them asks, in its order, is given by
**`turnsOf`**. Every list of turns comes to such exchanges (**`takeTurns`**, **`serves_takeTurns`**), and a
request that is finished by then has had a conversation of its plan (**`admits_takeTurns`**). -/

namespace ComponentBook.Service

/-- What requests share, and what each of them has for itself. -/
structure State (ι : Type) where
  /-- The surroundings. Their index template belongs to the request that had the last turn. -/
  world : World
  /-- The index template that a request has loaded. -/
  templates : ι → Option LoadedTemplate

variable {ι α : Type} {i j : ι} {x : Exchange} {xs : List Exchange} {ys zs : List (ι × Exchange)}

/-- The surroundings of a request. -/
def State.worldOf (σ : State ι) (i : ι) : World := σ.world.withTemplate (σ.templates i)

/-- Which exchanges may take place in which surroundings. -/
abbrev Permission := World → Exchange → Prop

/-- Every exchange is allowed. -/
def anything : Permission := fun _ _ => True

variable [DecidableEq ι] {allowed : Permission} {σ τ ρ : State ι}

/-- The state after a request has had its turn. -/
def State.after (σ : State ι) (i : ι) (u : World) : State ι where
  world := u
  templates := Function.update σ.templates i u.template

/-- Exchanges of requests, one after another, each in the surroundings that the one before it leaves. -/
inductive Serves (allowed : Permission) : State ι → List (ι × Exchange) → State ι → Prop
  | nil (σ : State ι) : Serves allowed σ [] σ
  | cons {σ τ : State ι} {i : ι} {x : Exchange} {u : World} {zs : List (ι × Exchange)}
      (allow : allowed σ.world x) (answers : (σ.worldOf i).Answers x u)
      (rest : Serves allowed (σ.after i u) zs τ) : Serves allowed σ ((i, x) :: zs) τ

/-- What one of the requests asks and hears. -/
def turnsOf (i : ι) (zs : List (ι × Exchange)) : List Exchange :=
  zs.filterMap fun z => if z.1 = i then some z.2 else none

@[simp] theorem turnsOf_nil (i : ι) : turnsOf i [] = [] := rfl

@[simp] theorem turnsOf_cons_self (i : ι) (x : Exchange) (zs : List (ι × Exchange)) :
    turnsOf i ((i, x) :: zs) = x :: turnsOf i zs := by
  simp [turnsOf]

theorem turnsOf_cons_of_ne (h : j ≠ i) (x : Exchange) (zs : List (ι × Exchange)) :
    turnsOf i ((j, x) :: zs) = turnsOf i zs := by
  simp [turnsOf, h]

@[simp] theorem turnsOf_append (i : ι) (ys zs : List (ι × Exchange)) :
    turnsOf i (ys ++ zs) = turnsOf i ys ++ turnsOf i zs := List.filterMap_append

theorem mem_turnsOf : x ∈ turnsOf i zs ↔ (i, x) ∈ zs := by
  rw [turnsOf, List.mem_filterMap]
  constructor
  · rintro ⟨⟨j, y⟩, hmem, hy⟩
    rw [Option.ite_none_right_eq_some] at hy
    obtain ⟨rfl, hy⟩ := hy
    obtain rfl := Option.some.inj hy
    exact hmem
  · exact fun hmem => ⟨_, hmem, if_pos rfl⟩

namespace Serves

theorem append_iff :
    Serves allowed σ (ys ++ zs) τ ↔ ∃ ρ, Serves allowed σ ys ρ ∧ Serves allowed ρ zs τ := by
  constructor
  · intro h
    induction ys generalizing σ with
    | nil => exact ⟨σ, .nil σ, h⟩
    | cons y ys ih =>
      cases h with
      | cons allow answers rest =>
        obtain ⟨ρ, hys, hzs⟩ := ih rest
        exact ⟨ρ, .cons allow answers hys, hzs⟩
  · rintro ⟨ρ, hys, hzs⟩
    induction hys with
    | nil => exact hzs
    | cons allow answers _ ih => exact .cons allow answers (ih hzs)

/-- Every exchange takes place in some state. -/
theorem exists_of_mem (h : Serves allowed σ zs τ) (hmem : (i, x) ∈ zs) :
    ∃ ys zs' ρ u, zs = ys ++ (i, x) :: zs' ∧ Serves allowed σ ys ρ ∧ allowed ρ.world x ∧
      (ρ.worldOf i).Answers x u ∧ Serves allowed (ρ.after i u) zs' τ := by
  obtain ⟨ys, zs', rfl⟩ := List.append_of_mem hmem
  obtain ⟨ρ, hys, hrest⟩ := append_iff.1 h
  cases hrest with
  | cons allow answers rest => exact ⟨ys, zs', ρ, _, rfl, hys, allow, answers, rest⟩

/-- What every exchange keeps is kept. -/
theorem inv {P : World → Prop} (h : Serves allowed σ zs τ)
    (hstep : ∀ z ∈ zs, ∀ u v template, P u → allowed u z.2 →
      (u.withTemplate template).Answers z.2 v → P v)
    (hinv : P σ.world) : P τ.world := by
  induction h with
  | nil => exact hinv
  | cons allow answers _ ih =>
    refine ih (fun z hz => hstep z (List.mem_cons_of_mem _ hz)) ?_
    exact hstep _ List.mem_cons_self _ _ _ hinv allow answers

/-- Exchanges that save no page leave the pages as they are. -/
theorem keepsPages (h : Serves allowed σ zs τ) (hzs : ∀ z ∈ zs, z.2.savesPage = false) :
    Serves World.KeepsPages σ zs τ := by
  induction h with
  | nil σ => exact .nil σ
  | cons _ answers _ ih =>
    refine .cons (fun name page file hx => ?_) answers
      (ih fun z hz => hzs z (List.mem_cons_of_mem _ hz))
    have hnone := hzs _ List.mem_cons_self
    dsimp only at hnone
    rw [hx] at hnone
    cases hnone

/-- The pages stay as long as every page that is saved is there already. -/
theorem steady (h : Serves World.KeepsPages σ zs τ) (hpause : ∀ z ∈ zs, z.2.concern ≠ .pause) :
    World.Steady σ.world τ.world := by
  refine h.inv (P := World.Steady σ.world) (fun z hz u v template hu hkeeps hanswers => ?_)
    (World.Steady.refl _)
  have hkeeps : (u.withTemplate template).KeepsPages z.2 := hkeeps
  exact hu.trans (World.steady_of_answers hanswers hkeeps (hpause z hz)).of_withTemplate

end Serves

/-! ## Turns -/

/-- Requests have turns in the order of a list: in each turn one of them asks for one thing, unless it is
finished. What comes of it are the exchanges, what is left of the plans, and the state. -/
def takeTurns : List ι → (ι → Plan α) → State ι → List (ι × Exchange) × (ι → Plan α) × State ι
  | [], plans, σ => ([], plans, σ)
  | i :: is, plans, σ =>
    match plans i with
    | .done _ => takeTurns is plans σ
    | .ask r next =>
      let answered := World.respond r (σ.worldOf i)
      let rest := takeTurns is (Function.update plans i (next answered.1)) (σ.after i answered.2)
      ((i, ⟨r, answered.1⟩) :: rest.1, rest.2)

/-- Turns of requests are exchanges of requests. -/
theorem serves_takeTurns (is : List ι) (plans : ι → Plan α) (σ : State ι) :
    Serves anything σ (takeTurns is plans σ).1 (takeTurns is plans σ).2.2 := by
  induction is generalizing plans σ with
  | nil => exact .nil σ
  | cons i is ih =>
    rw [takeTurns]
    split
    · exact ih plans σ
    · next r next _ => exact .cons True.intro (.answered _ r) (ih _ _)

/-- A request that is finished has had a conversation of its plan. -/
theorem admits_takeTurns {is : List ι} {plans : ι → Plan α} {a : α}
    (h : (takeTurns is plans σ).2.1 i = .done a) :
    (plans i).Admits (turnsOf i (takeTurns is plans σ).1) a := by
  induction is generalizing plans σ with
  | nil =>
    rw [show plans i = .done a from h]
    exact .done a
  | cons j is ih =>
    rw [takeTurns] at h ⊢
    split at h
    · exact ih h
    · next r next hplan =>
      have hrest := ih h
      -- what is left of the plan of `i` changes in the turns of `i` only
      by_cases hj : j = i
      · subst hj
        rw [Function.update_self] at hrest
        rw [hplan]
        dsimp only
        rw [turnsOf_cons_self]
        exact .ask hrest
      · rw [Function.update_of_ne (Ne.symm hj)] at hrest
        dsimp only
        rw [turnsOf_cons_of_ne hj]
        exact hrest

/-- A plan of which nothing is left to do. -/
def isDone : Plan α → Bool
  | .done _ => true
  | .ask _ _ => false

theorem exists_eq_done {p : Plan α} (h : isDone p = true) : ∃ a, p = .done a := by
  cases p with
  | done a => exact ⟨a, rfl⟩
  | ask r next => cases h

/-- Turns after turns. -/
theorem takeTurns_append (is js : List ι) (plans : ι → Plan α) (σ : State ι) :
    takeTurns (is ++ js) plans σ =
      let front := takeTurns is plans σ
      let rest := takeTurns js front.2.1 front.2.2
      (front.1 ++ rest.1, rest.2) := by
  induction is generalizing plans σ with
  | nil => rfl
  | cons i is ih =>
    rw [List.cons_append, takeTurns, takeTurns]
    split
    · exact ih plans σ
    · dsimp only
      rw [ih]
      rfl

end ComponentBook.Service
