import ComponentBook.Plan.Basic

/-! # Conversations

Run by whomever, a plan asks for one thing after another and goes on with each answer. An
**`Exchange`** is a request with the answer to it, and **`Plan.Admits`** says that a plan comes to a
value by a conversation, whatever the answers are. The conversation of one plan after another is one
conversation after the other (**`admits_bind`**); a plan that can fail ends where it fails
(**`attempts_bind`**). What an exchange is about is its **`Exchange.concern`**. -/

namespace ComponentBook

/-- A request and the answer to it. -/
structure Exchange where
  request : Request
  answer : request.Answer

/-- What an exchange can be about. -/
inductive Concern where
  /-- A record of the log. -/
  | record
  /-- The sources. -/
  | source
  /-- A page that is there. -/
  | page
  /-- A page to be saved. -/
  | newPage
  /-- The index, and what it is made of. -/
  | index
  /-- The repository, and git. -/
  | repository
  /-- The time in which others change files. -/
  | pause
  deriving DecidableEq, Repr

namespace Exchange

variable {x : Exchange}

/-- What an exchange is about. -/
def concern : Exchange → Concern
  | ⟨.log _, _⟩ => .record
  | ⟨.readSource _, _⟩ => .source
  | ⟨.readPage _, _⟩ => .page
  | ⟨.savePage _ _, _⟩ => .newPage
  | ⟨.pageNames, _⟩ => .index
  | ⟨.indexTemplate, _⟩ => .index
  | ⟨.saveIndex _, _⟩ => .index
  | ⟨.isRepository _, _⟩ => .repository
  | ⟨.workingDirectory, _⟩ => .repository
  | ⟨.git _ _, _⟩ => .repository
  | ⟨.pause _, _⟩ => .pause
  | _ => .source

/-- The source that is read. -/
def source? : Exchange → Option Path
  | ⟨.readSource path, _⟩ => some path
  | _ => none

/-- The git command that is given, and the directory in which it is given. -/
def command? : Exchange → Option (Path × Git.Command)
  | ⟨.git directory command, _⟩ => some (directory, command)
  | _ => none

/-- A git command has failed. -/
def failsCommand : Exchange → Bool
  | ⟨.git _ _, .error _⟩ => true
  | _ => false

/-- The look for a repository has failed. -/
def failsLook : Exchange → Bool
  | ⟨.isRepository _, .error _⟩ => true
  | _ => false

/-- The names of the pages are asked for. -/
def listsPages : Exchange → Bool
  | ⟨.pageNames, _⟩ => true
  | _ => false

/-- A page has been saved. -/
def savesPage : Exchange → Bool
  | ⟨.savePage _ _, .ok _⟩ => true
  | _ => false

/-- The index has been saved. -/
def savesIndex : Exchange → Bool
  | ⟨.saveIndex _, .ok _⟩ => true
  | _ => false

theorem source?_eq_none (h : x.concern ≠ .source) : x.source? = none := by
  obtain ⟨r, answer⟩ := x
  cases r with
  | readSource path => exact absurd rfl h
  | _ => rfl

theorem command?_eq_none (h : x.concern ≠ .repository) : x.command? = none := by
  obtain ⟨r, answer⟩ := x
  cases r with
  | git directory command => exact absurd rfl h
  | _ => rfl

theorem failsCommand_eq_false (h : x.concern ≠ .repository) : x.failsCommand = false := by
  obtain ⟨r, answer⟩ := x
  cases r with
  | git directory command => exact absurd rfl h
  | _ => rfl

theorem failsLook_eq_false (h : x.concern ≠ .repository) : x.failsLook = false := by
  obtain ⟨r, answer⟩ := x
  cases r with
  | isRepository root => exact absurd rfl h
  | _ => rfl

theorem listsPages_eq_false (h : x.concern ≠ .index) : x.listsPages = false := by
  obtain ⟨r, answer⟩ := x
  cases r with
  | pageNames => exact absurd rfl h
  | _ => rfl

theorem savesPage_eq_false (h : x.concern ≠ .newPage) : x.savesPage = false := by
  obtain ⟨r, answer⟩ := x
  cases r with
  | savePage name page => exact absurd rfl h
  | _ => rfl

theorem savesIndex_eq_false (h : x.concern ≠ .index) : x.savesIndex = false := by
  obtain ⟨r, answer⟩ := x
  cases r with
  | saveIndex index => exact absurd rfl h
  | _ => rfl

end Exchange

namespace Plan

variable {α β : Type} {b : β} {xs : List Exchange}

/-- A plan comes to a value by a conversation. -/
inductive Admits : Plan α → List Exchange → α → Prop
  | done (a : α) : Admits (.done a) [] a
  | ask {r : Request} {next : r.Answer → Plan α} {answer : r.Answer} {xs : List Exchange} {a : α}
      (rest : Admits (next answer) xs a) : Admits (.ask r next) (⟨r, answer⟩ :: xs) a

theorem admits_pure {a c : α} : (pure a : Plan α).Admits xs c ↔ xs = [] ∧ c = a := by
  constructor
  · rintro ⟨⟩
    exact ⟨rfl, rfl⟩
  · rintro ⟨rfl, rfl⟩
    exact .done _

/-- A plan that asks for one thing. -/
theorem admits_request {r : Request} {answer : r.Answer} :
    (request r).Admits xs answer ↔ xs = [⟨r, answer⟩] := by
  constructor
  · intro h
    cases h with
    | ask rest =>
      cases rest
      rfl
  · rintro rfl
    exact .ask (.done answer)

/-- The conversation of a plan after a plan. -/
theorem admits_bind {p : Plan α} {f : α → Plan β} :
    (p >>= f).Admits xs b ↔
      ∃ a ys zs, p.Admits ys a ∧ (f a).Admits zs b ∧ xs = ys ++ zs := by
  constructor
  · intro h
    change (p.bind f).Admits xs b at h
    -- along the first plan, which asks before the second one
    induction p generalizing xs with
    | done a => exact ⟨a, [], xs, .done a, h, rfl⟩
    | ask r next ih =>
      cases h with
      | ask rest =>
        obtain ⟨a, ys, zs, hys, hzs, rfl⟩ := ih _ rest
        exact ⟨a, _ :: ys, zs, .ask hys, hzs, rfl⟩
  · rintro ⟨a, ys, zs, hys, hzs, rfl⟩
    change (p.bind f).Admits (ys ++ zs) b
    induction hys with
    | done a => exact hzs
    | ask rest ih => exact .ask (ih hzs)

/-- A plan that asks for one thing and goes on with the answer. -/
theorem admits_request_bind {r : Request} {f : r.Answer → Plan β} :
    (request r >>= f).Admits xs b ↔ ∃ answer ys, xs = ⟨r, answer⟩ :: ys ∧ (f answer).Admits ys b := by
  rw [admits_bind]
  constructor
  · rintro ⟨answer, ys, zs, hasked, hrest, rfl⟩
    obtain rfl := admits_request.1 hasked
    exact ⟨answer, zs, rfl, hrest⟩
  · rintro ⟨answer, ys, rfl, hrest⟩
    exact ⟨answer, _, ys, admits_request.2 rfl, hrest, rfl⟩

/-- A record that is told is one exchange. -/
theorem admits_tell {level : Log.Level} {part : String} {message : Text} {u : Unit} :
    (tell level part message).Admits xs u ↔ xs = [⟨.log (.of level part message), ()⟩] :=
  admits_request (r := .log (.of level part message))

/-- A plan that tells a record and goes on. -/
theorem admits_tell_bind {level : Log.Level} {part : String} {message : Text} {f : Unit → Plan β} :
    (tell level part message >>= f).Admits xs b ↔
      ∃ ys, xs = ⟨.log (.of level part message), ()⟩ :: ys ∧ (f ()).Admits ys b := by
  constructor
  · intro h
    obtain ⟨⟨⟩, ys, rfl, hrest⟩ := admits_request_bind.1 h
    exact ⟨ys, rfl, hrest⟩
  · rintro ⟨ys, rfl, hrest⟩
    exact admits_request_bind.2 ⟨(), ys, rfl, hrest⟩

/-- The conversation of plans one after another. -/
theorem admits_forEach_cons {f : α → Plan β} {a : α} {as : List α} {bs : List β} :
    (forEach f (a :: as)).Admits xs bs ↔
      ∃ b rest ys zs, (f a).Admits ys b ∧ (forEach f as).Admits zs rest ∧ bs = b :: rest ∧
        xs = ys ++ zs := by
  rw [forEach, admits_bind]
  constructor
  · rintro ⟨b, ys, ts, hys, hts, rfl⟩
    obtain ⟨rest, zs, ws, hzs, hws, rfl⟩ := admits_bind.1 hts
    obtain ⟨rfl, rfl⟩ := admits_pure.1 hws
    rw [List.append_nil]
    exact ⟨b, rest, ys, zs, hys, hzs, rfl, rfl⟩
  · rintro ⟨b, rest, ys, zs, hys, hzs, rfl, rfl⟩
    exact ⟨b, ys, zs, hys, admits_bind.2 ⟨rest, zs, [], hzs, .done _, (List.append_nil zs).symm⟩, rfl⟩

/-! ## Plans that can fail -/

variable {p : ExceptT Failure Plan α} {f : α → ExceptT Failure Plan β}

/-- A plan that can fail comes to an outcome by a conversation. -/
def Attempts (p : ExceptT Failure Plan α) (xs : List Exchange) (outcome : Except Failure α) : Prop :=
  p.run.Admits xs outcome

/-- A plan after a plan that can fail: nothing follows a failure. -/
theorem attempts_bind {outcome : Except Failure β} :
    Attempts (p >>= f) xs outcome ↔
      (∃ e, Attempts p xs (.error e) ∧ outcome = .error e) ∨
        ∃ a ys zs, Attempts p ys (.ok a) ∧ Attempts (f a) zs outcome ∧ xs = ys ++ zs := by
  show (p.run >>= ExceptT.bindCont f).Admits xs outcome ↔ _
  rw [admits_bind]
  constructor
  · rintro ⟨e | a, ys, zs, hys, hzs, rfl⟩
    · obtain ⟨rfl, rfl⟩ := admits_pure.1 hzs
      rw [List.append_nil]
      exact .inl ⟨e, hys, rfl⟩
    · exact .inr ⟨a, ys, zs, hys, hzs, rfl⟩
  · rintro (⟨e, hxs, rfl⟩ | ⟨a, ys, zs, hys, hzs, rfl⟩)
    · exact ⟨.error e, xs, [], hxs, .done _, (List.append_nil xs).symm⟩
    · exact ⟨.ok a, ys, zs, hys, hzs, rfl⟩

/-- A value is come to without a word. -/
theorem attempts_pure {a : α} {outcome : Except Failure α} :
    Attempts (pure a) xs outcome ↔ xs = [] ∧ outcome = .ok a := admits_pure

/-- A plan that cannot fail as one that can. -/
theorem attempts_lift {p : Plan α} {outcome : Except Failure α} :
    Attempts (liftM p) xs outcome ↔ ∃ a, p.Admits xs a ∧ outcome = .ok a := by
  show (p >>= fun a => pure (.ok a)).Admits xs outcome ↔ _
  rw [admits_bind]
  constructor
  · rintro ⟨a, ys, zs, hys, hzs, rfl⟩
    obtain ⟨rfl, rfl⟩ := admits_pure.1 hzs
    rw [List.append_nil]
    exact ⟨a, hys, rfl⟩
  · rintro ⟨a, hxs, rfl⟩
    exact ⟨a, xs, [], hxs, .done _, (List.append_nil xs).symm⟩

/-- A plan that can fail after one that cannot. -/
theorem attempts_lift_bind {p : Plan α} {outcome : Except Failure β} :
    Attempts (liftM p >>= f) xs outcome ↔
      ∃ a ys zs, p.Admits ys a ∧ Attempts (f a) zs outcome ∧ xs = ys ++ zs := by
  rw [attempts_bind]
  constructor
  · rintro (⟨e, hfirst, -⟩ | ⟨a, ys, zs, hfirst, hrest, rfl⟩)
    · obtain ⟨_, -, hok⟩ := attempts_lift.1 hfirst
      cases hok
    · obtain ⟨_, hfirst, hok⟩ := attempts_lift.1 hfirst
      obtain rfl := Except.ok.inj hok
      exact ⟨a, ys, zs, hfirst, hrest, rfl⟩
  · rintro ⟨a, ys, zs, hfirst, hrest, rfl⟩
    exact .inr ⟨a, ys, zs, attempts_lift.2 ⟨a, hfirst, rfl⟩, hrest, rfl⟩

/-- A plan that asks for one thing, which cannot fail, and goes on with the answer. -/
theorem attempts_request_bind {r : Request} {f : r.Answer → ExceptT Failure Plan β}
    {outcome : Except Failure β} :
    Attempts (liftM (request r) >>= f) xs outcome ↔
      ∃ answer ys, xs = ⟨r, answer⟩ :: ys ∧ Attempts (f answer) ys outcome := by
  rw [attempts_lift_bind]
  constructor
  · rintro ⟨answer, ys, zs, hasked, hrest, rfl⟩
    obtain rfl := admits_request.1 hasked
    exact ⟨answer, zs, rfl, hrest⟩
  · rintro ⟨answer, ys, rfl, hrest⟩
    exact ⟨answer, _, ys, admits_request.2 rfl, hrest, rfl⟩

/-- A plan that tells a record and goes on. -/
theorem attempts_tell_bind {level : Log.Level} {part : String} {message : Text}
    {f : Unit → ExceptT Failure Plan β} {outcome : Except Failure β} :
    Attempts (liftM (tell level part message) >>= f) xs outcome ↔
      ∃ ys, xs = ⟨.log (.of level part message), ()⟩ :: ys ∧ Attempts (f ()) ys outcome := by
  constructor
  · intro h
    obtain ⟨⟨⟩, ys, rfl, hrest⟩ := attempts_request_bind.1 h
    exact ⟨ys, rfl, hrest⟩
  · rintro ⟨ys, rfl, hrest⟩
    exact attempts_request_bind.2 ⟨(), ys, rfl, hrest⟩

/-- A record that is told is no failure. -/
theorem attempts_tell {level : Log.Level} {part : String} {message : Text}
    {outcome : Except Failure Unit} :
    Attempts (liftM (tell level part message)) xs outcome ↔
      xs = [⟨.log (.of level part message), ()⟩] ∧ outcome = .ok () := by
  rw [attempts_lift]
  constructor
  · rintro ⟨u, htell, rfl⟩
    exact ⟨admits_tell.1 htell, rfl⟩
  · rintro ⟨rfl, rfl⟩
    exact ⟨(), admits_tell.2 rfl, rfl⟩

end Plan

end ComponentBook
