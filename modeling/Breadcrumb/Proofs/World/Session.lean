import Breadcrumb.World

namespace Breadcrumb

theorem exists_of_bind_eq_ok {α β ε : Type} {answer : Except ε α} {next : α → Except ε β} {b : β}
    (h : answer >>= next = .ok b) : ∃ a, answer = .ok a ∧ next a = .ok b := by
  cases answer with
  | ok a => exact ⟨a, rfl, h⟩
  | error fault => cases h

theorem eq_ok_of_mapError {α ε ε' : Type} {answer : Except ε α} {f : ε → ε'} {a : α}
    (h : answer.mapError f = .ok a) : answer = .ok a := by
  cases answer with
  | ok b =>
    cases h
    rfl
  | error fault => cases h

theorem bind_eq_error_iff {α β ε : Type} {answer : Except ε α} {next : α → Except ε β} {e : ε} :
    answer >>= next = .error e ↔ answer = .error e ∨ ∃ a, answer = .ok a ∧ next a = .error e := by
  cases answer with
  | ok a =>
    constructor
    · intro h
      exact .inr ⟨a, rfl, h⟩
    · rintro (h | ⟨_, h, hnext⟩)
      · cases h
      · cases h
        exact hnext
  | error fault =>
    constructor
    · intro h
      cases h
      exact .inl rfl
    · rintro (h | ⟨_, h, -⟩)
      · cases h
        rfl
      · cases h

theorem mapError_eq_error_iff {α ε ε' : Type} {answer : Except ε α} {f : ε → ε'} {e : ε'} :
    answer.mapError f = .error e ↔ ∃ fault, answer = .error fault ∧ f fault = e := by
  cases answer with
  | ok a =>
    constructor
    · nofun
    · rintro ⟨_, h, -⟩
      cases h
  | error fault =>
    constructor
    · intro h
      exact ⟨fault, rfl, Except.error.inj h⟩
    · rintro ⟨_, h, rfl⟩
      cases h
      rfl

namespace World

theorem emitAll_of_sink {world : World} (h : world.sink = none) (records : List Log.Record) :
    (world.emitAll records).sink = none ∧ (world.emitAll records).tree = world.tree := by
  induction records generalizing world with
  | nil => exact ⟨h, rfl⟩
  | cons record records ih =>
    have htree : (world.emit record).tree = world.tree := by simp only [emit, h]
    have hrest := @ih (world.emit record) h
    exact ⟨hrest.1, hrest.2.trans htree⟩

end World

namespace Session

variable {α β : Type} {world world' : World}

/-- Work in two parts goes on with the second unless the first fails. -/
theorem run_bind (work : Session α) (next : α → Session β) (world : World) :
    (work >>= next).run world =
      match work.run world with
      | (.ok a, mid) => (next a).run mid
      | (.error failure, mid) => (.error failure, mid) := by
  simp only [bind, ExceptT.bind, ExceptT.run, ExceptT.mk, StateT.bind]
  cases work world with
  | mk result mid => cases result <;> rfl

/-- Work in two parts comes to a result only if both parts do. -/
theorem of_run_bind {work : Session α} {next : α → Session β} {b : β}
    (h : (work >>= next).run world = (.ok b, world')) :
    ∃ a mid, work.run world = (.ok a, mid) ∧ (next a).run mid = (.ok b, world') := by
  simp only [bind, ExceptT.bind, ExceptT.run, ExceptT.mk, StateT.bind] at h
  cases hwork : work.run world with
  | mk result mid =>
    rw [ExceptT.run] at hwork
    rw [hwork] at h
    cases result with
    | ok a => exact ⟨a, mid, rfl, h⟩
    | error failure => cases h

theorem of_run_say (h : (say level message).run world = (.ok done, world')) :
    world' = world.emit { level, component := "orchestrator".toList, message } := by
  cases h
  rfl

theorem of_run_lift {answer : Except Failure α} {a : α}
    (h : (ExceptT.mk (pure answer) : Session α).run world = (.ok a, world')) :
    answer = .ok a ∧ world' = world := by
  have hpair : (answer, world) = (.ok a, world') := h
  exact ⟨(Prod.mk.inj hpair).1, (Prod.mk.inj hpair).2.symm⟩

theorem run_get_bind (next : World → Session α) (world : World) :
    (get >>= next).run world = (next world).run world := rfl

theorem of_run_ask {question : FileTree → Except Failure α} {a : α}
    (h : (ask question).run world = (.ok a, world')) :
    question world.tree = .ok a ∧ world' = world := by
  rw [ask, run_get_bind] at h
  cases hanswer : question world.tree with
  | ok answer =>
    rw [hanswer] at h
    cases h
    exact ⟨rfl, rfl⟩
  | error failure =>
    rw [hanswer] at h
    cases h

theorem run_ask_bind {question : FileTree → Except Failure α} {a : α}
    (h : question world.tree = .ok a) (next : α → Session β) :
    (ask question >>= next).run world = (next a).run world := by
  have hask : (ask question).run world = (.ok a, world) := by
    rw [ask, run_get_bind, h]
    rfl
  simp only [bind, ExceptT.bind, ExceptT.run, ExceptT.mk, StateT.bind]
  rw [ExceptT.run] at hask
  rw [hask]
  rfl

theorem run_ask_bind_of_error {question : FileTree → Except Failure α} {failure : Failure}
    (h : question world.tree = .error failure) (next : α → Session β) :
    (ask question >>= next).run world = (.error failure, world) := by
  rw [run_bind, ask, run_get_bind, h]
  rfl

end Session

end Breadcrumb
