import Orbis.Transition.Task

/-!
# Acting on a check

A handler that looks in one step whether a resource is still held and acts in the next step can be
overtaken: the resource may be released in between.  `ActsOnCheck` says that a handler never takes
the resource back, and that it changes the `view` only in a step that directly follows one it took
while the resource was held.  If no release falls between such a check and its act, the view does
not change once the resource has been released.
-/

namespace Orbis.Transition

variable {ω σ α β ε ι δ : Type}

namespace Task

section

variable (held : σ → Bool) (view : σ → δ)

/-- The next step does not change the view, whatever the state. -/
def Idle : Task ω σ α → Prop
  | done _ => True
  | step act _ => ∀ w s, view (act w s) = view s

/-- `checked` says whether the resource was held at the handler's last step. -/
def ActsOnCheck : Task ω σ α → Bool → Prop
  | done _, _ => True
  | step act next, checked =>
    (checked = true ∨ ∀ w s, view (act w s) = view s) ∧
      ∀ w s, (held s = false → held (act w s) = false) ∧ (next w s).ActsOnCheck (held s)

end

variable {held : σ → Bool} {view : σ → δ}

namespace ActsOnCheck

/-- A handler that needs no check may have made one. -/
theorem mono {t : Task ω σ α} (h : t.ActsOnCheck held view false) (checked : Bool) :
    t.ActsOnCheck held view checked := by
  cases t with
  | done a => trivial
  | step act next =>
    obtain ⟨hact, hnext⟩ := h
    exact ⟨.inr (hact.resolve_left Bool.false_ne_true), hnext⟩

/-- A handler that is not about to act does not need its last check. -/
theorem of_idle {t : Task ω σ α} {checked : Bool} (h : t.ActsOnCheck held view checked)
    (hidle : t.Idle view) : t.ActsOnCheck held view false := by
  cases t with
  | done a => trivial
  | step act next => exact ⟨.inr hidle, h.2⟩

theorem bind {t : Task ω σ α} {k : α → Task ω σ β} {checked : Bool}
    (ht : t.ActsOnCheck held view checked) (hk : ∀ a, (k a).ActsOnCheck held view false) :
    (t >>= k).ActsOnCheck held view checked := by
  induction t generalizing checked with
  | done a => exact (hk a).mono checked
  | step act next ih =>
    exact ⟨ht.1, fun w s => ⟨(ht.2 w s).1, ih w s (ht.2 w s).2⟩⟩

/-- Handlers that can fail. -/
theorem bind_ok {x : ExceptT ε (Task ω σ) α} {f : α → ExceptT ε (Task ω σ) β} {checked : Bool}
    (hx : x.run.ActsOnCheck held view checked)
    (hf : ∀ a, (f a).run.ActsOnCheck held view false) :
    (x >>= f).run.ActsOnCheck held view checked := by
  apply hx.bind
  intro r
  cases r with
  | ok a => exact hf a
  | error e => trivial

end ActsOnCheck

theorem composes_actsOnCheck :
    Composes (ω := ω) fun {_ : Type} t => t.ActsOnCheck held view false :=
  ⟨fun _ => trivial, ActsOnCheck.bind⟩

/-- A handler of one step. -/
theorem actsOnCheck_atomically {f : ω → σ → σ × α} {checked : Bool}
    (hview : checked = true ∨ ∀ w s, view (f w s).1 = view s)
    (hheld : ∀ w s, held s = false → held (f w s).1 = false) :
    (atomically f).ActsOnCheck held view checked :=
  ⟨hview, fun w s => ⟨hheld w s, trivial⟩⟩

/-- A step that does not act, and what follows from its outcome. -/
theorem actsOnCheck_atomically_bind {f : ω → σ → σ × α} {k : α → Task ω σ β} {checked : Bool}
    (hview : ∀ w s, view (f w s).1 = view s)
    (hheld : ∀ w s, held s = false → held (f w s).1 = false)
    (hk : ∀ w s, (k (f w s).2).ActsOnCheck held view (held s)) :
    (atomically f >>= k).ActsOnCheck held view checked :=
  ⟨.inr hview, fun w s => ⟨hheld w s, hk w s⟩⟩

end Task

/-! ## Schedules -/

namespace Pool

section

variable (held : σ → Bool) (view : σ → δ)

/-- Whenever the resource is released, no handler is about to act. -/
def ReleasedIdle (handler : ι → Task ω σ α) (pool : Pool ι ω σ α)
    (schedule : List (Move ι ω)) : Prop :=
  Along (step handler) (fun pool move =>
    held pool.state = true → held (pool.step handler move).state = false →
      ∀ entry ∈ (pool.step handler move).tasks, entry.2.Idle view) pool schedule

def ActOnCheck (pool : Pool ι ω σ α) : Prop :=
  ∀ entry ∈ pool.tasks, entry.2.ActsOnCheck held view (held pool.state)

end

variable {held : σ → Bool} {view : σ → δ} {handler : ι → Task ω σ α} {pool : Pool ι ω σ α}

/-- The entry that has taken a step, or one that was there before. -/
theorem mem_tasks_resume {k : ℕ} {answer : ω} {entry : ι × Task ω σ α}
    (h : entry ∈ (pool.step handler (.resume k answer)).tasks) :
    entry ∈ pool.tasks ∨ ∃ input act next, (input, .step act next) ∈ pool.tasks ∧
      entry = (input, next answer pool.state) := by
  simp only [step] at h
  split at h
  next input act next hget =>
    rcases List.mem_or_eq_of_mem_set h with hmem | rfl
    · exact .inl hmem
    · exact .inr ⟨input, act, next, List.mem_of_getElem? hget, rfl⟩
  next => exact .inl h

theorem actOnCheck_empty (s : σ) : (empty s : Pool ι ω σ α).ActOnCheck held view := by
  simp [ActOnCheck, empty]

theorem ActOnCheck.step (hhandler : ∀ i, (handler i).ActsOnCheck held view false)
    (h : pool.ActOnCheck held view) {move : Move ι ω}
    (hidle : held pool.state = true → held (pool.step handler move).state = false →
      ∀ entry ∈ (pool.step handler move).tasks, entry.2.Idle view) :
    (pool.step handler move).ActOnCheck held view := by
  -- Each handler acts on what was true before the move.
  have hbefore : ∀ entry ∈ (pool.step handler move).tasks,
      entry.2.ActsOnCheck held view (held pool.state) := by
    intro entry hentry
    cases move with
    | start input =>
      rcases List.mem_append.mp hentry with hmem | hmem
      · exact h entry hmem
      · rw [List.mem_singleton.mp hmem]
        exact (hhandler input).mono _
    | resume k answer =>
      rcases mem_tasks_resume hentry with hmem | ⟨input, act, next, hmem, rfl⟩
      · exact h entry hmem
      · exact ((h _ hmem).2 answer pool.state).2
  intro entry hentry
  cases hheld : held pool.state with
  | false => exact (hheld ▸ hbefore entry hentry).mono _
  | true =>
    cases hheld' : held (pool.step handler move).state with
    | true => exact hheld ▸ hbefore entry hentry
    | false => exact (hbefore entry hentry).of_idle (hidle hheld hheld' entry hentry)

theorem ActOnCheck.run (hhandler : ∀ i, (handler i).ActsOnCheck held view false)
    (h : pool.ActOnCheck held view) {schedule : List (Move ι ω)}
    (hidle : pool.ReleasedIdle held view handler schedule) :
    (run (Pool.step handler) pool schedule).ActOnCheck held view := by
  induction schedule generalizing pool with
  | nil => exact h
  | cons move schedule ih => exact ih (h.step hhandler hidle.1) hidle.2

/-- Without the resource no step changes the view or takes the resource back. -/
theorem ActOnCheck.released_step (h : pool.ActOnCheck held view) (hheld : held pool.state = false)
    (move : Move ι ω) : held (pool.step handler move).state = false ∧
      view (pool.step handler move).state = view pool.state := by
  cases move with
  | start input => exact ⟨hheld, rfl⟩
  | resume k answer =>
    simp only [Pool.step]
    split
    next input act next hget =>
      obtain ⟨hact, hnext⟩ := h _ (List.mem_of_getElem? hget)
      rw [hheld] at hact
      exact ⟨(hnext answer pool.state).1 hheld,
        hact.resolve_left Bool.false_ne_true answer pool.state⟩
    next => exact ⟨hheld, rfl⟩

/-- What is seen through the view without the resource is seen from then on. -/
theorem ActOnCheck.view_run (hhandler : ∀ i, (handler i).ActsOnCheck held view false)
    (h : pool.ActOnCheck held view) (hheld : held pool.state = false)
    (schedule : List (Move ι ω)) :
    view (Transition.run (Pool.step handler) pool schedule).state = view pool.state := by
  induction schedule generalizing pool with
  | nil => rfl
  | cons move schedule ih =>
    obtain ⟨hheld', hview⟩ := h.released_step hheld move
    have hnext : (pool.step handler move).ActOnCheck held view :=
      h.step hhandler fun htrue => absurd htrue (by simp [hheld])
    exact (ih hnext hheld').trans hview

/-- In every schedule in which no release falls between a check and its act. -/
theorem view_run_of_released (hhandler : ∀ i, (handler i).ActsOnCheck held view false) (s : σ)
    {before after : List (Move ι ω)} (hidle : (empty s).ReleasedIdle held view handler before)
    (hheld : held (run (Pool.step handler) (empty s) before).state = false) :
    view (run (Pool.step handler) (empty s) (before ++ after)).state =
      view (run (Pool.step handler) (empty s) before).state := by
  rw [run_append]
  exact ((actOnCheck_empty s).run hhandler hidle).view_run hhandler hheld after

end Pool

end Orbis.Transition
