import Orbis.Transition.Task

/-!
# Handlers that run alone and can be dropped

A handler that is cancelled is dropped at the step it waits for.  A guard that it holds at that step
is dropped with it, and its release still changes the state.  `Guarded ω σ α` is what is left of a
handler, with what dropping it at each of its steps does.
-/

namespace Orbis.Transition

variable {ω σ α β ε : Type}

inductive Guarded (ω σ α : Type) where
  | done (result : α)
  | step (release : σ → σ) (act : ω → σ → σ) (next : ω → σ → Guarded ω σ α)

namespace Guarded

protected def bind : Guarded ω σ α → (α → Guarded ω σ β) → Guarded ω σ β
  | done a, k => k a
  | step release act next, k => step release act fun w s => (next w s).bind k

instance : Monad (Guarded ω σ) where
  pure := done
  bind := Guarded.bind

/-- A handler that runs while a guard is held. -/
def under (release : σ → σ) : Task ω σ α → Guarded ω σ α
  | .done a => done a
  | .step act next => step release act fun w s => under release (next w s)

/-- The handler without its guards. -/
def task : Guarded ω σ α → Task ω σ α
  | done a => .done a
  | step _ act next => .step act fun w s => (next w s).task

@[simp] theorem task_under (release : σ → σ) (t : Task ω σ α) : (under release t).task = t := by
  induction t with
  | done a => rfl
  | step act next ih =>
    rw [under, task]
    congr 1
    funext w s
    exact ih w s

theorem task_bind (g : Guarded ω σ α) (k : α → Guarded ω σ β) :
    (g >>= k).task = g.task >>= fun a => (k a).task := by
  induction g with
  | done a => rfl
  | step release act next ih =>
    change Task.step _ _ = Task.step _ _
    congr 1
    funext w s
    exact ih w s

theorem under_bind (release : σ → σ) (t : Task ω σ α) (k : α → Task ω σ β) :
    under release (t >>= k) = under release t >>= fun a => under release (k a) := by
  induction t with
  | done a => rfl
  | step act next ih =>
    change step _ _ _ = step _ _ _
    congr 1
    funext w s
    exact ih w s

def drop : Guarded ω σ α → σ → σ
  | done _, s => s
  | step release _ _, s => release s

/-- The state when the handler is dropped after one undisturbed step for every answer. -/
def cancelled (g : Guarded ω σ α) (s : σ) : List ω → σ
  | [] => g.drop s
  | w :: ws =>
    match g with
    | done _ => s
    | step _ act next => (next w s).cancelled (act w s) ws

/-! ## What holds of an undisturbed run

`P` holds wherever the handler is dropped, `Q` at its end, as long as the answers are calm.  All
three can depend on the number of steps. -/

section Runs

variable (calm : ℕ → ω → Prop) (P : ℕ → σ → Prop)

def Runs (Q : ℕ → α → σ → Prop) : Guarded ω σ α → ℕ → σ → Prop
  | done a, n, s => Q n a s
  | step release act next, n, s =>
    P n (release s) ∧ ∀ w, calm n w → (next w s).Runs Q (n + 1) (act w s)

variable {calm P} {s : σ} {n : ℕ}

theorem Runs.mono {Q Q' : ℕ → α → σ → Prop} {g : Guarded ω σ α} (h : g.Runs calm P Q n s)
    (himp : ∀ n a s, Q n a s → Q' n a s) : g.Runs calm P Q' n s := by
  induction g generalizing n s with
  | done a => exact himp n a s h
  | step release act next ih => exact ⟨h.1, fun w hw => ih w s (h.2 w hw)⟩

theorem Runs.bind {Q : ℕ → β → σ → Prop} {g : Guarded ω σ α} {k : α → Guarded ω σ β}
    (h : g.Runs calm P (fun n a s => (k a).Runs calm P Q n s) n s) :
    (g >>= k).Runs calm P Q n s := by
  induction g generalizing n s with
  | done a => exact h
  | step release act next ih => exact ⟨h.1, fun w hw => ih w s (h.2 w hw)⟩

/-- Handlers that can fail: the error of the first part is the error of the whole. -/
theorem Runs.bind_ok {Q : ℕ → Except ε β → σ → Prop} {release : σ → σ}
    {x : ExceptT ε (Task ω σ) α} {f : α → ExceptT ε (Task ω σ) β}
    (h : (under release x.run).Runs calm P (fun n r s => match r with
      | .ok a => (under release (f a).run).Runs calm P Q n s
      | .error e => Q n (.error e) s) n s) :
    (under release (x >>= f).run).Runs calm P Q n s := by
  have hrun : (x >>= f).run = x.run >>= ExceptT.bindCont f := rfl
  rw [hrun, under_bind]
  refine Runs.bind (h.mono ?_)
  intro n r s hr
  cases r with
  | ok a | error e => exact hr

/-- Wherever the handler is dropped. -/
theorem Runs.cancelled {Q : ℕ → α → σ → Prop} {g : Guarded ω σ α} (h : g.Runs calm P Q n s)
    (hQ : ∀ n m a s, Q n a s → n ≤ m → P m s) {ws : List ω}
    (hcalm : ∀ k w, ws[k]? = some w → calm (n + k) w) :
    P (n + ws.length) (g.cancelled s ws) := by
  induction ws generalizing g n s with
  | nil =>
    cases g with
    | done a => exact hQ n n a s h (Nat.le_refl n)
    | step release act next => exact h.1
  | cons w ws ih =>
    cases g with
    | done a => exact hQ n _ a s h (Nat.le_add_right _ _)
    | step release act next =>
      have hrest := ih (h.2 w (hcalm 0 w rfl)) fun k w' hk => by
        have hlater := hcalm (k + 1) w' hk
        rwa [← Nat.add_assoc, Nat.add_right_comm] at hlater
      rwa [Nat.add_right_comm] at hrest

theorem Runs.complete {Q : ℕ → α → σ → Prop} {g : Guarded ω σ α} (h : g.Runs calm P Q n s)
    {answer : ℕ → ω} (hcalm : ∀ k, calm (n + k) (answer k)) :
    ∃ m, Q m (g.task.complete answer s).2 (g.task.complete answer s).1 := by
  induction g generalizing n s answer with
  | done a => exact ⟨n, h⟩
  | step release act next ih =>
    refine ih _ _ (h.2 _ (hcalm 0)) fun k => ?_
    have hlater := hcalm (k + 1)
    rwa [← Nat.add_assoc, Nat.add_right_comm] at hlater

end Runs

end Guarded

end Orbis.Transition
