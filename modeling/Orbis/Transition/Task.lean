import Mathlib.Logic.Relation
import Orbis.Transition.Run

/-!
# Handlers that share a state

A handler is a sequence of steps on a state it shares with other handlers.  It holds the lock for
one step at a time, so between two of its steps any other handler can take any number of steps.
`Task ω σ α` is what is left of a handler: its result, or its next step.  What a step does, and
how the handler goes on, depends on the state and on an answer `ω` of the environment.

A pool is a state with the handlers that have been started.  A schedule says which handler is
started or takes its next step; a handler that is cancelled is one that takes no more steps.
-/

namespace Orbis.Transition

variable {ω σ α β ε ι : Type}

/-- `next` is given the state before the step. -/
inductive Task (ω σ α : Type) where
  | done (result : α)
  | step (act : ω → σ → σ) (next : ω → σ → Task ω σ α)

namespace Task

protected def bind : Task ω σ α → (α → Task ω σ β) → Task ω σ β
  | done a, k => k a
  | step act next, k => step act fun w s => (next w s).bind k

instance : Monad (Task ω σ) where
  pure := done
  bind := Task.bind

def atomically (f : ω → σ → σ × α) : Task ω σ α :=
  step (fun w s => (f w s).1) fun w s => done (f w s).2

def result : Task ω σ α → Option α
  | done a => some a
  | step _ _ => none

/-- The state and the result of a handler that runs undisturbed; `answer k` is given to its
`k`-th step. -/
def complete : Task ω σ α → (ℕ → ω) → σ → σ × α
  | done a, _, s => (s, a)
  | step act next, answer, s =>
    (next (answer 0) s).complete (fun k => answer (k + 1)) (act (answer 0) s)

/-- Every step of the handler, whatever the state and the answers, changes the state only as
`rel` says. -/
def Keeps (rel : σ → σ → Prop) : Task ω σ α → Prop
  | done _ => True
  | step act next => ∀ w s, rel s (act w s) ∧ (next w s).Keeps rel

variable {rel rel' : σ → σ → Prop}

theorem Keeps.bind {t : Task ω σ α} {k : α → Task ω σ β} (ht : t.Keeps rel)
    (hk : ∀ a, (k a).Keeps rel) : (t >>= k).Keeps rel := by
  induction t with
  | done a => exact hk a
  | step act next ih => exact fun w s => ⟨(ht w s).1, ih w s (ht w s).2⟩

theorem Keeps.mono {t : Task ω σ α} (ht : t.Keeps rel) (h : ∀ s s', rel s s' → rel' s s') :
    t.Keeps rel' := by
  induction t with
  | done a => trivial
  | step act next ih => exact fun w s => ⟨h _ _ (ht w s).1, ih w s (ht w s).2⟩

theorem keeps_atomically {f : ω → σ → σ × α} (h : ∀ w s, rel s (f w s).1) :
    (atomically f).Keeps rel :=
  fun w s => ⟨h w s, trivial⟩

/-- A property of handlers that sequencing keeps. -/
structure Composes (P : ∀ {α : Type}, Task ω σ α → Prop) : Prop where
  done : ∀ {α : Type} (a : α), P (done a)
  bind : ∀ {α β : Type} {t : Task ω σ α} {k : α → Task ω σ β}, P t → (∀ a, P (k a)) → P (t >>= k)

theorem composes_keeps : Composes (ω := ω) (Keeps rel) := ⟨fun _ => trivial, Keeps.bind⟩

variable {P : ∀ {α : Type}, Task ω σ α → Prop}

/-- Handlers that can fail. -/
theorem Composes.bind_ok (h : Composes P) {x : ExceptT ε (Task ω σ) α}
    {f : α → ExceptT ε (Task ω σ) β} (hx : P x.run) (hf : ∀ a, P (f a).run) :
    P (x >>= f).run := by
  refine h.bind hx fun r => ?_
  cases r with
  | ok a => exact hf a
  | error e => exact h.done _

theorem Composes.forM (h : Composes P) {l : List β} {f : β → ExceptT ε (Task ω σ) Unit}
    (hf : ∀ b ∈ l, P (f b).run) : P (l.forM f).run := by
  induction l with
  | nil => exact h.done _
  | cons b l ih =>
    exact h.bind_ok (hf b List.mem_cons_self) fun _ =>
      ih fun b' hb' => hf b' (List.mem_cons_of_mem b hb')

theorem Composes.tryCatch (h : Composes P) {x : ExceptT ε (Task ω σ) α}
    {handle : ε → ExceptT ε (Task ω σ) α} (hx : P x.run) (hhandle : ∀ e, P (handle e).run) :
    P (tryCatch x handle).run := by
  refine h.bind hx fun r => ?_
  cases r with
  | ok a => exact h.done _
  | error e => exact hhandle e

end Task

/-! ## Pools -/

structure Pool (ι ω σ α : Type) where
  state : σ
  /-- Every handler that was started, with what started it. -/
  tasks : List (ι × Task ω σ α)

inductive Move (ι ω : Type) where
  | start (input : ι)
  | resume (k : ℕ) (answer : ω)

namespace Pool

def empty (s : σ) : Pool ι ω σ α := ⟨s, []⟩

def step (handler : ι → Task ω σ α) (pool : Pool ι ω σ α) : Move ι ω → Pool ι ω σ α
  | .start input => { pool with tasks := pool.tasks ++ [(input, handler input)] }
  | .resume k answer =>
    match pool.tasks[k]? with
    | some (input, .step act next) =>
      ⟨act answer pool.state, pool.tasks.set k (input, next answer pool.state)⟩
    | _ => pool

def result (pool : Pool ι ω σ α) (k : ℕ) : Option (ι × α) :=
  pool.tasks[k]?.bind fun (input, t) => t.result.map (input, ·)

theorem tasks_of_result {pool : Pool ι ω σ α} {k : ℕ} {i : ι} {a : α}
    (h : pool.result k = some (i, a)) : pool.tasks[k]? = some (i, .done a) := by
  obtain ⟨⟨input, t⟩, hget, hresult⟩ := Option.bind_eq_some_iff.mp h
  obtain ⟨b, hb, heq⟩ := Option.map_eq_some_iff.mp hresult
  cases heq
  cases t with
  | done a =>
    cases hb
    exact hget
  | step act next => cases hb

/-- Every step of the schedule changes the state as `allowed` says. -/
def Obeys (handler : ι → Task ω σ α) (allowed : σ → σ → Prop) (pool : Pool ι ω σ α)
    (schedule : List (Move ι ω)) : Prop :=
  Along (step handler) (fun pool move => allowed pool.state (pool.step handler move).state) pool
    schedule

instance (handler : ι → Task ω σ α) (allowed : σ → σ → Prop) [∀ s s', Decidable (allowed s s')]
    (pool : Pool ι ω σ α) (schedule : List (Move ι ω)) :
    Decidable (pool.Obeys handler allowed schedule) :=
  Along.decidable _ _ _ _

section Keeps

variable {handler : ι → Task ω σ α} {rel : σ → σ → Prop} {pool : Pool ι ω σ α}

def Keeps (rel : σ → σ → Prop) (pool : Pool ι ω σ α) : Prop :=
  ∀ (k : ℕ) (i : ι) (t : Task ω σ α), pool.tasks[k]? = some (i, t) → t.Keeps rel

theorem keeps_empty (s : σ) : (empty s : Pool ι ω σ α).Keeps rel := by simp [Keeps, empty]

theorem Keeps.start (h : pool.Keeps rel) {input : ι} (hhandler : (handler input).Keeps rel) :
    (pool.step handler (.start input)).Keeps rel := by
  intro k i t hget
  simp only [Pool.step] at hget
  by_cases hk : k < pool.tasks.length
  · rw [List.getElem?_append_left hk] at hget
    exact h k i t hget
  · rw [List.getElem?_append_right (by omega), List.getElem?_singleton] at hget
    split at hget
    · cases hget
      exact hhandler
    · cases hget

theorem Keeps.resume (hrefl : ∀ s, rel s s) (h : pool.Keeps rel) (k : ℕ) (answer : ω) :
    rel pool.state (pool.step handler (.resume k answer)).state ∧
      (pool.step handler (.resume k answer)).Keeps rel := by
  cases hget : pool.tasks[k]? with
  | none => simpa only [Pool.step, hget] using ⟨hrefl _, h⟩
  | some entry =>
    obtain ⟨input, t⟩ := entry
    cases t with
    | done a => simpa only [Pool.step, hget] using ⟨hrefl _, h⟩
    | step act next =>
      obtain ⟨hact, hnext⟩ := h k input _ hget answer pool.state
      simp only [Pool.step, hget]
      refine ⟨hact, ?_⟩
      intro j i t hj
      by_cases hjk : j = k
      · subst hjk
        rw [List.getElem?_set_self (List.getElem?_eq_some_iff.mp hget).1] at hj
        cases hj
        exact hnext
      · rw [List.getElem?_set_ne (Ne.symm hjk)] at hj
        exact h j i t hj

/-- If all steps of all handlers are within `rel`, so is every step of a schedule. -/
theorem Keeps.run {allowed : σ → σ → Prop} {Inv : σ → Prop} (hrefl : ∀ s, rel s s)
    {schedule : List (Move ι ω)} (hhandler : ∀ i, .start i ∈ schedule → (handler i).Keeps rel)
    (hstep : ∀ s s', allowed s s' → rel s s' → Inv s → Inv s') (h : pool.Keeps rel)
    (hobeys : pool.Obeys handler allowed schedule) (hinv : Inv pool.state) :
    (run (Pool.step handler) pool schedule).Keeps rel ∧
      Inv (run (Pool.step handler) pool schedule).state := by
  induction schedule generalizing pool with
  | nil => exact ⟨h, hinv⟩
  | cons move schedule ih =>
    obtain ⟨hallowed, hobeys⟩ := hobeys
    have hrest : ∀ i, .start i ∈ schedule → (handler i).Keeps rel :=
      fun i hi => hhandler i (List.mem_cons_of_mem move hi)
    cases move with
    | start input =>
      exact ih hrest (h.start (hhandler input List.mem_cons_self)) hobeys hinv
    | resume k answer =>
      obtain ⟨hrel, hkeeps⟩ := h.resume hrefl k answer
      exact ih hrest hkeeps hobeys (hstep _ _ hallowed hrel hinv)

end Keeps

end Pool

/-! ## Rely and guarantee

What can be said about one handler whatever the others do: `rely` is what the steps of the others
do to the state, `guar` what its own steps do.  The relations are about states `τ` that extend the
shared state by auxiliary data, which no handler reads; `proj` forgets the auxiliary data.
`allowed` is a condition on the steps of the schedules that are considered. -/

structure Contract (τ : Type) where
  rely : τ → τ → Prop
  guar : τ → τ → Prop
  refl : ∀ x, rely x x
  trans : ∀ {x y z}, rely x y → rely y z → rely x z

section Safe

variable {τ : Type} (proj : τ → σ) (allowed : σ → σ → Prop)

def Task.Safe (c : Contract τ) (post : α → τ → Prop) : Task ω σ α → τ → Prop
  | .done a, x => ∀ y, c.rely x y → post a y
  | .step act next, x => ∀ w y, c.rely x y → allowed (proj y) (act w (proj y)) →
      ∃ z, proj z = act w (proj y) ∧ c.guar y z ∧ (next w (proj y)).Safe c post z

variable {proj allowed} {c : Contract τ}

namespace Task.Safe

variable {post : α → τ → Prop} {t : Task ω σ α} {x y : τ}

theorem mono (h : t.Safe proj allowed c post x) (hxy : c.rely x y) :
    t.Safe proj allowed c post y := by
  cases t with
  | done a => exact fun z hz => h z (c.trans hxy hz)
  | step act next => exact fun w z hz => h w z (c.trans hxy hz)

theorem weaken {post' : α → τ → Prop} (h : t.Safe proj allowed c post x)
    (himp : ∀ a y, post a y → post' a y) : t.Safe proj allowed c post' x := by
  induction t generalizing x with
  | done a => exact fun y hy => himp a y (h y hy)
  | step act next ih =>
    intro w y hy hallowed
    obtain ⟨z, hproj, hguar, hnext⟩ := h w y hy hallowed
    exact ⟨z, hproj, hguar, ih w (proj y) hnext⟩

theorem bind {mid : α → τ → Prop} {post : β → τ → Prop} {k : α → Task ω σ β}
    (ht : t.Safe proj allowed c mid x)
    (hk : ∀ a y, mid a y → (k a).Safe proj allowed c post y) :
    (t >>= k).Safe proj allowed c post x := by
  induction t generalizing x with
  | done a => exact hk a x (ht x (c.refl x))
  | step act next ih =>
    intro w y hy hallowed
    obtain ⟨z, hproj, hguar, hnext⟩ := ht w y hy hallowed
    exact ⟨z, hproj, hguar, ih w (proj y) hnext⟩

theorem stable (h : t.Safe proj allowed c post x) :
    t.Safe proj allowed c (fun a y => ∀ z, c.rely y z → post a z) x := by
  induction t generalizing x with
  | done a => exact fun y hy z hz => h z (c.trans hy hz)
  | step act next ih =>
    intro w y hy hallowed
    obtain ⟨z, hproj, hguar, hnext⟩ := h w y hy hallowed
    exact ⟨z, hproj, hguar, ih w (proj y) hnext⟩

/-- A fact that the others keep, and that the handler's own steps keep, holds at its end. -/
theorem remember {fact : τ → Prop} (h : t.Safe proj allowed c post x)
    (hrely : ∀ y z, fact y → c.rely y z → fact z) (hguar : ∀ y z, fact y → c.guar y z → fact z)
    (hx : fact x) : t.Safe proj allowed c (fun a y => post a y ∧ fact y) x := by
  induction t generalizing x with
  | done a => exact fun y hy => ⟨h y hy, hrely x y hx hy⟩
  | step act next ih =>
    intro w y hy hallowed
    obtain ⟨z, hproj, hz, hnext⟩ := h w y hy hallowed
    exact ⟨z, hproj, hz, ih w (proj y) hnext (hguar y z (hrely x y hx hy) hz)⟩

end Task.Safe

/-- A handler whose steps change the state only as `rel` says is safe if such changes are within
its guarantee and keep a fact that the others keep too. -/
theorem Task.Keeps.safe {rel : σ → σ → Prop} {t : Task ω σ α} {fact : τ → Prop} {x : τ}
    (h : t.Keeps rel)
    (hrel : ∀ y s', fact y → rel (proj y) s' → allowed (proj y) s' →
      ∃ z, proj z = s' ∧ c.guar y z ∧ fact z)
    (hrely : ∀ y z, fact y → c.rely y z → fact z) (hx : fact x) :
    t.Safe proj allowed c (fun _ => fact) x := by
  induction t generalizing x with
  | done a => exact fun y hy => hrely x y hx hy
  | step act next ih =>
    intro w y hy hallowed
    obtain ⟨hact, hnext⟩ := h w (proj y)
    obtain ⟨z, hproj, hz, hfact⟩ := hrel y _ (hrely x y hx hy) hact hallowed
    exact ⟨z, hproj, hz, ih w (proj y) hnext hfact⟩

/-! ## Schedules of safe handlers -/

variable {c : ι → ℕ → Contract τ} {handler : ι → Task ω σ α} {post : ι → ℕ → α → τ → Prop}
  {x₀ : τ}

variable (proj allowed c post x₀) in
/-- The handlers of the pool are safe at a state whose auxiliary data is that of `x`; `x₀` is the
state in which the schedule began. -/
structure Pool.SafeAt (pool : Pool ι ω σ α) (x : τ) : Prop where
  state : proj x = pool.state
  unstarted : ∀ k, pool.tasks.length ≤ k → ∀ i, (c i k).rely x₀ x
  started : ∀ (k : ℕ) (i : ι) (t : Task ω σ α), pool.tasks[k]? = some (i, t) →
    t.Safe proj allowed (c i k) (post i k) x

variable (proj allowed c post x₀ handler) in
/-- The handlers of the inputs that are admitted fit together: the steps of one are what the others
rely on, and a handler is safe when it starts. -/
structure Compatible (admits : ι → Prop) : Prop where
  interference : ∀ {i i' j k x y}, j ≠ k → (c i j).guar x y → (c i' k).rely x y
  start : ∀ i k x, admits i → (c i k).rely x₀ x → (handler i).Safe proj allowed (c i k) (post i k) x

variable {admits : ι → Prop}

theorem Pool.SafeAt.start {pool : Pool ι ω σ α} {x : τ}
    (hc : Compatible proj allowed c handler post x₀ admits)
    (h : pool.SafeAt proj allowed c post x₀ x) {input : ι} (hinput : admits input) :
    (pool.step handler (.start input)).SafeAt proj allowed c post x₀ x := by
  refine ⟨h.state, ?_, ?_⟩
  · intro k hk i
    simp only [Pool.step, List.length_append, List.length_singleton] at hk
    exact h.unstarted k (by omega) i
  · intro k i t hget
    simp only [Pool.step] at hget
    by_cases hk : k < pool.tasks.length
    · rw [List.getElem?_append_left hk] at hget
      exact h.started k i t hget
    · have hrely := h.unstarted k (by omega)
      rw [List.getElem?_append_right (by omega), List.getElem?_singleton] at hget
      split at hget
      · cases hget
        exact hc.start input k x hinput (hrely input)
      · cases hget

theorem Pool.SafeAt.resume {pool : Pool ι ω σ α} {x : τ}
    (hc : Compatible proj allowed c handler post x₀ admits)
    (h : pool.SafeAt proj allowed c post x₀ x) (k : ℕ) (answer : ω)
    (hallowed : allowed pool.state (pool.step handler (.resume k answer)).state) :
    ∃ z, (pool.step handler (.resume k answer)).SafeAt proj allowed c post x₀ z ∧
      (z = x ∨ ∃ i t, pool.tasks[k]? = some (i, t) ∧ (c i k).guar x z) := by
  cases hget : pool.tasks[k]? with
  | none => exact ⟨x, by simpa only [Pool.step, hget] using h, .inl rfl⟩
  | some entry =>
    obtain ⟨input, t⟩ := entry
    cases t with
    | done a => exact ⟨x, by simpa only [Pool.step, hget] using h, .inl rfl⟩
    | step act next =>
      simp only [Pool.step, hget] at hallowed ⊢
      have hsafe := h.started k input _ hget
      rw [← h.state] at hallowed ⊢
      obtain ⟨z, hproj, hguar, hnext⟩ := hsafe answer x ((c input k).refl x) hallowed
      have hlt : k < pool.tasks.length := (List.getElem?_eq_some_iff.mp hget).1
      refine ⟨z, ⟨hproj, ?_, ?_⟩, .inr ⟨input, _, rfl, hguar⟩⟩
      · intro j hj i
        rw [List.length_set] at hj
        exact (c i j).trans (h.unstarted j hj i) (hc.interference (by omega) hguar)
      · intro j i t hj
        by_cases hjk : j = k
        · subst hjk
          rw [List.getElem?_set_self hlt] at hj
          cases hj
          exact hnext
        · rw [List.getElem?_set_ne (Ne.symm hjk)] at hj
          exact (h.started j i t hj).mono (hc.interference (Ne.symm hjk) hguar)

theorem Pool.safeAt_empty (x₀ : τ) :
    (Pool.empty (proj x₀) : Pool ι ω σ α).SafeAt proj allowed c post x₀ x₀ :=
  ⟨rfl, fun k _ i => (c i k).refl x₀, by simp [Pool.empty]⟩

/-- The handlers that have been started stay in the pool. -/
theorem Pool.input_run {pool : Pool ι ω σ α} {k : ℕ} {i : ι} {t : Task ω σ α}
    (h : pool.tasks[k]? = some (i, t)) (schedule : List (Move ι ω)) :
    ∃ t', (run (Pool.step handler) pool schedule).tasks[k]? = some (i, t') := by
  induction schedule generalizing pool t with
  | nil => exact ⟨t, h⟩
  | cons move schedule ih =>
    have hlt : k < pool.tasks.length := (List.getElem?_eq_some_iff.mp h).1
    suffices hstep : ∃ t', (pool.step handler move).tasks[k]? = some (i, t') by
      obtain ⟨t', ht'⟩ := hstep
      exact ih ht'
    cases move with
    | start input => exact ⟨t, by rw [Pool.step, List.getElem?_append_left hlt, h]⟩
    | resume j answer =>
      by_cases hjk : j = k
      · subst hjk
        cases t with
        | done a => exact ⟨.done a, by simp only [Pool.step, h]⟩
        | step act next => exact ⟨_, by simpa only [Pool.step, h] using List.getElem?_set_self hlt⟩
      · refine ⟨t, ?_⟩
        simp only [Pool.step]
        split
        · rw [List.getElem?_set_ne hjk, h]
        · exact h

/-- In every schedule that obeys the condition, all handlers stay safe, and the state changes only
as the handlers that are there guarantee. -/
theorem Pool.SafeAt.run {pool : Pool ι ω σ α} {x : τ}
    (hc : Compatible proj allowed c handler post x₀ admits)
    (h : pool.SafeAt proj allowed c post x₀ x) {schedule : List (Move ι ω)}
    (hadmits : ∀ i, .start i ∈ schedule → admits i)
    (hobeys : pool.Obeys handler allowed schedule) :
    ∃ z, (run (Pool.step handler) pool schedule).SafeAt proj allowed c post x₀ z ∧
      Relation.ReflTransGen (fun x y => ∃ i k t,
        (run (Pool.step handler) pool schedule).tasks[k]? = some (i, t) ∧
          (c i k).guar x y) x z := by
  induction schedule generalizing pool x with
  | nil => exact ⟨x, h, .refl⟩
  | cons move schedule ih =>
    obtain ⟨hmove, hrest⟩ := hobeys
    have hadmits' : ∀ i, .start i ∈ schedule → admits i :=
      fun i hi => hadmits i (List.mem_cons_of_mem move hi)
    cases move with
    | start input => exact ih (h.start hc (hadmits input List.mem_cons_self)) hadmits' hrest
    | resume k answer =>
      obtain ⟨y, hy, hxy⟩ := h.resume hc k answer hmove
      obtain ⟨z, hz, hyz⟩ := ih hy hadmits' hrest
      refine ⟨z, hz, ?_⟩
      rcases hxy with rfl | ⟨i, t, hget, hguar⟩
      · exact hyz
      · obtain ⟨t', ht'⟩ : ∃ t', (Transition.run (Pool.step handler) pool
            (.resume k answer :: schedule)).tasks[k]? = some (i, t') := Pool.input_run hget _
        exact hyz.head ⟨i, k, t', ht', hguar⟩

end Safe

end Orbis.Transition
