import Orbis.Transition.Task

/-!
# Triples under interference

Rules of pre- and postconditions for handlers that share a state.  All handlers keep one invariant;
each has a contract with the others, as in `Task.Safe`, that is kept in states with the invariant.
An assertion that the others cannot falsify is stable.  A triple says that a handler, started in a
state with the precondition, keeps the invariant and its contract in the schedules that are
considered, whatever the others do between two steps, and that its result has the postcondition.
Handlers can fail; the postcondition is about the results.
-/

namespace Orbis.Transition

variable {ω σ τ α β ε ι : Type}

/-- What all handlers have in common.  The invariant is about the state and the auxiliary data;
`allowed` is a condition on the steps of the schedules that are considered. -/
structure Shared (σ τ : Type) where
  proj : τ → σ
  invariant : τ → Prop
  allowed : σ → σ → Prop

/-- What one handler is subject to. -/
structure Interference (σ τ : Type) extends Shared σ τ, Contract τ

/-- A change from a state with the invariant. -/
def Shared.Within (S : Shared σ τ) (rel : τ → τ → Prop) (x y : τ) : Prop :=
  S.invariant x → S.invariant y ∧ rel x y

/-- A handler that moves on is still one of those with a property, if it keeps the property. -/
theorem exists_update {κ : Type*} {P : κ → Prop} {f : ℕ → κ} {k : ℕ} {b : κ} (h : ∃ j, P (f j))
    (hk : P (f k) → P b) : ∃ j, P (Function.update f k b j) := by
  obtain ⟨j, hj⟩ := h
  by_cases hjk : j = k
  · subst hjk
    exact ⟨j, by simpa using hk hj⟩
  · exact ⟨j, by simpa [hjk] using hj⟩

/-- Steps that keep the invariant. -/
theorem Shared.chain {S : Shared σ τ} {rel rel' : τ → τ → Prop} {x z : τ}
    (h : ∀ x y, S.invariant x → rel x y → S.invariant y ∧ rel' x y) (hx : S.invariant x)
    (hxz : Relation.ReflTransGen rel x z) :
    S.invariant z ∧ Relation.ReflTransGen rel' x z := by
  induction hxz with
  | refl => exact ⟨hx, .refl⟩
  | tail _ hstep ih =>
    obtain ⟨hz, hrel⟩ := h _ _ ih.1 hstep
    exact ⟨hz, ih.2.tail hrel⟩

namespace Interference

variable (I : Interference σ τ)

def contract : Contract τ where
  rely := I.Within I.rely
  guar := I.Within I.guar
  refl x hx := ⟨hx, I.refl x⟩
  trans hxy hyz hx := ⟨(hyz (hxy hx).1).1, I.trans (hxy hx).2 (hyz (hxy hx).1).2⟩

def Stable (fact : τ → Prop) : Prop := ∀ x y, I.invariant x → fact x → I.rely x y → fact y

/-- `failed` is about the error and the state in which the handler fails. -/
def Ends (pre : τ → Prop) (p : ExceptT ε (Task ω σ) α) (post : α → τ → Prop)
    (failed : ε → τ → Prop) : Prop :=
  ∀ x, I.invariant x → pre x → Task.Safe I.proj I.allowed I.contract
    (fun r y => I.invariant y ∧ (∀ a, r = .ok a → post a y) ∧ ∀ e, r = .error e → failed e y)
    p.run x

/-- `err` is about the state in which the handler fails. -/
def Outcome (pre : τ → Prop) (p : ExceptT ε (Task ω σ) α) (post : α → τ → Prop)
    (err : τ → Prop) : Prop :=
  I.Ends pre p post fun _ => err

/-- Nothing is said about failures. -/
def Triple (pre : τ → Prop) (p : ExceptT ε (Task ω σ) α) (post : α → τ → Prop) : Prop :=
  I.Outcome pre p post fun _ => True

variable {I} {pre pre' fact fact' err err' : τ → Prop} {mid post post' : α → τ → Prop}
  {final : β → τ → Prop} {failed failed' : ε → τ → Prop} {p : ExceptT ε (Task ω σ) α}
  {f : α → ExceptT ε (Task ω σ) β} {handle : ε → ExceptT ε (Task ω σ) α}

theorem Stable.and (h : I.Stable fact) (h' : I.Stable fact') :
    I.Stable fun x => fact x ∧ fact' x :=
  fun x y hinv hx hrely => ⟨h x y hinv hx.1 hrely, h' x y hinv hx.2 hrely⟩

theorem Stable.or (h : I.Stable fact) (h' : I.Stable fact') :
    I.Stable fun x => fact x ∨ fact' x :=
  fun x y hinv hx hrely =>
    hx.imp (fun hx => h x y hinv hx hrely) fun hx => h' x y hinv hx hrely

theorem Stable.imp {c : Prop} (h : I.Stable fact) : I.Stable fun x => c → fact x :=
  fun x y hinv hx hrely hc => h x y hinv (hx hc) hrely

theorem stable_true : I.Stable fun _ => True := fun _ _ _ _ _ => trivial

theorem stable_const (c : Prop) : I.Stable fun _ => c := fun _ _ _ hc _ => hc

namespace Ends

theorem mono (h : I.Ends pre p post failed) (hpre : ∀ x, I.invariant x → pre' x → pre x)
    (hpost : ∀ a x, I.invariant x → post a x → post' a x)
    (hfailed : ∀ e x, I.invariant x → failed e x → failed' e x) : I.Ends pre' p post' failed' :=
  fun x hinv hx => (h x hinv (hpre x hinv hx)).weaken fun _ y hy =>
    ⟨hy.1, fun a ha => hpost a y hy.1 (hy.2.1 a ha), fun e he => hfailed e y hy.1 (hy.2.2 e he)⟩

theorem pure {a : α} (hpre : ∀ x, I.invariant x → pre x → post a x)
    (hstable : I.Stable (post a)) :
    I.Ends pre (pure a : ExceptT ε (Task ω σ) α) post failed := by
  intro x hinv hx y hxy
  obtain ⟨hy, hrely⟩ := hxy hinv
  refine ⟨hy, fun b hb => ?_, fun e he => by cases he⟩
  cases hb
  exact hstable x y hinv (hpre x hinv hx) hrely

theorem throw {e : ε} (hpre : ∀ x, I.invariant x → pre x → failed e x)
    (hstable : I.Stable (failed e)) :
    I.Ends pre (throw e : ExceptT ε (Task ω σ) α) post failed := by
  intro x hinv hx y hxy
  obtain ⟨hy, hrely⟩ := hxy hinv
  refine ⟨hy, fun b hb => (by cases hb), fun e' he => ?_⟩
  cases he
  exact hstable x y hinv (hpre x hinv hx) hrely

theorem bind (hp : I.Ends pre p mid failed) (hf : ∀ a, I.Ends (mid a) (f a) final failed) :
    I.Ends pre (p >>= f) final failed := by
  intro x hinv hx
  refine Task.Safe.bind (hp x hinv hx).stable fun r y hr => ?_
  cases r with
  | ok a =>
    obtain ⟨hy, hmid, -⟩ := hr y (I.contract.refl y)
    exact hf a y hy (hmid a rfl)
  | error e =>
    intro z hz
    obtain ⟨hinv', -, hfailed⟩ := hr z hz
    refine ⟨hinv', fun b hb => (by cases hb), fun e' he => ?_⟩
    cases he
    exact hfailed e rfl

theorem tryCatch
    (hp : I.Ends pre p post failed) (hhandle : ∀ e, I.Ends (failed e) (handle e) post failed') :
    I.Ends pre (tryCatch p handle) post failed' := by
  intro x hinv hx
  refine Task.Safe.bind (hp x hinv hx).stable fun r y hr => ?_
  cases r with
  | ok a =>
    intro z hz
    obtain ⟨hinv', hpost, -⟩ := hr z hz
    refine ⟨hinv', fun b hb => ?_, fun e he => by cases he⟩
    cases hb
    exact hpost a rfl
  | error e =>
    obtain ⟨hy, -, hfailed⟩ := hr y (I.contract.refl y)
    exact hhandle e y hy (hfailed e rfl)

/-- One step. -/
theorem atomically {f : ω → σ → σ × Except ε α} (hpre : I.Stable pre)
    (hpost : ∀ a, I.Stable (post a)) (hfailed : ∀ e, I.Stable (failed e))
    (h : ∀ w x, I.invariant x → pre x → I.allowed (I.proj x) (f w (I.proj x)).1 →
      ∃ y, I.proj y = (f w (I.proj x)).1 ∧ I.invariant y ∧ I.guar x y ∧
        (∀ a, (f w (I.proj x)).2 = .ok a → post a y) ∧
        ∀ e, (f w (I.proj x)).2 = .error e → failed e y) :
    I.Ends pre (ExceptT.mk (Task.atomically f)) post failed := by
  intro x hinv hx w y hxy hallowed
  obtain ⟨hy, hrely⟩ := hxy hinv
  obtain ⟨z, hproj, hz, hguar, hok, herror⟩ := h w y hy (hpre x y hinv hx hrely) hallowed
  refine ⟨z, hproj, fun _ => ⟨hz, hguar⟩, fun z' hz' => ?_⟩
  obtain ⟨hinv', hrely'⟩ := hz' hz
  exact ⟨hinv', fun a ha => hpost a z z' hz (hok a ha) hrely',
    fun e he => hfailed e z z' hz (herror e he) hrely'⟩

/-- A part of the precondition that is not about the state. -/
theorem assume {c : Prop} (h : c → I.Ends pre p post failed) :
    I.Ends (fun x => c ∧ pre x) p post failed :=
  fun x hinv hx => h hx.1 x hinv hx.2

/-- An assertion that the handler's own steps keep too can be carried through. -/
theorem carry (h : I.Ends pre p post failed) (hstable : I.Stable fact)
    (hguar : ∀ x y, I.invariant x → fact x → I.guar x y → fact y) :
    I.Ends (fun x => pre x ∧ fact x) p (fun a x => post a x ∧ fact x)
      fun e x => failed e x ∧ fact x := by
  intro x hinv hx
  have hrely : ∀ y z, I.invariant y ∧ fact y → I.contract.rely y z → I.invariant z ∧ fact z :=
    fun y z hy hyz => ⟨(hyz hy.1).1, hstable y z hy.1 hy.2 (hyz hy.1).2⟩
  have hown : ∀ y z, I.invariant y ∧ fact y → I.contract.guar y z → I.invariant z ∧ fact z :=
    fun y z hy hyz => ⟨(hyz hy.1).1, hguar y z hy.1 hy.2 (hyz hy.1).2⟩
  refine ((h x hinv hx.1).remember hrely hown ⟨hinv, hx.2⟩).weaken fun _ y hy => ?_
  exact ⟨hy.1.1, fun a ha => ⟨hy.1.2.1 a ha, hy.2.2⟩, fun e he => ⟨hy.1.2.2 e he, hy.2.2⟩⟩

end Ends

/-! ## Failures of one kind -/

namespace Outcome

theorem mono (h : I.Outcome pre p post err) (hpre : ∀ x, I.invariant x → pre' x → pre x)
    (hpost : ∀ a x, I.invariant x → post a x → post' a x)
    (herr : ∀ x, I.invariant x → err x → err' x) : I.Outcome pre' p post' err' :=
  Ends.mono h hpre hpost fun _ => herr

theorem bind (hp : I.Outcome pre p mid err) (hf : ∀ a, I.Outcome (mid a) (f a) final err) :
    I.Outcome pre (p >>= f) final err :=
  Ends.bind hp hf

/-- Steps within a relation whose changes the others can bear. -/
theorem frame {rel : σ → σ → Prop} (h : p.run.Keeps rel) (hstable : I.Stable fact)
    (hstep : ∀ x s', I.invariant x → fact x → rel (I.proj x) s' → I.allowed (I.proj x) s' →
      ∃ y, I.proj y = s' ∧ I.invariant y ∧ I.guar x y ∧ fact y) :
    I.Outcome fact p (fun _ => fact) fact := by
  intro x hinv hx
  have hsafe : p.run.Safe I.proj I.allowed I.contract (fun _ y => I.invariant y ∧ fact y) x := by
    refine h.safe ?_ ?_ ⟨hinv, hx⟩
    · rintro y s' ⟨hy, hfact⟩ hrel hallowed
      obtain ⟨z, hproj, hz, hguar, hfact'⟩ := hstep y s' hy hfact hrel hallowed
      exact ⟨z, hproj, fun _ => ⟨hz, hguar⟩, hz, hfact'⟩
    · rintro y z ⟨hy, hfact⟩ hyz
      obtain ⟨hz, hrely⟩ := hyz hy
      exact ⟨hz, hstable y z hy hfact hrely⟩
  exact hsafe.weaken fun _ y hy => ⟨hy.1, fun _ _ => hy.2, fun _ _ => hy.2⟩

theorem triple (h : I.Outcome pre p post err) : I.Triple pre p post :=
  h.mono (fun _ _ hx => hx) (fun _ _ _ hx => hx) fun _ _ _ => trivial

end Outcome

namespace Triple

theorem mono (h : I.Triple pre p post) (hpre : ∀ x, I.invariant x → pre' x → pre x)
    (hpost : ∀ a x, I.invariant x → post a x → post' a x) : I.Triple pre' p post' :=
  Outcome.mono h hpre hpost fun _ _ h => h

theorem pure {a : α} (hpre : ∀ x, I.invariant x → pre x → post a x)
    (hstable : I.Stable (post a)) : I.Triple pre (pure a : ExceptT ε (Task ω σ) α) post :=
  Ends.pure hpre hstable

theorem throw (e : ε) : I.Triple pre (throw e : ExceptT ε (Task ω σ) α) post :=
  Ends.throw (fun _ _ _ => trivial) stable_true

theorem bind (hp : I.Triple pre p mid) (hf : ∀ a, I.Triple (mid a) (f a) final) :
    I.Triple pre (p >>= f) final :=
  Outcome.bind hp hf

/-- What does not look at the state is known from then on. -/
theorem bind_result {r : Except ε α} (h : ∀ a, r = .ok a → I.Triple pre (f a) final) :
    I.Triple pre (ExceptT.mk (Pure.pure r) >>= f) final := by
  cases r with
  | ok a => exact h a rfl
  | error e => exact throw e

/-- A last step that is taken whatever the result. -/
theorem afterwards {g : Except ε α → σ → σ} (hp : I.Triple pre p mid)
    (hpost : ∀ a, I.Stable (post a))
    (h : ∀ r x, I.invariant x → (∀ a, r = .ok a → mid a x) → I.allowed (I.proj x) (g r (I.proj x)) →
      ∃ y, I.proj y = g r (I.proj x) ∧ I.invariant y ∧ I.guar x y ∧ ∀ a, r = .ok a → post a y) :
    I.Triple pre (ExceptT.mk (do
      let r ← p.run
      Task.atomically fun _ s => (g r s, ())
      Pure.pure r)) post := by
  intro x hinv hx
  refine Task.Safe.bind (hp x hinv hx).stable fun r y hr w z hyz hallowed => ?_
  obtain ⟨hz, hmid, -⟩ := hr z hyz
  obtain ⟨z', hproj, hz', hguar, hresult⟩ := h r z hz hmid hallowed
  refine ⟨z', hproj, fun _ => ⟨hz', hguar⟩, fun u hu => ?_⟩
  obtain ⟨hinv', hrely⟩ := hu hz'
  exact ⟨hinv', fun a ha => hpost a z' u hz' (hresult a ha) hrely, fun _ _ => trivial⟩

/-- One step. -/
theorem atomically {f : ω → σ → σ × Except ε α} (hpre : I.Stable pre)
    (hpost : ∀ a, I.Stable (post a))
    (h : ∀ w x, I.invariant x → pre x → I.allowed (I.proj x) (f w (I.proj x)).1 →
      ∃ y, I.proj y = (f w (I.proj x)).1 ∧ I.invariant y ∧ I.guar x y ∧
        ∀ a, (f w (I.proj x)).2 = .ok a → post a y) :
    I.Triple pre (ExceptT.mk (Task.atomically f)) post := by
  refine Ends.atomically hpre hpost (fun _ => stable_true) fun w x hinv hx hallowed => ?_
  obtain ⟨y, hproj, hy, hguar, hok⟩ := h w x hinv hx hallowed
  exact ⟨y, hproj, hy, hguar, hok, fun _ _ => trivial⟩

/-- An assertion that the handler's own steps keep too can be carried through. -/
theorem carry (h : I.Triple pre p post) (hstable : I.Stable fact)
    (hguar : ∀ x y, I.invariant x → fact x → I.guar x y → fact y) :
    I.Triple (fun x => pre x ∧ fact x) p fun a x => post a x ∧ fact x :=
  (Ends.carry h hstable hguar).mono (fun _ _ hx => hx) (fun _ _ _ hx => hx) fun _ _ _ _ => trivial

theorem forM {l : List β} {f : β → ExceptT ε (Task ω σ) Unit} (hstable : I.Stable fact)
    (h : ∀ b ∈ l, I.Triple fact (f b) fun _ => fact) : I.Triple fact (l.forM f) fun _ => fact := by
  induction l with
  | nil =>
    have hnil : I.Triple fact (Pure.pure () : ExceptT ε (Task ω σ) Unit) fun _ => fact :=
      Triple.pure (fun _ _ h => h) hstable
    exact hnil
  | cons b l ih =>
    exact (h b List.mem_cons_self).bind fun _ =>
      ih fun b' hb' => h b' (List.mem_cons_of_mem b hb')

end Triple

end Interference

/-! ## Pools -/

section Run

variable {S : Shared σ τ} {c : ι → ℕ → Contract τ} {handler : ι → Task ω σ (Except ε α)}
  {start : ι → ℕ → τ → Prop} {post : ι → ℕ → α → τ → Prop} {admits : ι → Prop}

variable (S c handler start post admits) in
/-- The handlers of the inputs that are admitted have their triples, and the steps of one are what
the others rely on. -/
structure Triples : Prop where
  interference : ∀ {i i' j k x y}, j ≠ k → (c i j).guar x y → (c i' k).rely x y
  stable : ∀ i k, (Interference.mk S (c i k)).Stable (start i k)
  triple : ∀ i k, admits i →
    (Interference.mk S (c i k)).Triple (start i k) (ExceptT.mk (handler i)) (post i k)

variable (S c post) in
/-- The pool has been reached from `x₀`: its handlers are safe at `x`. -/
structure Pool.Reached (x₀ : τ) (pool : Pool ι ω σ (Except ε α)) (x : τ) : Prop where
  invariant : S.invariant x
  safe : pool.SafeAt S.proj S.allowed (fun i k => (Interference.mk S (c i k)).contract)
    (fun i k r y => S.invariant y ∧ (∀ a, r = .ok a → post i k a y) ∧ ∀ e, r = .error e → True)
    x₀ x

theorem Pool.reached_empty {x₀ : τ} (hinv : S.invariant x₀) :
    (Pool.empty (S.proj x₀) : Pool ι ω σ (Except ε α)).Reached S c post x₀ x₀ :=
  ⟨hinv, Pool.safeAt_empty x₀⟩

namespace Pool.Reached

variable {x₀ x : τ} {pool : Pool ι ω σ (Except ε α)} (h : pool.Reached S c post x₀ x)

include h

theorem state : S.proj x = pool.state := h.safe.state

theorem unstarted (hinv : S.invariant x₀) {k : ℕ} (hk : pool.tasks.length ≤ k) (i : ι) :
    (c i k).rely x₀ x :=
  (h.safe.unstarted k hk i hinv).2

theorem finished {k : ℕ} {i : ι} {a : α} (hk : pool.result k = some (i, .ok a)) :
    post i k a x :=
  (h.safe.started k i _ (Pool.tasks_of_result hk) x
    ((Interference.mk S (c i k)).contract.refl x)).2.1 a rfl

/-- Along every schedule that obeys the condition the state changes only as the handlers that are
there guarantee. -/
theorem run (ht : Triples S c handler start post admits) (hinv : S.invariant x₀)
    (hstart : ∀ i k, start i k x₀) {schedule : List (Move ι ω)}
    (hadmits : ∀ i, .start i ∈ schedule → admits i)
    (hobeys : pool.Obeys handler S.allowed schedule) :
    ∃ z, (Transition.run (Pool.step handler) pool schedule).Reached S c post x₀ z ∧
      Relation.ReflTransGen (fun x y => ∃ i k t,
        (Transition.run (Pool.step handler) pool schedule).tasks[k]? = some (i, t) ∧
          (c i k).guar x y) x z := by
  have hc : Compatible S.proj S.allowed (fun i k => (Interference.mk S (c i k)).contract) handler
      (fun i k r y => S.invariant y ∧ (∀ a, r = .ok a → post i k a y) ∧ ∀ e, r = .error e → True)
      x₀ admits := by
    refine ⟨fun hjk hguar hx => ⟨(hguar hx).1, ht.interference hjk (hguar hx).2⟩, ?_⟩
    intro i k x hi hrely
    obtain ⟨hx, hrely⟩ := hrely hinv
    exact ht.triple i k hi x hx (ht.stable i k x₀ x hinv (hstart i k) hrely)
  obtain ⟨z, hz, hxz⟩ := h.safe.run hc hadmits hobeys
  -- The steps are within the contracts, and all states have the invariant.
  have hsteps : S.invariant z ∧ Relation.ReflTransGen (fun x y => ∃ i k t,
      (Transition.run (Pool.step handler) pool schedule).tasks[k]? = some (i, t) ∧
        (c i k).guar x y) x z := by
    refine S.chain ?_ h.invariant hxz
    rintro x y hx ⟨i, k, t, hget, hguar⟩
    exact ⟨(hguar hx).1, i, k, t, hget, (hguar hx).2⟩
  exact ⟨z, ⟨hsteps.1, hz⟩, hsteps.2⟩

end Pool.Reached

/-- Handlers of which the same is known however they end. -/
theorem compatible_of_outcome {fact : ι → ℕ → τ → Prop} {x₀ : τ}
    (hinterference : ∀ {i i' j k x y}, j ≠ k → (c i j).guar x y → (c i' k).rely x y)
    (hstable : ∀ i k, (Interference.mk S (c i k)).Stable (fact i k))
    (houtcome : ∀ i k, admits i → (Interference.mk S (c i k)).Outcome (fact i k)
      (ExceptT.mk (handler i)) (fun _ => fact i k) (fact i k))
    (hinv : S.invariant x₀) (hstart : ∀ i k, fact i k x₀) :
    Compatible S.proj S.allowed (fun i k => (Interference.mk S (c i k)).contract) handler
      (fun i k _ y => S.invariant y ∧ fact i k y) x₀ admits := by
  refine ⟨fun hjk hguar hx => ⟨(hguar hx).1, hinterference hjk (hguar hx).2⟩, ?_⟩
  intro i k x hi hrely
  obtain ⟨hx, hrely⟩ := hrely hinv
  refine (houtcome i k hi x hx (hstable i k x₀ x hinv (hstart i k) hrely)).weaken ?_
  rintro r y ⟨hy, hok, herror⟩
  cases r with
  | ok a => exact ⟨hy, hok a rfl⟩
  | error e => exact ⟨hy, herror e rfl⟩

end Run

end Orbis.Transition
