import Mathlib.Data.List.Basic

/-!
# Runs of a transition function

A system is a function `step : σ → α → σ` that takes every input in every state; a failing
input is one that leaves the state as the program leaves it.  `run` feeds a list of inputs, and
`Along` says that a condition on the state and the next input holds at every step of the run.
-/

namespace Orbis.Transition

variable {σ α : Type*}

def run (step : σ → α → σ) (s : σ) (inputs : List α) : σ := inputs.foldl step s

@[simp] theorem run_nil (step : σ → α → σ) (s : σ) : run step s [] = s := rfl

@[simp] theorem run_cons (step : σ → α → σ) (s : σ) (a : α) (inputs : List α) :
    run step s (a :: inputs) = run step (step s a) inputs := rfl

theorem run_append (step : σ → α → σ) (s : σ) (inputs inputs' : List α) :
    run step s (inputs ++ inputs') = run step (run step s inputs) inputs' :=
  List.foldl_append

def Along (step : σ → α → σ) (guard : σ → α → Prop) : σ → List α → Prop
  | _, [] => True
  | s, a :: inputs => guard s a ∧ Along step guard (step s a) inputs

instance Along.decidable (step : σ → α → σ) (guard : σ → α → Prop)
    [∀ s a, Decidable (guard s a)] : ∀ s inputs, Decidable (Along step guard s inputs)
  | _, [] => isTrue trivial
  | s, a :: inputs => @instDecidableAnd _ _ _ (Along.decidable step guard (step s a) inputs)

theorem along_append {step : σ → α → σ} {guard : σ → α → Prop} {s : σ} {inputs inputs' : List α} :
    Along step guard s (inputs ++ inputs') ↔
      Along step guard s inputs ∧ Along step guard (run step s inputs) inputs' := by
  induction inputs generalizing s with
  | nil => simp [Along]
  | cons a inputs ih => simp [Along, ih, and_assoc]

theorem along_of_forall {step : σ → α → σ} {guard : σ → α → Prop} (h : ∀ s a, guard s a) (s : σ)
    (inputs : List α) : Along step guard s inputs := by
  induction inputs generalizing s with
  | nil => trivial
  | cons a inputs ih => exact ⟨h s a, ih _⟩

/-- What one guarded step preserves, a guarded run preserves. -/
theorem run_invariant {step : σ → α → σ} {guard : σ → α → Prop} {Inv : σ → Prop}
    (hstep : ∀ s a, guard s a → Inv s → Inv (step s a)) {s : σ} {inputs : List α}
    (hguard : Along step guard s inputs) (hinv : Inv s) : Inv (run step s inputs) := by
  induction inputs generalizing s with
  | nil => exact hinv
  | cons a inputs ih =>
    obtain ⟨hhead, htail⟩ := hguard
    exact ih htail (hstep s a hhead hinv)

/-- A guard that says exactly when a step keeps the invariant holds along a run exactly if the
invariant holds at every moment of the run. -/
theorem along_iff_forall_seen {step : σ → α → σ} {guard : σ → α → Prop} {Inv : σ → Prop}
    (hstep : ∀ s a, Inv s → (Inv (step s a) ↔ guard s a)) {s : σ} (hinv : Inv s)
    (inputs : List α) :
    Along step guard s inputs ↔ ∀ seen, seen <+: inputs → Inv (run step s seen) := by
  induction inputs generalizing s with
  | nil => simpa [Along] using hinv
  | cons a inputs ih =>
    constructor
    · rintro ⟨hhead, htail⟩ seen hseen
      rcases List.prefix_cons_iff.mp hseen with rfl | ⟨rest, rfl, hrest⟩
      · exact hinv
      · exact (ih ((hstep s a hinv).mpr hhead)).mp htail rest hrest
    · intro h
      have hnext : Inv (step s a) := h [a] ((List.prefix_cons_inj a).mpr List.nil_prefix)
      refine ⟨(hstep s a hinv).mp hnext, (ih hnext).mpr fun seen hseen => ?_⟩
      exact h (a :: seen) ((List.prefix_cons_inj a).mpr hseen)

/-- What every step preserves, every run preserves. -/
theorem run_induction {step : σ → α → σ} {Inv : σ → Prop}
    (hstep : ∀ s a, Inv s → Inv (step s a)) {s : σ} (hinv : Inv s) (inputs : List α) :
    Inv (run step s inputs) := by
  induction inputs generalizing s with
  | nil => exact hinv
  | cons a inputs ih => exact ih (hstep s a hinv)

end Orbis.Transition
